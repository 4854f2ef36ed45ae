/-!
# Diagnostic notation

The notation of diagnostic texts: quoted strings, lists, options, records and
maps, all on one line.

A quoted string escapes the quote, the backslash and the usual white space with
a letter. The remaining control characters and the two line separators of
Unicode are written by their code point in braces.
-/

namespace ClassLowering
namespace Diagnostic

/-- Whether a character has no visible form of its own inside a quoted
string. -/
def isInvisible (c : Char) : Bool :=
  c.toNat < 0x20 || (0x7f ≤ c.toNat && c.toNat ≤ 0x9f) || c.toNat = 0x2028 ||
    c.toNat = 0x2029

/-- One character of a quoted string. -/
def quotedChar (c : Char) : List Char :=
  if c = '"' then ['\\', '"']
  else if c = '\\' then ['\\', '\\']
  else if c = '\n' then ['\\', 'n']
  else if c = '\r' then ['\\', 'r']
  else if c = '\t' then ['\\', 't']
  else if c.toNat = 0 then ['\\', '0']
  else if isInvisible c then ['\\', 'u', '{'] ++
    Nat.toDigits 16 c.toNat ++ ['}']
  else [c]

/-- A text between quotes, with its special characters escaped. -/
def quoted (text : String) : String :=
  .ofList ('"' :: (text.toList.flatMap quotedChar ++ ['"']))

/-- Texts in brackets. -/
def list (texts : List String) : String :=
  "[" ++ ", ".intercalate texts ++ "]"

/-- An optional text. -/
def option : Option String -> String
  | none => "None"
  | some text => "Some(" ++ text ++ ")"

/-- A name followed by named texts in braces. -/
def record (name : String) (fields : List (String × String)) : String :=
  name ++ " \x7b " ++ ", ".intercalate
    (fields.map fun field => field.1 ++ ": " ++ field.2) ++ " \x7d"

/-- Texts under quoted keys in braces. -/
def map (entries : List (String × String)) : String :=
  "\x7b" ++ ", ".intercalate
    (entries.map fun entry => quoted entry.1 ++ ": " ++ entry.2) ++ "\x7d"

/-- A truth value. -/
def bool (b : Bool) : String := if b then "true" else "false"

end Diagnostic
end ClassLowering
