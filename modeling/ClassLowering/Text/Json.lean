/-!
# JSON documents

Documents keep the members of their objects in order. They are written over
several lines: two more spaces for every level, one member or element a line,
and nothing between the brackets of an empty list or object.

Strings escape the quote, the backslash and control characters below the space;
every other character stands for itself.
-/

namespace ClassLowering

/-- The part of JSON that reports need. -/
inductive Json
  | bool (value : Bool)
  | string (text : String)
  | list (elements : List Json)
  | record (members : List (String × Json))

namespace Json

/-- The lower-case hexadecimal digit of a number below 16. -/
def hexDigit (n : Nat) : Char := (Nat.toDigits 16 (n % 16)).headD '0'

/-- One character of a string. -/
def stringChar (c : Char) : List Char :=
  if c = '"' then ['\\', '"']
  else if c = '\\' then ['\\', '\\']
  else if c = '\n' then ['\\', 'n']
  else if c = '\r' then ['\\', 'r']
  else if c = '\t' then ['\\', 't']
  else if c.toNat = 8 then ['\\', 'b']
  else if c.toNat = 12 then ['\\', 'f']
  else if c.toNat < 0x20 then
    ['\\', 'u', '0', '0', hexDigit (c.toNat / 16), hexDigit c.toNat]
  else [c]

/-- A string literal. -/
def stringText (text : String) : String :=
  .ofList ('"' :: (text.toList.flatMap stringChar ++ ['"']))

/-- The start of a line at a level. -/
def indentation (level : Nat) : String :=
  .ofList (List.replicate (2 * level) ' ')

/-- Lay out the parts of a list or object, one a line, between two brackets. -/
def enclose (opening closing : String) (level : Nat) : List String -> String
  | [] => opening ++ closing
  | parts =>
      opening ++ "\n" ++
        ",\n".intercalate (parts.map fun part =>
          indentation (level + 1) ++ part) ++
        "\n" ++ indentation level ++ closing

mutual

/-- The text of a document whose first line starts at a level. -/
def textAt (level : Nat) : Json -> String
  | .bool value => if value then "true" else "false"
  | .string text => stringText text
  | .list elements => enclose "[" "]" level (elementTexts (level + 1) elements)
  | .record members =>
      enclose "\x7b" "\x7d" level (memberTexts (level + 1) members)

/-- The texts of the elements of a list. -/
def elementTexts (level : Nat) : List Json -> List String
  | [] => []
  | element :: rest => element.textAt level :: elementTexts level rest

/-- The texts of the members of an object. -/
def memberTexts (level : Nat) : List (String × Json) -> List String
  | [] => []
  | (name, value) :: rest =>
      (stringText name ++ ": " ++ value.textAt level) :: memberTexts level rest

end

/-- The text of a document, without a line end after it. -/
def text (document : Json) : String := document.textAt 0

end Json
end ClassLowering
