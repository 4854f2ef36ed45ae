import ClassLowering.Outline.Basic

/-!
# The function form of a class

A class is written as the constructor function that it lowers to. The
function refuses to run without construction, assigns the fields in order,
and is followed by one definition for every member of the prototype. Bodies
are not shown.

Symbols have no literal. Each symbol among the keys gets a temporary
variable at the top, in the order of first use: keys of the prototype first,
then keys of fields.
-/

namespace ClassLowering

namespace FunctionForm

/-- The variables for symbols: a symbol and the name of its variable. -/
abbrev Temporaries := List (Symbol × String)

/-- The upper-case hexadecimal digit of a number below 16. -/
def upperHexDigit (n : Nat) : Char :=
  ((Nat.toDigits 16 (n % 16)).headD '0').toUpper

/-- One character of a string literal. -/
def literalChar (c : Char) : List Char :=
  if c = '"' then ['\\', '"']
  else if c = '\\' then ['\\', '\\']
  else if c = '\n' then ['\\', 'n']
  else if c = '\r' then ['\\', 'r']
  else if c = '\t' then ['\\', 't']
  else if c.toNat < 0x20 || c.toNat = 0x7f then
    ['\\', 'u', '0', '0', upperHexDigit (c.toNat / 16), upperHexDigit c.toNat]
  else [c]

/-- The characters of a text between the quotes of a string literal. -/
def literalChars (text : String) : List Char := text.toList.flatMap literalChar

/-- A string literal. -/
def literal (text : String) : String :=
  .ofList ('"' :: (literalChars text ++ ['"']))

/-- The name of the temporary with an index: a letter, with a number
after the first 26. -/
def temporaryName (index : Nat) : String :=
  let letter := Char.ofNat ('a'.toNat + index % 26)
  .ofList ('_' :: letter :: if index / 26 = 0 then []
    else Nat.toDigits 10 (index / 26))

/-- The symbols among some keys, each once, in the order of first use. -/
def distinctSymbols (keys : List PropertyKey) : List Symbol :=
  (keys.foldl (fun found key =>
    match key with
    | .ofText _ => found
    | .ofSymbol symbol =>
        if found.contains symbol then found else found ++ [symbol]) [])

/-- Name the symbols by their index. -/
def nameSymbols (symbols : List Symbol) : Temporaries :=
  symbols.zipIdx.map fun indexed => (indexed.1, temporaryName indexed.2)

/-- The variable of a symbol. -/
def temporary (temporaries : Temporaries) (symbol : Symbol) : String :=
  match temporaries.find? fun named => named.1 == symbol with
  | some named => named.2
  | none => "/* " ++ symbol.text ++ " */ void 0"

/-- A key as an expression: a string literal or the variable of a symbol. -/
def keyExpression (temporaries : Temporaries) : PropertyKey -> String
  | .ofText text => literal text
  | .ofSymbol symbol => temporary temporaries symbol

/-- The access to a member: after a point if the key is an identifier,
else in brackets. -/
def memberAccess (temporaries : Temporaries) (key : PropertyKey) : String :=
  match key with
  | .ofText text =>
      if key.isIdentifier then "." ++ text
        else "[" ++ keyExpression temporaries key ++ "]"
  | .ofSymbol _ => "[" ++ keyExpression temporaries key ++ "]"

/-- Parameters in parentheses and a body that is not shown. -/
def signature (params : List String) : String :=
  "(" ++ ", ".intercalate params ++ ") \x7b [native code] \x7d"

/-- A function without its body. A name is written only where asked for,
and if it is one. -/
def functionStub (function : FunctionOutline) (isNamed : Bool) : String :=
  (if function.isGenerator then "function* " else "function ") ++
    (if isNamed && CharacterClass.isIdentifier function.name
      then function.name else "") ++
    signature function.params

/-- A line of code at a level of indentation. -/
structure Line where
  level : Nat
  code : String
  deriving DecidableEq, Repr

/-- A line with its indentation and its end. -/
def Line.text (line : Line) : String :=
  .ofList (List.replicate (4 * line.level) ' ') ++ line.code ++ "\n"

/-- The declaration of the variable of a symbol. -/
def temporaryLine (named : Symbol × String) : Line :=
  ⟨1, "var " ++ named.2 ++ " = Symbol(" ++
    (named.1.description.map literal).getD "" ++ ");"⟩

/-- The assignment of a field in the constructor. -/
def fieldLine (temporaries : Temporaries) (field : FieldOutline) : Line :=
  ⟨2, "this" ++ memberAccess temporaries field.key ++ " = " ++
    (if field.hasInitializer
      then "(function () \x7b [native code] \x7d).call(this)"
      else "void 0") ++ ";"⟩

/-- The constructor function. -/
def constructorLines (temporaries : Temporaries) (rendered : String)
    (outline : ClassOutline) :
    List Line :=
  [⟨1, "function " ++ rendered ++ "(" ++
    ", ".intercalate outline.params ++ ") \x7b"⟩,
    ⟨2, "if (!(this instanceof " ++ rendered ++ ")) \x7b"⟩,
    ⟨3, "throw new TypeError(" ++
      literal (Fault.invocationMessage outline.name) ++ ");"⟩,
    ⟨2, "\x7d"⟩] ++
  outline.fields.map (fieldLine temporaries) ++
  [⟨2, "[native code]"⟩, ⟨1, "\x7d"⟩]

/-- A truth value. -/
def truthText (b : Bool) : String := if b then "true" else "false"

/-- One side of an accessor. -/
def sideLines (label : String) (side : Option FunctionOutline) : List Line :=
  (side.map fun function =>
    ⟨2, label ++ ": " ++ functionStub function false ++ ","⟩).toList

/-- The lines that say what an entry is. The link to the class needs none. -/
def descriptionLines (attributes : Attributes) :
    EntryOutline -> Option (List Line)
  | .constructor => none
  | .method function =>
      some [⟨2, "value: " ++ functionStub function true ++ ","⟩,
        ⟨2, "writable: " ++ truthText attributes.writable ++ ","⟩]
  | .accessor getter setter =>
      some (sideLines "get" getter ++ sideLines "set" setter)

/-- The definition of an entry of the prototype. -/
def entryLines (temporaries : Temporaries) (rendered : String)
    (member : MemberOutline) : List Line :=
  match descriptionLines member.attributes member.entry with
  | none => []
  | some description =>
      [⟨1, "Object.defineProperty(" ++ rendered ++ ".prototype, " ++
        keyExpression temporaries member.key ++ ", \x7b"⟩] ++
      description ++
      [⟨2, "enumerable: " ++ truthText member.attributes.enumerable ++ ","⟩,
        ⟨2, "configurable: " ++ truthText member.attributes.configurable⟩,
        ⟨1, "\x7d);"⟩]

end FunctionForm

namespace ClassOutline

open FunctionForm

/-- The name in the function form. A class without a name gets one. -/
def renderedName (outline : ClassOutline) : String :=
  if outline.name = "" then "class_1" else outline.name

/-- The keys of a class: those of the prototype, then those of the fields. -/
def keys (outline : ClassOutline) : List PropertyKey :=
  outline.entries.map MemberOutline.key ++ outline.fields.map FieldOutline.key

/-- The variables for the symbols among the keys of a class. -/
def temporaries (outline : ClassOutline) : Temporaries :=
  nameSymbols (distinctSymbols outline.keys)

/-- The function form of a class, line by line. -/
def functionFormLines (outline : ClassOutline) : List Line :=
  let temporaries := outline.temporaries
  let rendered := outline.renderedName
  [⟨0, "var " ++ rendered ++ " = /** @class */ (function () \x7b"⟩] ++
  temporaries.map temporaryLine ++
  constructorLines temporaries rendered outline ++
  outline.entries.flatMap (entryLines temporaries rendered) ++
  [⟨1, "return " ++ rendered ++ ";"⟩, ⟨0, "\x7d());"⟩]

/-- The function form of a class. -/
def functionForm (outline : ClassOutline) : String :=
  String.join (outline.functionFormLines.map Line.text)

end ClassOutline
end ClassLowering
