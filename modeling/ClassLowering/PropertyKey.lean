import ClassLowering.Text.CharacterClass

/-!
# Property keys

Every member of a class and every field of an object is addressed by a property
key: a text or a symbol. A symbol is a number drawn from a counter together with
the description it was created with, and differs from every text.

Symbols are told apart by their numbers alone: their descriptions never take
part in a comparison. Two symbols that were created with one number are one key,
whatever they are called. Whether two keys are one is asked with `==`; equality
of all their data is for statements and tests only.
-/

namespace ClassLowering

/-- The numbers of symbols: a counter of 32 bits that wraps around. -/
abbrev SymbolNumber := UInt32

/-- A token with a number of its own and an optional description. -/
structure Symbol where
  number : SymbolNumber
  description : Option String
  deriving DecidableEq, Repr

namespace Symbol

/-- Two symbols are one when their numbers are equal. -/
instance : BEq Symbol where
  beq symbol other := symbol.number == other.number

/-- The text of a symbol. -/
def text (symbol : Symbol) : String :=
  "Symbol(" ++ symbol.description.getD "" ++ ")"

/-- Symbols are one exactly if they have the same number. -/
theorem beq_iff {symbol other : Symbol} :
    symbol == other ↔ symbol.number = other.number :=
  beq_iff_eq (a := symbol.number)

instance : EquivBEq Symbol where
  rfl := beq_iff.2 rfl
  symm same := beq_iff.2 (beq_iff.1 same).symm
  trans same next := beq_iff.2 ((beq_iff.1 same).trans (beq_iff.1 next))

end Symbol

/-- The address of a member or field. -/
inductive PropertyKey
  | ofText (text : String)
  | ofSymbol (symbol : Symbol)
  deriving DecidableEq, Repr

namespace PropertyKey

/-- Two keys are one when they are the same text, or symbols with the same
number. -/
instance : BEq PropertyKey where
  beq
    | .ofText text, .ofText other => text == other
    | .ofSymbol symbol, .ofSymbol other => symbol == other
    | _, _ => false

/-- The key of the link from a prototype back to its class. -/
def constructor : PropertyKey := .ofText "constructor"

/-- The text of a text key. -/
def text? : PropertyKey -> Option String
  | .ofText text => some text
  | .ofSymbol _ => none

/-- Whether a key is a symbol. -/
def isSymbol : PropertyKey -> Bool
  | .ofText _ => false
  | .ofSymbol _ => true

/-- Whether a key may be written as a bare identifier after a point. -/
def isIdentifier : PropertyKey -> Bool
  | .ofText text => CharacterClass.isIdentifier text
  | .ofSymbol _ => false

/-- The form of a key in messages: a text as it is, a symbol in brackets. -/
def display : PropertyKey -> String
  | .ofText text => text
  | .ofSymbol symbol => "[" ++ symbol.text ++ "]"

/-- The name of a function that is declared under a key. -/
def functionName : PropertyKey -> String
  | .ofText text => text
  | .ofSymbol symbol =>
      match symbol.description with
      | some description => "[" ++ description ++ "]"
      | none => ""

@[simp] theorem ofText_beq_ofText (text other : String) :
    (ofText text == ofText other) = (text == other) := rfl

@[simp] theorem ofSymbol_beq_ofSymbol (symbol other : Symbol) :
    (ofSymbol symbol == ofSymbol other) = (symbol == other) := rfl

@[simp] theorem ofText_beq_ofSymbol (text : String) (symbol : Symbol) :
    (ofText text == ofSymbol symbol) = false := rfl

@[simp] theorem ofSymbol_beq_ofText (symbol : Symbol) (text : String) :
    (ofSymbol symbol == ofText text) = false := rfl

instance : EquivBEq PropertyKey where
  rfl {key} := by cases key <;> simp
  symm {key other} same := by
    cases key <;> cases other <;> simp_all [BEq.comm]
  trans {key other last} same next := by
    cases key <;> cases other <;> cases last <;> simp_all
    exact BEq.trans same next

/-- A key that counts as a text is that text. -/
@[simp] theorem beq_ofText_iff {key : PropertyKey} {text : String} :
    key == ofText text ↔ key = ofText text := by
  cases key <;> simp

@[simp] theorem beq_constructor_iff {key : PropertyKey} :
    key == constructor ↔ key = constructor :=
  beq_ofText_iff

@[simp] theorem constructor_beq_iff {key : PropertyKey} :
    constructor == key ↔ key = constructor :=
  BEq.comm (a := constructor) ▸ beq_constructor_iff

/-- What makes a key the one that it is: its text, or the number of its
symbol. -/
def identity : PropertyKey -> String ⊕ SymbolNumber
  | .ofText text => .inl text
  | .ofSymbol symbol => .inr symbol.number

/-- Keys count as one exactly if they have the same identity. -/
theorem beq_iff_identity_eq {key other : PropertyKey} :
    key == other ↔ key.identity = other.identity := by
  cases key <;> cases other <;> simp [identity, Symbol.beq_iff]

end PropertyKey
end ClassLowering
