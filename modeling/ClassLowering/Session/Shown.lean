import ClassLowering.Heap.Description

/-!
# Shown values

A shown value is what a report says about a value: primitives are shown as they
are, and everything with an identity is shown with a number that stands for the
identity. Shown values do not refer to a heap and stay true when it changes.

Faults are shown by showing the key or value inside them, innermost cause first.
-/

namespace ClassLowering

/-- The kinds of composites. -/
inductive CompositeKind
  | object
  | klass
  | function
  | generator
  deriving DecidableEq, Repr

/-- What a report says about a value. -/
inductive Shown
  | undefined
  | null
  | bool (b : Bool)
  | number (x : Float)
  | string (text : String)
  | symbol (number : Nat) (description : Option String)
  | composite (number : Nat) (kind : CompositeKind) (name : Option String)
  deriving DecidableEq

/-- What a report says about a property key. -/
inductive ShownKey
  | ofText (text : String)
  | ofSymbol (number : Nat) (description : Option String)
  deriving DecidableEq

/-- What a report says about a failure. -/
abbrev ShownFault := Fault ShownKey Shown

namespace Shown

/-- The text of a composite of a kind and a name. -/
def compositeText : CompositeKind -> Option String -> String
  | .object, _ => objectText
  | .klass, name => classText (name.getD "")
  | .function, name => functionText (name.getD "")
  | .generator, _ => generatorText

/-- The text of the value that is shown. -/
def displayText : Shown -> String
  | .undefined => "undefined"
  | .null => "null"
  | .bool b => Diagnostic.bool b
  | .number x => numberText x
  | .string text => text
  | .symbol _ description => (Symbol.mk 0 description).text
  | .composite _ kind name => compositeText kind name

end Shown

namespace ShownKey

/-- The text of the key that is shown. -/
def displayText : ShownKey -> String
  | .ofText text => text
  | .ofSymbol _ description => (PropertyKey.ofSymbol ⟨0, description⟩).display

end ShownKey

namespace ShownFault

/-- The message of a fault that is shown. -/
def message (fault : ShownFault) : String :=
  Fault.message ShownKey.displayText Shown.displayText fault

end ShownFault

/-- One entry of the log of a step. -/
inductive LogEntry
  | value (value : Shown)
  | fault (fault : ShownFault)

end ClassLowering
