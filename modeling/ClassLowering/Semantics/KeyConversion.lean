import ClassLowering.Semantics.Properties

/-!
# Conversion to property keys

Symbols are keys already and other primitives become their text. An object is
asked for its method `toString`, if it has one, and the result is converted; a
composite result is refused. An object that has something else under that name,
or nothing, becomes the text that all objects share.
-/

namespace ClassLowering

/-- The key of the method that converts an object. -/
def toStringKey : PropertyKey := .ofText "toString"

namespace Heap

/-- Whether an object has a method or an own field to convert it with. -/
def hasConversion (heap : Heap) (ref : ObjectRef) : Bool :=
  ((heap.prototype? ref).bind fun prototype =>
    prototype.method? toStringKey).isSome ||
    (heap.object ref).fields.contains toStringKey

end Heap

/-- The key that the result of a conversion method stands for. -/
def keyOfPrimitive (result : Value) : RunM PropertyKey := do
  match result with
  | .symbol symbol => return .ofSymbol symbol
  | other =>
      if other.isComposite then RunM.failType .notPrimitive
      else return .ofText (← RunM.readHeap (·.text other))

/-- The key of an object. A conversion method runs one level below the depth. -/
def keyOfObject (call : Invoker) (ref : ObjectRef)
    (depth : Depth) : RunM PropertyKey := do
  if ← RunM.readHeap (·.hasConversion ref) then
    match ← readObject call ref toStringKey depth with
    | .function function =>
        keyOfPrimitive (← call ⟨function, .object ref, [], depth + 1⟩)
    | _ => return .ofText objectText
  else return .ofText objectText

/-- Convert a value to a key. -/
def toKey (call : Invoker) (value : Value) (depth : Depth) :
    RunM PropertyKey := do
  match value with
  | .symbol symbol => return .ofSymbol symbol
  | .object ref => keyOfObject call ref depth
  | other => return .ofText (← RunM.readHeap (·.text other))

end ClassLowering
