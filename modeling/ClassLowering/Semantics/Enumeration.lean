import ClassLowering.Semantics.Properties

/-!
# Enumeration and copying

Enumerations show own fields and the enumerable entries of prototypes. No entry
of a prototype is enumerable, so copying an object copies its fields and leaves
its methods behind.

A copy goes through the write path of its target. The keys are those that the
source has at the start; each value is read when its turn comes.
-/

namespace ClassLowering

namespace Heap

/-- The text keys of the own fields of an object; other values have none. -/
def ownTextKeys (heap : Heap) : Value -> List String
  | .object ref => (heap.object ref).fields.keys.filterMap PropertyKey.text?
  | _ => []

/-- The keys that a loop over the properties of an object visits. -/
def loopKeys (heap : Heap) (ref : ObjectRef) : List PropertyKey :=
  let own := (heap.object ref).fields.keys.filter fun key => !key.isSymbol
  let shared := ((heap.prototype? ref).map Prototype.enumerableKeys).getD []
  own ++ shared.filter fun key => !key.isSymbol && !own.contains key

/-- Whether a value is an object that is linked to the prototype of a class. -/
def isInstance (heap : Heap) (value : Value) (klass : ClassRef) : Bool :=
  match value with
  | .object ref => (heap.object ref).klass = some klass
  | _ => false

end Heap

namespace Prototype

/-- The text keys of a prototype, enumerable or not. -/
def textKeys (prototype : Prototype) : List String :=
  prototype.keys.filterMap PropertyKey.text?

end Prototype

/-- The value of an own field, or `undefined` when there is none. -/
def Heap.fieldValue (heap : Heap) (ref : ObjectRef)
    (key : PropertyKey) : Value :=
  ((heap.object ref).fields.find? key).getD .undefined

/-- Copy the fields under some keys from one object to another. -/
def copyKeys (call : Invoker)
    (target source : ObjectRef) : List PropertyKey -> RunM Unit
  | [] => return ()
  | key :: rest => do
      let value ← RunM.readHeap (·.fieldValue source key)
      writeObject call target key value 1
      copyKeys call target source rest

/-- Copy the own fields of a value to an object. A value that is no
object has none. -/
def copyFields (call : Invoker) (target : ObjectRef)
    (source : Value) : RunM Unit := do
  match source with
  | .object ref =>
      let keys := (← RunM.readHeap (·.object ref)).fields.keys
      copyKeys call target ref keys
  | _ => return ()

end ClassLowering
