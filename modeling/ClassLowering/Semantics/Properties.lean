import ClassLowering.Run

/-!
# Reading and writing properties

A read looks at the own fields of an object and then at its prototype. What it
finds is settled by the heap alone: a value, a getter to run, or an accessor
without getter. A write to an own field overwrites it; otherwise the prototype
decides: a setter runs, a method or the link to the class refuses, and a key
that the prototype lacks becomes an own field.

Own fields come first on both paths. That no own field ever hides an entry of
the prototype is a fact about the whole engine and not about one read.
-/

namespace ClassLowering

/-- What a read of a property comes to. -/
inductive ReadPlan
  | value (value : Value)
  | run (getter : FunctionRef)
  | noGetter
  deriving DecidableEq

/-- What a write to a property comes to. -/
inductive WritePlan
  | store
  | run (setter : FunctionRef)
  | noSetter
  | readOnly
  deriving DecidableEq

namespace Heap

/-- What the entry of a prototype means for a read through an object of a
class. -/
def entryReadPlan (klass : ClassRef) : Option PrototypeEntry -> ReadPlan
  | none => .value .undefined
  | some .constructor => .value (.klass klass)
  | some (.method function) => .value (.function function)
  | some (.accessor (some getter) _) => .run getter
  | some (.accessor none _) => .noGetter

/-- What the entry of a prototype means for a write. -/
def entryWritePlan : Option PrototypeEntry -> WritePlan
  | none => .store
  | some (.accessor _ (some setter)) => .run setter
  | some (.accessor _ none) => .noSetter
  | some .constructor | some (.method _) => .readOnly

/-- What reading a key of an object comes to. -/
def readPlan (heap : Heap) (ref : ObjectRef) (key : PropertyKey) : ReadPlan :=
  match (heap.object ref).fields.find? key with
  | some value => .value value
  | none =>
      match (heap.object ref).klass with
      | none => .value .undefined
      | some klass =>
          entryReadPlan klass ((heap.klass klass).prototype.lookup key)

/-- What writing a key of an object comes to. -/
def writePlan (heap : Heap) (ref : ObjectRef) (key : PropertyKey) : WritePlan :=
  if (heap.object ref).fields.contains key then .store
  else entryWritePlan (heap.sharedMember? ref key)

end Heap

/-- Read a property of an object. A getter runs at the given depth. -/
def readObject (call : Invoker) (ref : ObjectRef) (key : PropertyKey)
    (depth : Depth) :
    RunM Value := do
  match ← RunM.readHeap (·.readPlan ref key) with
  | .value value => return value
  | .run getter => call ⟨getter, .object ref, [], depth⟩
  | .noGetter => RunM.fail (.accessorMissing key .get)

/-- Write a property of an object. A setter runs at the given depth; its
result is dropped. -/
def writeObject (call : Invoker) (ref : ObjectRef) (key : PropertyKey)
    (value : Value) (depth : Depth) : RunM Unit := do
  match ← RunM.readHeap (·.writePlan ref key) with
  | .store => RunM.changeHeap (·.defineField ref key value)
  | .run setter => discard (call ⟨setter, .object ref, [value], depth⟩)
  | .noSetter => RunM.fail (.accessorMissing key .set)
  | .readOnly => RunM.fail (.readOnlyMember key)

/-- The two properties that a class and a function have. -/
def namedProperty (key : PropertyKey) (name : String) (length : Nat) : Value :=
  if key == .ofText "name" then .string name
  else if key == .ofText "length" then .ofNat length
  else .undefined

/-- Read a property of any value. -/
def readProperty (call : Invoker) (target : Value) (key : PropertyKey)
    (depth : Depth) :
    RunM Value := do
  let heap ← RunM.readHeap id
  match target with
  | .object ref => readObject call ref key depth
  | .klass ref =>
      let cell := heap.klass ref
      return namedProperty key cell.name
        (heap.function cell.constructor).params.length
  | .function ref =>
      let cell := heap.function ref
      return namedProperty key cell.name cell.params.length
  | .string text =>
      return if key == .ofText "length" then .ofNat text.length else .undefined
  | .undefined | .null =>
      RunM.failType (.unreadable (heap.text target) key.display)
  | _ => return .undefined

/-- Write a property of any value. Only objects have properties that can be
written. -/
def writeProperty (call : Invoker) (target : Value) (key : PropertyKey)
    (value : Value) (depth : Depth) : RunM Unit :=
  match target with
  | .object ref => writeObject call ref key value depth
  | other => RunM.failType (.unwritable key.display other.typeName)

end ClassLowering
