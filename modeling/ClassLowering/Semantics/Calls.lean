import ClassLowering.Semantics.Properties

/-!
# Calls and construction

A class can be constructed and never called. Every way of calling a value meets
the guard before anything else happens: no depth is checked, no object is made
and no body runs.

A construction makes an object, runs the field initializers in order, defining
each field before the next one starts, and then runs the constructor. The object
is the result unless the constructor returns a composite, which takes its place.
-/

namespace ClassLowering

/-- The fault of calling a class. -/
def Heap.guardFault (heap : Heap) (klass : ClassRef) : Failure :=
  .invocation (heap.klass klass).name

/-- Call a value with a receiver. -/
def callValue (call : Invoker) (callee receiver : Value) (args : List Value)
    (depth : Depth) :
    RunM Value := do
  match callee with
  | .function ref => call ⟨ref, receiver, args, depth⟩
  | .klass ref => RunM.fail (← RunM.readHeap (·.guardFault ref))
  | other => RunM.failType (.notFunction (← RunM.readHeap (·.text other)))

/-- Read a property of a value and call it with the value as receiver. -/
def invokeProperty (call : Invoker) (target : Value) (key : PropertyKey)
    (args : List Value) (depth : Depth) : RunM Value := do
  let callee ← readProperty call target key depth
  match callee with
  | .function _ | .klass _ => callValue call callee target args depth
  | _ => RunM.failType (.notFunction key.display)

/-- Read a property of an object from outside of all bodies and call it. -/
def invokeObject (call : Invoker) (ref : ObjectRef) (key : PropertyKey)
    (args : List Value) :
    RunM Value := do
  match ← readObject call ref key 1 with
  | .function function => call ⟨function, .object ref, args, 1⟩
  | .klass klass => RunM.fail (← RunM.readHeap (·.guardFault klass))
  | _ => RunM.failType (.notFunction key.display)

/-- Give an object the fields of a class, in order. -/
def defineFields (call : Invoker) (ref : ObjectRef) (depth : Depth) :
    List FieldDeclaration -> RunM Unit
  | [] => return ()
  | field :: rest => do
      let value ← match field.initializer? with
        | some initial => call ⟨initial, .object ref, [], depth⟩
        | none => pure .undefined
      RunM.changeHeap (·.defineField ref field.key value)
      defineFields call ref depth rest

/-- Construct an object of a class. The bodies of the class run one level
deeper. -/
def construct (call : Invoker) (klass : ClassRef) (args : List Value)
    (depth : Depth) :
    RunM Value := do
  let cell ← RunM.readHeap (·.klass klass)
  if cell.limits.callDepth < depth then
    RunM.fail (.callDepthExceeded cell.limits.callDepth)
  else
    let object ← RunM.allocate (·.newObject (some klass))
    defineFields call object (depth + 1) cell.fields
    let result ← call ⟨cell.constructor, .object object, args, depth + 1⟩
    return if result.isComposite then result else .object object

/-- Construct with any value, which must be a class. -/
def constructValue (call : Invoker) (callee : Value) (args : List Value)
    (depth : Depth) :
    RunM Value := do
  match callee with
  | .klass ref => construct call ref args depth
  | other => RunM.failType (.notClass (← RunM.readHeap (·.text other)))

end ClassLowering
