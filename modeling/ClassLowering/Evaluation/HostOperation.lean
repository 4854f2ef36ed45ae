import ClassLowering.Evaluation.Calculation
import ClassLowering.Heap.Yields
import ClassLowering.Semantics.Calls
import ClassLowering.Semantics.Enumeration
import ClassLowering.Semantics.KeyConversion

/-!
# Operations of the host

The host works on objects, classes, functions and generators from outside of all
bodies. Wherever one of these operations runs a body, the body runs at the depth
at which runs start, even when the operation itself is used inside a body.
-/

namespace ClassLowering

/-- The object that an operand refers to. -/
def asObject : Value -> RunM ObjectRef
  | .object ref => return ref
  | _ => RunM.failType (.unsuitableOperand "an object")

/-- The class that an operand refers to. -/
def asClass : Value -> RunM ClassRef
  | .klass ref => return ref
  | _ => RunM.failType (.unsuitableOperand "a class")

/-- The function that an operand refers to. -/
def asFunction : Value -> RunM FunctionRef
  | .function ref => return ref
  | _ => RunM.failType (.unsuitableOperand "a function")

/-- The generator that an operand refers to. -/
def asGenerator : Value -> RunM GeneratorRef
  | .generator ref => return ref
  | _ => RunM.failType (.unsuitableOperand "a generator")

/-- A function as a value, or `undefined`. -/
def functionOrUndefined : Option FunctionRef -> Value
  | some function => .function function
  | none => .undefined

/-- A class as a value, or `null`. -/
def classOrNull : Option ClassRef -> Value
  | some klass => .klass klass
  | none => .null

/-- Look up a function in the prototype of a class, under a key that is
converted first. -/
def lookUpMember (call : Invoker) (keyDepth : Depth) (klass key : Value)
    (find : Prototype -> PropertyKey -> Option FunctionRef) : RunM Value := do
  let klass ← asClass klass
  let key ← toKey call key keyDepth
  return functionOrUndefined
    (find (← RunM.readHeap fun heap => (heap.klass klass).prototype) key)

/-- Do an operation of the host. Keys are converted at the given depth. -/
def performHost (call : Invoker) (keyDepth : Depth) (operation : HostOperation)
    (operands : List Value) : RunM Value := do
  let first := operand operands 0
  let second := operand operands 1
  match operation with
  | .newObject => return .object (← RunM.allocate (·.newObject none))
  | .construct => construct call (← asClass first) (operands.drop 1) 1
  | .callClass =>
      callValue call (.klass (← asClass first)) .undefined (operands.drop 1) 1
  | .callFunction => call ⟨← asFunction first, second, operands.drop 2, 1⟩
  | .sameClass => return .bool ((← asClass first) = (← asClass second))
  | .readProperty =>
      let object ← asObject first
      readObject call object (← toKey call second keyDepth) 1
  | .writeProperty =>
      let object ← asObject first
      writeObject call object (← toKey call second keyDepth)
        (operand operands 2) 1
      return .undefined
  | .invokeProperty =>
      let object ← asObject first
      invokeObject call object (← toKey call second keyDepth) (operands.drop 2)
  | .ownField =>
      let object ← asObject first
      let key ← toKey call second keyDepth
      return ((← RunM.readHeap (·.object object)).fields.find? key).getD
        (.string "<absent>")
  | .hasOwnField =>
      let object ← asObject first
      let key ← toKey call second keyDepth
      return .bool ((← RunM.readHeap (·.object object)).fields.contains key)
  | .classOf =>
      return classOrNull (← RunM.readHeap (·.object (← asObject first))).klass
  | .samePrototype =>
      let left := (← RunM.readHeap (·.object (← asObject first))).klass
      let right := (← RunM.readHeap (·.object (← asObject second))).klass
      match left, right with
      | some leftClass, some rightClass => return .bool (leftClass = rightClass)
      | _, _ => return .null
  | .prototypeMethod =>
      lookUpMember call keyDepth first second Prototype.method?
  | .prototypeGetter =>
      lookUpMember call keyDepth first second Prototype.getter?
  | .prototypeSetter =>
      lookUpMember call keyDepth first second Prototype.setter?
  | .prototypeClass => return .klass (← asClass first)
  | .fieldInitializer =>
      let cell ← RunM.readHeap (·.klass (← asClass first))
      return functionOrUndefined
        ((cell.fields[second.toCount]?).bind FieldDeclaration.initializer?)
  | .copyFields =>
      copyFields call (← asObject first) second
      return first
  | .isInstance =>
      let klass ← asClass second
      return .bool (← RunM.readHeap (·.isInstance first klass))
  | .nextYield =>
      let generator ← asGenerator first
      return (← RunM.allocate (·.nextYield generator)).value
  | .isExhausted =>
      return .bool
        (← RunM.readHeap (·.generator (← asGenerator first))).isExhausted
  | .drainCount =>
      let generator ← asGenerator first
      return .ofNat (← RunM.allocate (·.drainYields generator)).length
  | .toKey =>
      match ← toKey call first keyDepth with
      | .ofText text => return .string text
      | .ofSymbol symbol => return .symbol symbol

end ClassLowering
