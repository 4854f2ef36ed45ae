import ClassLowering.Evaluation.Body
import ClassLowering.Evaluation.Calculation
import ClassLowering.Semantics.Calls
import ClassLowering.Semantics.KeyConversion

/-!
# Operations of a running body

A body looks at its own frame, reads and writes properties, calls, constructs
and yields. Whatever it runs, it runs one level below its own depth. Only the
body of a generator can yield, and only into its own buffer.
-/

namespace ClassLowering

/-- Hand a value to the caller of the running generator. -/
def yieldValue (frame : Frame) (value : Value) : BodyM Unit := do
  match frame.yieldLimit with
  | none =>
      let cell ← RunM.readHeap (·.function frame.callee)
      RunM.failType (.strayYield cell.name)
  | some limit =>
      if limit ≤ (← get).yields.count then RunM.fail (.generatorOverflow limit)
      else modify fun ⟨state, locals, yields⟩ =>
        ⟨state, locals, yields.push value⟩

/-- Do an operation that enters the engine from a frame. Keys are
converted at its depth. -/
def enterFrom (call : Invoker) (frame : Frame) (operation : FrameOperation)
    (operands : List Value) : RunM Value := do
  let first := operand operands 0
  let second := operand operands 1
  let depth := frame.depth + 1
  match operation with
  | .receiver => return frame.receiver
  | .receiverObject =>
      match frame.receiver with
      | .object ref => return .object ref
      | other =>
          let cell ← RunM.readHeap (·.function frame.callee)
          RunM.failType (.wrongReceiver cell.name other.typeName)
  | .argument => return operand frame.args first.toCount
  | .argumentCount => return .ofNat frame.args.length
  | .callee => return .function frame.callee
  | .depth => return .ofNat frame.depth.toNat
  | .read => readProperty call first (← toKey call second frame.depth) depth
  | .write =>
      writeProperty call first (← toKey call second frame.depth)
        (operand operands 2) depth
      return .undefined
  | .readReceiver =>
      readProperty call frame.receiver (← toKey call first frame.depth) depth
  | .writeReceiver =>
      writeProperty call frame.receiver
        (← toKey call first frame.depth) second depth
      return .undefined
  | .invoke =>
      invokeProperty call first (← toKey call second frame.depth)
        (operands.drop 2) depth
  | .call => callValue call first .undefined (operands.drop 1) depth
  | .callWithReceiver => callValue call first second (operands.drop 2) depth
  | .construct => constructValue call first (operands.drop 1) depth
  | .yield => return .undefined

/-- Do an operation of a running body. -/
def performInFrame (call : Invoker) (frame : Frame) (operation : FrameOperation)
    (operands : List Value) : BodyM Value := do
  match operation with
  | .yield =>
      yieldValue frame (operand operands 0)
      return .undefined
  | other => enterFrom call frame other operands

end ClassLowering
