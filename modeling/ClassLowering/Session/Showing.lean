import ClassLowering.Run

/-!
# Showing

To show a value is to say what it is without referring to the heap. A composite
or a symbol gets its number the first time that it is shown, so the order in
which the parts of a report are shown is part of the report.
-/

namespace ClassLowering

namespace Heap

/-- The kind and name that a report gives for a composite. -/
def compositeLabel (heap : Heap) : Value -> CompositeKind × Option String
  | .klass ref => (.klass, some (heap.klass ref).name)
  | .function ref => (.function, some (heap.function ref).name)
  | .object ref => (.object, heap.className? ref)
  | _ => (.generator, none)

end Heap

/-- Show a value. -/
def showValue (value : Value) : RunM Shown := do
  match value with
  | .undefined => return .undefined
  | .null => return .null
  | .bool b => return .bool b
  | .number x => return .number x
  | .string text => return .string text
  | .symbol symbol =>
      return .symbol (← RunM.stepSession (·.numberSymbol symbol))
        symbol.description
  | composite =>
      let number ← RunM.stepSession (·.numberComposite composite)
      let (kind, name) ← RunM.readHeap (·.compositeLabel composite)
      return .composite number kind name

/-- Show a key. -/
def showKey (key : PropertyKey) : RunM ShownKey := do
  match key with
  | .ofText text => return .ofText text
  | .ofSymbol symbol =>
      return .ofSymbol (← RunM.stepSession (·.numberSymbol symbol))
        symbol.description

/-- Show a fault. The cause inside a fault is shown first. -/
def showFault : Failure -> RunM ShownFault
  | .keyEvaluation index cause =>
      return .keyEvaluation index (← showFault cause)
  | .invocation className => return .invocation className
  | .accessorMissing key side => return .accessorMissing (← showKey key) side
  | .memberConflict key => return .memberConflict (← showKey key)
  | .reservedConstructorKey index => return .reservedConstructorKey index
  | .readOnlyMember key => return .readOnlyMember (← showKey key)
  | .reference name => return .reference name
  | .uninitialized name => return .uninitialized name
  | .constAssignment name => return .constAssignment name
  | .type fault => return .type fault
  | .callDepthExceeded limit => return .callDepthExceeded limit
  | .generatorOverflow limit => return .generatorOverflow limit
  | .thrown value => return .thrown (← showValue value)

namespace RunM

/-- Add an entry to the log of the step. -/
def log (entry : LogEntry) : RunM Unit :=
  changeSession fun session => { session with log := entry :: session.log }

end RunM
end ClassLowering
