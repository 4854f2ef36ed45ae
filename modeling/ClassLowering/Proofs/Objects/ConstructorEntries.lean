import ClassLowering.Proofs.InStep.Evaluation
import ClassLowering.Proofs.Objects.Construction
import ClassLowering.Proofs.Runs.Moments

/-!
# Entries of constructors

The body of a constructor is entered as the last step of a construction:
the fields of a new object are defined, and the constructor is called
with this object.
-/

namespace ClassLowering

/-- The object whose fields are defined is there, and the constructor is
called with it. -/
structure ReachesConstructor (call : Invoker) (klass : ClassRef)
    (args : List Value) (depth : Depth) (before between : State) : Prop where
  /-- The class of the new object is one of those that exist. -/
  held : before.heap.Holds (.klass klass)
  /-- All fields of the class are defined, one after another, and their
  initializers have run. -/
  defines :
    let made := before.heap.newObject (some klass)
    DefinesFields call made.1 (depth + 1) (before.heap.klass klass).fields
      { before with heap := made.2 } between
  /-- What existed before is still there, and the class is what it was. -/
  extended : before.heap.Extends between.heap
  /-- What is left of the construction is the call of the constructor. -/
  last :
    let object := (before.heap.newObject (some klass)).1
    construct call klass args depth before =
      (do
        let result ← call
          ((before.heap.klass klass).construction object args (depth + 1))
        return if result.isComposite then result
          else .object object : RunM Value) between

/-- A body is entered in a state as the last step of a construction of an
object of a class. -/
inductive EndsConstruction (klass : ClassRef) (entry : BodyEntry)
    (between : State) : Prop
  | of {bound : Nat} {holding : Holding} {args : List Value} {depth : Depth}
      {before : State} :
      ReachesConstructor (callWithin bound holding) klass args depth
        before between -> Program.initialState.Reaches between ->
          entry = ((before.heap.klass klass).construction
            (before.heap.newObject (some klass)).1 args (depth + 1)).entry ->
            EndsConstruction klass entry between

/-- The last step of a construction has the new object as receiver. -/
theorem EndsConstruction.receives
    {klass : ClassRef}
    {entry : BodyEntry}
    {between : State}
    (ends : EndsConstruction klass entry between) :
    ∃ object, entry.receiver = .object object := by
  cases ends with
  | of _ _ isEntry => exact ⟨_, congrArg BodyEntry.receiver isEntry⟩

end ClassLowering
