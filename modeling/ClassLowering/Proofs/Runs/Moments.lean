import ClassLowering.Proofs.Heap.ClassNames
import ClassLowering.Proofs.Heap.Rings
import ClassLowering.Proofs.Runs.Programs

/-!
# Moments of runs

A state is reached from another by steps of the host and by parts of bodies, one
after another, each of which may be stopped where a body is entered. Between
them the engine makes changes of its own, and the host changes what it stores.
So the states that are reached are those in which a run can be looked at.

What is reached is a move, so that what moves keep holds of everything
that is reached.
-/

namespace ClassLowering

/-- Steps, parts of bodies, and changes between them lead from one state to
another. -/
inductive State.Reaches (first : State) : State -> Prop
  | refl : Reaches first first
  | evaluation {before : BodyState} (stop : State -> Bool) (bound : Nat)
      (context : Context) (expr : Expr) :
      Reaches first before.state -> before.Sound ->
        context.Within before.state.heap ->
        Reaches first
          ((evaluate (callUntil stop bound) context expr).endState before).state
  | step {before : State} (stop : State -> Bool) (bound : Nat) (step : Step) :
      Reaches first before -> Reaches first
        (step.run (callUntil stop bound) before).2
  | move {before now : State} :
      Reaches first before -> before.Moves (fun _ => True) now ->
        Reaches first now

namespace State.Reaches

variable {first now : State}

/-- Whatever is reached is a move away. -/
theorem moves (reaches : first.Reaches now) (sound : first.Sound) :
    first.Moves (fun _ => True) now := by
  have total := Demand.total_asking
  induction reaches with
  | refl => exact .refl first
  | @evaluation before stop bound context expr _ soundBody within hypothesis =>
      have runs := runs_evaluate
        (serves_callUntil stop bound fun _ _ => True) expr
        total.allows (.inr total.fresh) soundBody within
      exact hypothesis.trans (Progress.moves _ runs.leads_endState.1)
  | step stop bound step _ hypothesis =>
      have leads := leads_step
        (serves_callUntil stop bound fun _ _ => True) total
        (fun _ => trivial) step (hypothesis.sound sound)
      exact hypothesis.trans (Progress.moves _ leads)
  | move _ moves hypothesis => exact hypothesis.trans moves

/-- Every state that is reached is sound. -/
theorem sound (reaches : first.Reaches now) (sound : first.Sound) : now.Sound :=
  (reaches.moves sound).sound sound

end State.Reaches

/-- A program reaches the state in which its steps end. -/
theorem Program.reaches_endState
    {first before : State}
    (stop : State -> Bool)
    (bound : Nat)
    (steps : List Step)
    (reaches : first.Reaches before) :
    first.Reaches (endState (callUntil stop bound) before steps) := by
  induction steps generalizing before with
  | nil => exact reaches
  | cons step rest hypothesis =>
      exact hypothesis (.step stop bound step reaches)

end ClassLowering
