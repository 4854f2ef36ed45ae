import ClassLowering.Proofs.Runs.Functions
import ClassLowering.Proofs.Runs.Nesting

/-!
# What runs record

A run only adds to the record, and what it adds is a history of bodies that fit
into each other. This is a progress, so it holds of every part of a run, and by
induction on the bound it holds of the bodies that a run asks for.

To look at a run before it ends, let it be stopped where a body is entered. A
stop interrupts everything around it, since only faults are ever caught.
-/

namespace ClassLowering

/-- Run functions like the evaluator does, but stop for good where a
condition first holds. -/
def callUntil (stop : State -> Bool) : Nat -> Caller
  | 0 => fun _ _ => throw .stalled
  | bound + 1 => fun holding invocation => do
      if stop (← get) then throw .stalled
      else enterFunction (callUntil stop bound) holding invocation

/-- A run that is never stopped is the run within the bound. -/
theorem callUntil_never
    (bound : Nat) :
    callUntil (fun _ => false) bound = callWithin bound := by
  induction bound with
  | zero => rfl
  | succ bound hypothesis =>
      funext holding invocation
      rw [callWithin, ← hypothesis]
      rfl

/-- Runs that record only bodies that were asked for, and bodies within them. -/
def Progress.recording (asked : Heap -> BodyEntry -> Prop) : Progress where
  Leads before after := before.Moves (fun _ => True) after ∧
    ∃ events, after.record = events ++ before.record ∧
      ∀ later, after.heap.Extends later -> Nested later (asked later) events
  Stalls _ _ := True
  Makes _ := True
  refl state := ⟨.refl state, [], rfl, fun _ _ => .nil⟩
  trans := by
    rintro first second third ⟨moves, older, recorded, nested⟩
      ⟨moves', newer, recorded', nested'⟩
    refine ⟨moves.trans moves', newer ++ older, ?_, fun later extension => ?_⟩
    · rw [recorded', recorded, List.append_assoc]
    · exact (nested' later extension).append
        (nested later (moves'.path.extension.trans extension))
  stalls _ _ := trivial
  goesOn := by
    rintro before between after ⟨-, events, recorded, nested⟩ moves
      extension same
    exact ⟨moves, events, same.trans recorded, fun later further =>
      nested later (extension.trans further)⟩
  moves leads := leads.1

/-- The invocations of bodies that are asked for, now and in every later
heap. -/
def Demand.asking (asked : Heap -> BodyEntry -> Prop) : Demand :=
  fun heap invocation =>
  heap.Holds (.function invocation.function) ->
    ∀ later, heap.Extends later -> asked later invocation.entry

namespace Demand

/-- What may be asked for below a depth may be demanded there. -/
theorem coversBelow_asking
    {asked : Heap -> BodyEntry -> Prop}
    {depth : Depth}
    (allowed : ∀ heap (entry : BodyEntry), entry.Below heap depth ->
      asked heap entry) :
    (asking asked).CoversBelow depth where
  calls _ _ atDepth _ later _ := allowed later _ (.inl atDepth)
  constructions heap invocation atDepth bounded held later extension := by
    refine allowed later _ (.inr ⟨atDepth, ?_⟩)
    have same : later.function invocation.entry.function =
        heap.function invocation.function :=
      extension.function_eq invocation.function held
    rw [BodyEntry.limit, same]
    exact bounded

/-- What may be asked for afresh may be demanded afresh. -/
theorem coversFresh_asking
    {asked : Heap -> BodyEntry -> Prop}
    (allowed : ∀ heap (entry : BodyEntry), entry.Fresh -> asked heap entry) :
    (asking asked).CoversFresh where
  calls _ _ atDepth _ later _ := allowed later _ (.inl atDepth)
  constructions _ _ atDepth _ _ later _ := allowed later _ (.inr atDepth)
  conversions _ _ atDepth _ later _ := allowed later _ (.inr atDepth)

/-- What a body may ask for may be demanded below it. -/
theorem coversBelow_askedFrom (keeps : Bool) (depth : Depth) :
    (asking (BodyEntry.AskedFrom keeps depth)).CoversBelow depth :=
  coversBelow_asking fun _ _ below => .inl below

/-- A body that does not keep to its frame may ask for bodies afresh. -/
theorem coversFresh_askedFrom (keeps : Bool) (depth : Depth) :
    keeps = true ∨ (asking (BodyEntry.AskedFrom keeps depth)).CoversFresh := by
  cases keeps with
  | true => exact .inl rfl
  | false => exact .inr (coversFresh_asking fun _ _ fresh => .inr ⟨rfl, fresh⟩)

end Demand

/-- Evaluating an expression is recorded when what it asks its caller for is. -/
theorem runs_evaluate
    {asked : Heap -> BodyEntry -> Prop}
    {demand : Demand}
    {call : Caller}
    {context : Context}
    {before : BodyState}
    (serves : ∀ holding, (Progress.recording asked).Serves demand
      (call holding))
    (expr : Expr)
    (allows : demand.Allows context)
    (fresh : expr.keepsToFrame = true ∨ demand.CoversFresh)
    (sound : before.Sound)
    (within : context.Within before.state.heap) :
    (Progress.recording asked).RunsBody
      (evaluate call context expr) before Value.Known :=
  runs_expression serves expr allows fresh sound within
    (Expr.makesOnly_of_total (fun _ => trivial) expr)

section Bodies

variable {asked : Heap -> BodyEntry -> Prop} {call : Caller}

/-- A body that records what it may ask for is recorded as one body that
was asked for. -/
theorem encloses_recording
    {entry : BodyEntry}
    {before : State}
    (held : before.heap.Holds (.function entry.function))
    (allowed : ∀ later, before.heap.Extends later -> asked later entry)
    (bounded : entry.depth ≤ entry.limit before.heap) :
    (Progress.recording asked).Encloses (Progress.recording (BodyEntry.AskedFrom
      (before.heap.function entry.function).body.keepsToFrame entry.depth))
      entry before := by
  refine ⟨fun interruption after leads => ?_, fun _ _ _ => trivial⟩
  obtain ⟨⟨path, session⟩, inside, recorded, nested⟩ := leads
  refine ⟨⟨path, session⟩, .left interruption ::
    (inside ++ [.entered entry]), ?_, ?_⟩
  · simp [State.leaving, State.entering, recorded]
  · intro later extension
    have whole : before.heap.Extends later := path.extension.trans extension
    have same : later.function entry.function =
        before.heap.function entry.function :=
      whole.function_eq entry.function held
    refine .call interruption (allowed later whole) ?_ ?_ .nil
    · rw [BodyEntry.limit, same]
      exact bounded
    · unfold BodyEntry.AsksFor
      rw [same]
      exact nested later extension

/-- Running a function makes progress when what its body asks for does. -/
theorem serves_enterFunction
    (serves : ∀ asked holding,
      (Progress.recording asked).Serves (Demand.asking asked) (call holding))
    (asked : Heap -> BodyEntry -> Prop)
    (holding : Holding) :
    (Progress.recording asked).Serves (Demand.asking asked)
      (enterFunction call holding) := by
  intro invocation before sound within demanded
  refine runs_enterFunction sound within ?_
  intro bounded scope context between soundBetween extension inFrame frameWithin
  have heldFunction := extension.holds _ within.function
  let body := (between.heap.function invocation.function).body
  refine runs_runInFrame (encloses_recording heldFunction ?_ ?_)
    (serves _) inFrame
    (Demand.coversBelow_askedFrom body.keepsToFrame invocation.depth)
    (Demand.coversFresh_askedFrom _ _)
    (Expr.makesOnly_of_total (fun _ => trivial) _) soundBetween frameWithin
  · exact fun later further =>
      demanded within.function later (extension.trans further)
  · show invocation.depth ≤
      (between.heap.function invocation.function).limits.callDepth
    rw [extension.function_eq invocation.function within.function]
    exact bounded

/-- Whatever bodies are asked for, running them within a bound makes
progress. -/
theorem serves_callUntil
    (stop : State -> Bool)
    (bound : Nat)
    (asked : Heap -> BodyEntry -> Prop)
    (holding : Holding) :
    (Progress.recording asked).Serves (Demand.asking asked)
      (callUntil stop bound holding) := by
  -- Every body asks for others than the one around it, so the induction is
  -- for all demands.
  induction bound generalizing asked holding with
  | zero => exact fun _ _ _ _ _ => .stall trivial
  | succ bound hypothesis =>
      intro invocation before sound within demanded
      refine .get_bind ?_
      cases stop before with
      | true => exact .stall trivial
      | false =>
          exact serves_enterFunction hypothesis asked holding invocation before
            sound within demanded

end Bodies

end ClassLowering
