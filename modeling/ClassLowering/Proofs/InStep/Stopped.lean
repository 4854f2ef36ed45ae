import ClassLowering.Proofs.InStep.Following
import ClassLowering.Proofs.InStep.Same
import ClassLowering.Proofs.Runs.Moments

/-!
# Runs that are stopped

A run that may be stopped where a condition holds is beside the same run without
the condition. Both end the same, or the first one stalls with the heap and the
session of a state in which the condition holds: only the ends of the bodies
around it are recorded after that.

So a condition that holds in no state that is reached stops no run.
-/

namespace ClassLowering

/-- The heap and the session are those of a state in which runs are stopped. -/
def State.StoppedAt (stop : State -> Bool) (state : State) : Prop :=
  ∃ place : State, stop place = true ∧ state.heap = place.heap ∧
    state.session = place.session

/-- A state in which a body is left has the heap and the session that it had
before. -/
theorem State.StoppedAt.leaving
    {stop : State -> Bool}
    {state : State}
    (stopped : state.StoppedAt stop)
    (interruption : Option Interruption) :
    (state.leaving interruption).StoppedAt stop :=
  stopped

/-- A function is entered where the run is not stopped. -/
theorem callUntil_apply
    (stop : State -> Bool)
    (bound : Nat)
    (holding : Holding)
    (invocation : Invocation)
    (before : State) :
    callUntil stop (bound + 1) holding invocation before =
      if stop before then .error .stalled before
      else enterFunction (callUntil stop bound) holding invocation before := by
  have looks : callUntil stop (bound + 1) holding invocation before =
      (if stop before then throw .stalled
        else enterFunction (callUntil stop bound) holding invocation :
        RunM Value) before := rfl
  rw [looks]
  split <;> rfl

namespace Stopped

variable (stop : State -> Bool)

section Stages

variable {σ α β : Type} [Stage σ]

/-- How a run that may be stopped ends beside one that is not. -/
inductive Ends (claim : α -> α -> Prop) :
    EStateM.Result Interruption σ α -> EStateM.Result Interruption σ α -> Prop
  | ok {result further : α} {after later : σ} :
      Stage.Like .identical after later -> claim result further ->
        Ends claim (.ok result after) (.ok further later)
  | interrupted {interruption : Interruption} {after later : σ} :
      Stage.Like .identical after later ->
        Ends claim (.error interruption after) (.error interruption later)
  | stopped {after : σ} {other : EStateM.Result Interruption σ α} :
      (Stage.state after).StoppedAt stop ->
        Ends claim (.error .stalled after) other

/-- The first run ends like the second one, unless it is stopped. -/
def InStep (given : Prop) (run other : EStateM Interruption σ α)
    (claim : α -> α -> Prop) : Prop :=
  ∀ before further, given -> Stage.Like .identical before further ->
    Ends stop claim (run before) (other further)

variable {stop} {given : Prop} {run other : EStateM Interruption σ α}
  {claim : α -> α -> Prop}

/-- More may be given, and less claimed. -/
theorem InStep.imp
    {known : Prop}
    {further : α -> α -> Prop}
    (runs : InStep stop given run other claim)
    (implies : known -> given)
    (claims : known -> ∀ result last, claim result last ->
      further result last) :
    InStep stop known run other further := by
  intro before start facts like
  have ends := runs before start (implies facts) like
  generalize run before = ended at ends ⊢
  generalize other start = final at ends ⊢
  cases ends with
  | ok like claimed => exact .ok like (claims facts _ _ claimed)
  | interrupted like => exact .interrupted like
  | stopped place => exact .stopped place

/-- A computation that changes the state quietly is not stopped. -/
theorem InStep.settled
    (settles : Settles .identical given run other claim) :
    InStep stop given run other claim := by
  intro before start facts like
  have alike := settles.alike before start facts like
  generalize run before = ended at alike
  generalize other start = final at alike
  cases alike with
  | ok claimed like => exact .ok like claimed
  | fault => exact .interrupted like

/-- What follows a computation ends like the rest, unless one of them is
stopped. -/
theorem InStep.bind
    {next last : α -> EStateM Interruption σ β}
    {further : β -> β -> Prop}
    (first : InStep stop given run other claim)
    (rest : ∀ result final,
      InStep stop (given ∧ claim result final) (next result)
        (last final) further) :
    InStep stop given (run >>= next) (other >>= last) further := by
  intro before start facts like
  have ends := first before start facts like
  simp only [EStateM.bind, Bind.bind]
  generalize run before = ended at ends
  generalize other start = final at ends
  cases ends with
  | ok like claimed => exact rest _ _ _ _ ⟨facts, claimed⟩ like
  | interrupted like => exact .interrupted like
  | stopped place => exact .stopped place

end Stages

section Rules

variable {stop} {α : Type} {given : Prop} {claim : α -> α -> Prop}

/-- A run of the engine is stopped inside a body. -/
theorem InStep.lift
    {run other : RunM α}
    (runs : InStep stop given run other claim) :
    InStep stop given (BodyM.lift run) (BodyM.lift other) claim := by
  rintro ⟨state, locals, yields⟩ ⟨further, _, _⟩ facts
    ⟨like, rfl, rfl, seenLocals, seenYields⟩
  have ends := runs state further facts like
  unfold BodyM.lift
  dsimp only at ends ⊢
  generalize run state = ended at ends
  generalize other further = final at ends
  cases ends with
  | ok like claimed =>
      exact .ok ⟨like, rfl, rfl, seenLocals, seenYields⟩ claimed
  | interrupted like =>
      exact .interrupted ⟨like, rfl, rfl, seenLocals, seenYields⟩
  | stopped place => cases final <;> exact .stopped place

/-- The wrap of a fault does not notice a stop. -/
theorem InStep.wrap
    {run other : RunM α}
    (index : Nat)
    (runs : InStep stop given run other claim) :
    InStep stop given (RunM.mapFault (.keyEvaluation index) run)
      (RunM.mapFault (.keyEvaluation index) other) claim := by
  intro before start facts like
  have ends := runs before start facts like
  unfold RunM.mapFault
  generalize run before = ended at ends
  generalize other start = final at ends
  cases ends with
  | ok like claimed => exact .ok like claimed
  | @interrupted interruption _ _ like =>
      cases interruption <;> exact .interrupted like
  | stopped place => exact .stopped place

/-- The keys of a class are evaluated alike, unless one of them is stopped. -/
theorem InStep.keys
    {call other : Invoker}
    {scope : ScopeRef}
    {limits further : Limits}
    {written last : List (MemberKey PropertyKey Expr)}
    (index : Nat)
    (each : List.Forall₂ (fun key final =>
      InStep stop given (evaluateKey call scope limits key)
        (evaluateKey other scope further final)
        (Agree fun _ => True)) written last) :
    InStep stop given (evaluateKeys call scope limits index written)
      (evaluateKeys other scope further index last) (Agree fun _ => True) := by
  induction each generalizing index with
  | nil => exact fun _ _ _ like => .ok like ⟨rfl, trivial⟩
  | cons first _ hypothesis =>
      refine .bind (first.wrap index) fun key final => ?_
      refine .bind ((hypothesis (index + 1)).imp And.left
        fun _ _ _ claimed => claimed) fun keys finals => ?_
      exact fun _ _ facts like =>
        .ok like ⟨congrArg₂ _ facts.1.2.1 facts.2.1, trivial⟩

/-- A body that starts from nothing ends alike, unless it is stopped. -/
theorem InStep.start
    {run other : BodyM α}
    (runs : InStep stop given run other claim) :
    InStep stop given (BodyM.start run) (BodyM.start other) fun result last =>
      claim result.1 last.1 ∧ last.2 = result.2 := by
  intro before further facts like
  have ends := runs ⟨before, ∅, .empty⟩ ⟨further, ∅, .empty⟩ facts
    ⟨like, rfl, rfl, fun _ _ => trivial, fun _ _ => trivial⟩
  unfold BodyM.start
  generalize run ⟨before, ∅, .empty⟩ = ended at ends
  generalize other ⟨further, ∅, .empty⟩ = final at ends
  cases ends with
  | ok like claimed => exact .ok like.state ⟨claimed, like.yields⟩
  | interrupted like => exact .interrupted (BodyState.Like.state like)
  | stopped place => cases final <;> exact .stopped place

/-- A body that is entered ends alike, unless it is stopped. -/
theorem InStep.enters
    {call other : Caller}
    {context last : Context}
    {entry : BodyEntry}
    {body further : Expr}
    (runs : InStep stop given (evaluate call context body)
      (evaluate other last further) (Agree fun _ => True)) :
    InStep stop given (runInFrame call context entry body)
      (runInFrame other last entry further)
      (Agree fun result => True ∧
        Likeness.AllVisible .identical result.2.values) := by
  intro before start facts like
  rw [runInFrame_apply, runInFrame_apply]
  have ends := runs.start (before.entering entry) (start.entering entry) facts
    (State.Like.record_cons like (.entered entry))
  generalize BodyM.start (evaluate call context body) (before.entering entry) =
    ended at ends
  generalize BodyM.start (evaluate other last further) (start.entering entry) =
    final at ends
  cases ends with
  | ok like claimed =>
      exact .ok (State.Like.record_cons like (.left none))
        ⟨Prod.ext claimed.1.1 claimed.2, trivial, fun _ _ => trivial⟩
  | @interrupted interruption _ _ like =>
      exact .interrupted
        (State.Like.record_cons like (.left (some interruption)))
  | stopped place => cases final <;> exact .stopped place

/-- Whatever a body ends with, it ends like itself. -/
theorem Ends.refl (ended : EStateM.Result Interruption BodyState α) :
    Ends stop (Agree fun _ => True) ended ended := by
  have reflexive (body : BodyState) : Stage.Like .identical body body :=
    ⟨.identical body.state, rfl, rfl, fun _ _ => trivial, fun _ _ => trivial⟩
  cases ended with
  | ok result after => exact .ok (reflexive after) ⟨rfl, trivial⟩
  | error interruption after => exact .interrupted (reflexive after)

/-- Yields are collected alike. -/
theorem InStep.yields
    {frame : Frame}
    {limit : Option Nat}
    {value : Value}
    (related : given -> Likeness.YieldLimits .identical
      frame.yieldLimit limit) :
    InStep stop given (yieldValue frame value)
      (yieldValue { frame with yieldLimit := limit } value)
      (Agree fun _ => True) := by
  rintro ⟨state, locals, yields⟩ ⟨further, _, _⟩ facts ⟨like, rfl, rfl, -, -⟩
  obtain rfl := State.Like.eq like
  have same : limit = frame.yieldLimit := by
    have both := related facts
    generalize frame.yieldLimit = own at both
    cases both with
    | none => rfl
    | some limited =>
        exact congrArg (some ∘ Limits.generatorYields) (Eq.symm limited)
  subst same
  exact .refl _

/-- A fault is handled alike, unless the handler is stopped. -/
theorem InStep.attempt
    {run other : BodyM α}
    {handler last : Failure -> BodyM α}
    (runs : InStep stop given run other claim)
    (shows : ∀ cause, InStep stop given (showFault cause) (showFault cause)
      (Agree fun _ => True))
    (handles : ∀ cause, InStep stop given (handler cause) (last cause) claim) :
    InStep stop given
      (BodyM.catchFault run fun cause => do
        let shown ← showFault cause
        RunM.log (.fault shown)
        handler cause)
      (BodyM.catchFault other fun cause => do
        let shown ← showFault cause
        RunM.log (.fault shown)
        last cause) claim := by
  have logged (cause : Failure) : InStep stop given
      (do
        let shown ← showFault cause
        RunM.log (.fault shown)
        handler cause : BodyM α)
      (do
        let shown ← showFault cause
        RunM.log (.fault shown)
        last cause : BodyM α) claim := by
    refine .bind (.lift (shows cause)) fun shown final => ?_
    have logs : InStep stop (given ∧ Agree (fun _ => True) shown final)
        (RunM.log (.fault shown)) (RunM.log (.fault final))
        fun _ _ => True := by
      rintro before start ⟨-, rfl, -⟩ like
      obtain rfl := State.Like.eq like
      exact .ok (State.Like.identical _) trivial
    exact .bind (.lift logs) fun _ _ =>
      (handles cause).imp (fun facts => facts.1.1) fun _ _ _ claimed => claimed
  intro before start facts like
  have ends := runs before start facts like
  unfold BodyM.catchFault
  generalize run before = ended at ends
  generalize other start = final at ends
  cases ends with
  | ok like claimed => exact .ok like claimed
  | @interrupted interruption after later like =>
      cases interruption with
      | stalled => exact .interrupted like
      | fault cause => exact logged cause after later facts like
  | stopped place => exact .stopped place

end Rules

/-- Runs that may be stopped are in step with those that are not. -/
def coupling : Coupling .identical where
  InStep := InStep stop
  imp := InStep.imp
  replace runs same := fun before start facts like =>
    same facts ▸ runs before start facts like
  settled := InStep.settled
  bind := InStep.bind
  lift := InStep.lift
  stall := fun _ _ _ like => .interrupted like
  within depth related runs := fun before start facts like => by
    obtain rfl := related facts
    split
    · exact .interrupted like
    · exact runs before start facts like
  newFunction cells := fun before start facts like => by
    obtain ⟨same, heaps⟩ := like.heap.newFunction (cells facts)
    exact .ok ⟨heaps, like.session, like.record, like.stored⟩
      ⟨same, fun _ => trivial, fun _ => trivial⟩
  enters runs _ := runs.enters
  keys := InStep.keys 0
  yields related _ := .yields related
  attempt _ := InStep.attempt

/-- Functions that may be stopped run in step with those that are not,
within every bound. -/
theorem hosts_callUntil (bound : Nat) :
    (coupling stop).Hosts (callUntil stop bound) (callWithin bound) := by
  induction bound with
  | zero =>
      exact Coupling.hosts_of_calls (fun _ => trivial) fun _ _ =>
        (coupling stop).stall
  | succ bound hypothesis =>
      refine Coupling.hosts_of_calls (fun _ => trivial)
        fun holding invocation before start facts like => ?_
      rw [callUntil_apply]
      split
      next stops => exact .stopped ⟨before, stops, rfl, rfl⟩
      next =>
        exact calls_enterFunction hypothesis holding invocation before start
          facts like

end Stopped

section Stops

variable {stop : State -> Bool}

/-- A call that is not stopped on its way ends as it does without the
condition. -/
theorem callWithin_of_callUntil
    {bound : Nat}
    {holding : Holding}
    {invocation : Invocation}
    {before after : State}
    {value : Value}
    (ended : callUntil stop bound holding invocation before = .ok value after) :
    callWithin bound holding invocation before = .ok value after := by
  have ends := ((Stopped.hosts_callUntil stop bound).serves holding).calls
    invocation before before
    ⟨trivial, trivial, fun _ _ => trivial⟩ (State.Like.identical before)
  rw [ended] at ends
  generalize callWithin bound holding invocation before = final at ends
  cases ends with
  | ok like claimed => rw [State.Like.eq like, claimed.1]

/-- A step ends as it does without the condition, or in a state in which
it was stopped. -/
theorem Step.run_callUntil (bound : Nat) (step : Step) (before : State) :
    (step.run (callUntil stop bound) before).2 =
      (step.run (callWithin bound) before).2 ∨
      (step.run (callUntil stop bound) before).2.StoppedAt stop := by
  let fresh : State :=
    { before with session := { before.session with log := [] } }
  have acts : Stopped.InStep stop True (step.act (callUntil stop bound))
      (step.act (callWithin bound)) _ :=
    inStep_act (Stopped.hosts_callUntil stop bound) (.refl step)
  have ends := acts.start fresh fresh trivial (.identical fresh)
  have unfolded (call : Caller) : (step.run call before).2 =
      (Step.conclude (BodyM.start (step.act call) fresh)).2 := rfl
  rw [unfolded, unfolded]
  generalize BodyM.start (step.act (callUntil stop bound)) fresh = ended at ends
  generalize BodyM.start (step.act (callWithin bound)) fresh = final at ends
  cases ends with
  | ok like => exact .inl (State.Like.eq like).symm
  | interrupted like =>
      rw [State.Like.eq like]
      exact .inl rfl
  | stopped place => exact .inr place

/-- A condition that holds in no state that is reached stops no program. -/
theorem Program.endState_callUntil
    {first before : State}
    (bound : Nat)
    (steps : List Step)
    (never : ∀ state, first.Reaches state -> stop state = false)
    (reached : first.Reaches before) :
    endState (callUntil stop bound) before steps =
      endState (callWithin bound) before steps := by
  induction steps generalizing before with
  | nil =>
      -- Without the ends in between, the two ways of calling would be compared.
      have stays (call : Caller) : endState call before [] = before := rfl
      rw [stays, stays]
  | cons step rest hypothesis =>
      have reaches : first.Reaches (step.run (callUntil stop bound) before).2 :=
        .step stop bound step reached
      have same : (step.run (callUntil stop bound) before).2 =
          (step.run (callWithin bound) before).2 := by
        refine (step.run_callUntil bound before).resolve_right ?_
        rintro ⟨place, stops, heap, session⟩
        have moves :
            State.Moves (fun _ => True)
              (step.run (callUntil stop bound) before).2 place :=
          ⟨heap ▸ .refl _, fun sound => heap ▸ session ▸ sound⟩
        exact Bool.false_ne_true
          ((never place (.move reaches moves)).symm.trans stops)
      rw [endState, List.foldl_cons, endState, List.foldl_cons, ← same]
      exact hypothesis reaches

end Stops

end ClassLowering
