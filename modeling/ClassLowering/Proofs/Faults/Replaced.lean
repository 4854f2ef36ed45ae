import ClassLowering.Proofs.Faults.Chains
import ClassLowering.Proofs.Faults.Shown
import ClassLowering.Proofs.InStep.Same

/-!
# Faults that are replaced

Let the calls that end with a fault end with any other one, and in any other
state, and all other calls end as before. As long as no body catches a fault,
the computation around them either does not notice, since no call in it fails,
or it ends with the fault of the same call as before. In both runs the fault
comes out of the same chain, and the state is the one in which the call ended.

So nothing that a fault passes on its way looks at the fault or does
anything more.
-/

namespace ClassLowering

/-- Whether an entry of the log tells of a fault that a body caught. -/
def LogEntry.tellsFault : LogEntry -> Bool
  | .value _ => false
  | .fault _ => true

/-- Two calls end alike, up to the fault, and to the state in which they end
with it. -/
inductive AlikeUpToFault :
    EStateM.Result Interruption State Value ->
      EStateM.Result Interruption State Value -> Prop
  | same (ended : EStateM.Result Interruption State Value) :
      AlikeUpToFault ended ended
  | fault {cause other : Failure} {after later : State} :
      AlikeUpToFault (.error (.fault cause) after) (.error (.fault other) later)

/-- Two callers do alike, up to the faults of calls, and to the states in
which these end. -/
def ReplacesFaults (call other : Caller) : Prop :=
  ∀ holding invocation before,
    AlikeUpToFault (call holding invocation before)
      (other holding invocation before)

/-- What two computations end with is what the same call ended with, out of
the same chain. -/
inductive HandedOn (call other : Caller) :
    Failure -> State -> Option (Interruption × State) -> Prop
  | of {holding : Holding} {invocation : Invocation}
      {place last otherLast : State}
      {cause otherCause : Failure} (chain : List FaultLink) :
      call holding invocation place = .error (.fault cause) last ->
        other holding invocation place = .error (.fault otherCause) otherLast ->
          HandedOn call other (carry chain cause) (last.unwound chain cause)
            (some (.fault (carry chain otherCause),
              otherLast.unwound chain otherCause))

namespace Following

/-- Runs beside each other, as long as the log tells of no fault. What
faults cut is given. -/
def untold
    (Cuts : Failure -> State -> Option (Interruption × State) -> Prop)
    (goesOn : ∀ {cause state} ending, Cuts cause state none ->
      Cuts cause state ending)
    (wraps : ∀ {cause state ending} index, Cuts cause state ending ->
      Cuts (.keyEvaluation index cause) state
        (ending.map fun ended => (ended.1.atKey index, ended.2)))
    (left : ∀ {cause state ending} (_ : BodyEntry), Cuts cause state ending ->
      Cuts cause (state.leaving (some (.fault cause)))
        (ending.map fun ended => (ended.1, ended.2.leaving (some ended.1)))) :
    Following .identical where
  Known _ := True
  Leads _ _ := True
  Lost state := ∃ entry ∈ state.session.log, entry.tellsFault = true
  Cuts := Cuts
  known _ _ := trivial
  trans _ _ := trivial
  unrecorded _ _ := trivial
  leaves _ _ := trivial
  enters _ _ _ := trivial
  keeps := fun kept ⟨entry, logged, tells⟩ =>
    ⟨entry, kept.log.subset logged, tells⟩
  makes _ _ := .inr ⟨fun _ => trivial, fun _ => trivial⟩
  limits := .inl
  goesOn := goesOn
  wraps := wraps
  left := left
  caught {cause state _} _ := by
    obtain ⟨shown, session, shows, -⟩ := showFault_ok cause state
    exact ⟨shown, _, shows, .fault shown, List.mem_cons_self, rfl⟩

variable (call other : Caller)

/-- A run beside one whose faults are replaced, as long as the log tells of no
fault. -/
def replaced : Following .identical :=
  .untold (HandedOn call other) (fun _ => nofun)
    (fun index handed => by
      obtain ⟨chain, ended, otherEnded⟩ := handed
      exact .of (.key index :: chain) ended otherEnded)
    fun entry handed => by
      obtain ⟨chain, ended, otherEnded⟩ := handed
      exact .of (.body entry :: chain) ended otherEnded

variable {call other}

/-- The calls themselves are followed, up to their faults. -/
theorem calls_replaced
    (keeps : ∀ (holding : Holding) (invocation : Invocation) (before : State),
      before.Keeps (Stage.last (call holding invocation before)))
    (replaces : ReplacesFaults call other)
    (holding : Holding) :
    (Following.replaced call other).coupling.Calls (call holding)
      (other holding) := by
  intro invocation
  constructor
  · exact keeps holding invocation
  · intro before further _ like _
    obtain rfl := State.Like.eq like
    have alike := replaces holding invocation further
    generalize ended : call holding invocation further = result at alike
    generalize otherEnded : other holding invocation further = final at alike
    have reflexive (state : State) : Stage.Like .identical state state :=
      State.Like.identical state
    cases alike with
    | fault => exact .cut (.of [] ended otherEnded)
    | same =>
        cases result with
        | ok value after => exact .ok trivial (reflexive after) ⟨rfl, trivial⟩
        | error interruption after =>
            exact .interrupted trivial (reflexive after)

end Following

/-- Two computations end the same, or with the fault of the same call. -/
inductive EndsByCall (call other : Caller) {α : Type} :
    EStateM.Result Interruption State α ->
      EStateM.Result Interruption State α -> Prop
  | same (ended : EStateM.Result Interruption State α) :
      EndsByCall call other ended ended
  | handedOn {cause : Failure} {interruption : Interruption}
      {after later : State} :
      HandedOn call other cause after (some (interruption, later)) ->
        EndsByCall call other (.error (.fault cause) after)
          (.error interruption later)

/-- Reports that are alike where no limits differ are the same. -/
theorem Report.Like.eq
    {report other : Report}
    (like : report.Like (· = ·) other) :
    other = report := by
  cases like with
  | same => rfl
  | klass same =>
      cases same
      rfl

/-- The log of a step is that of the state in which it ends. -/
theorem Step.mem_log
    {call : Caller}
    {step : Step}
    {state : State}
    {entry : LogEntry}
    (logged : entry ∈ (Stage.last (BodyM.start (step.act call)
      { state with session :=
        { state.session with log := [] } })).session.log) :
    entry ∈ (step.run call state).1.log := by
  rw [Step.run, Step.log_conclude, List.mem_reverse]
  exact logged

/--
A step in which no body catches a fault ends the same when the faults of calls
are replaced, or with the fault of the same call.
-/
theorem Step.endsByCall
    {call other : Caller}
    (keeps : ∀ (holding : Holding) (invocation : Invocation) (before : State),
      before.Keeps (Stage.last (call holding invocation before)))
    (replaces : ReplacesFaults call other)
    (count : Nat)
    (step : Step)
    (state : State)
    (uncaught : ∀ entry ∈ (step.run (callOver call count) state).1.log,
      entry.tellsFault = false) :
    let start : State :=
      { state with session := { state.session with log := [] } }
    EndsByCall call other (BodyM.start (step.act (callOver call count)) start)
      (BodyM.start (step.act (callOver other count)) start) := by
  intro start
  have hosts :
      (Following.replaced call other).coupling.Hosts (callOver call count)
      (callOver other count) :=
    hosts_callOver (fun _ => trivial)
        (Following.calls_replaced keeps replaces) count
  have acts : (Following.replaced call other).coupling.InStep True
      (step.act (callOver call count)) (step.act (callOver other count)) _ :=
    inStep_act hosts (.refl step)
  have ends := (Following.InStep.start acts).follows start start trivial
    (.identical start) trivial
  have kept : ¬(Following.replaced call other).Lost
      (Stage.last (BodyM.start (step.act (callOver call count)) start)) := by
    rintro ⟨entry, logged, tells⟩
    exact Bool.false_ne_true
      ((uncaught entry (Step.mem_log logged)).symm.trans tells)
  generalize BodyM.start (step.act (callOver call count)) start =
    ended at ends kept
  generalize BodyM.start (step.act (callOver other count)) start = final at ends
  cases ends with
  | @ok result further after later _ like claimed =>
      obtain ⟨report, yields⟩ := result
      obtain ⟨last, others⟩ := further
      obtain ⟨reports, same, -⟩ := claimed
      have states : later = after := State.Like.eq like
      have sameReport : last = report := reports.eq
      dsimp only at same
      rw [states, sameReport, same]
      exact .same _
  | @interrupted interruption after later _ like =>
      have states : later = after := State.Like.eq like
      rw [states]
      exact .same _
  | lost lost => exact absurd lost kept
  | cut handed =>
      cases final with
      | ok result later => exact nomatch handed
      | error interruption later => exact .handedOn handed

end ClassLowering
