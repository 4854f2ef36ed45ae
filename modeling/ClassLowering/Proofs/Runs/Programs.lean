import ClassLowering.Proofs.Runs.Recording
import ClassLowering.Session.Program

/-!
# Runs of programs

A step of a program evaluates expressions outside of all bodies and reports
on values. Whatever the step, and whether it fails, is stopped or runs into
its bound, it makes progress from any sound state. So every state of every
program is sound.
-/

namespace ClassLowering

/-- Every invocation may be asked for. -/
def Demand.Total (demand : Demand) : Prop :=
  ∀ heap invocation, demand heap invocation

/-- A demand for everything covers what is asked for afresh. -/
theorem Demand.Total.fresh
    {demand : Demand}
    (total : demand.Total) :
    demand.CoversFresh :=
  ⟨fun _ _ _ => total _ _, fun _ _ _ _ => total _ _, fun _ _ _ => total _ _⟩

/-- A demand for everything allows every context. -/
theorem Demand.Total.allows
    {demand : Demand}
    {context : Context}
    (total : demand.Total) :
    demand.Allows context :=
  ⟨fun _ _ _ => total _ _, fun _ _ =>
    ⟨fun _ _ _ => total _ _, fun _ _ _ _ => total _ _⟩⟩

/-- Bodies may be asked for without condition. -/
theorem Demand.total_asking : (asking fun _ _ => True).Total :=
  fun _ _ _ _ _ => trivial

section Reports

variable {progress : Progress} {before : State}

/-- Reporting on a function makes progress. -/
theorem runs_reportFunction (ref : FunctionRef) (sound : before.Sound) :
    progress.Runs (reportFunction ref) before fun _ _ => True :=
  .readHeap_bind (.bind sound (runs_showValue _) fun _ _ _ _ _ => .pure trivial)

/-- Reporting on a function that may be missing makes progress. -/
theorem runs_reportFunction?
    (ref? : Option FunctionRef)
    (sound : before.Sound) :
    progress.Runs (reportFunction? ref?) before fun _ _ => True := by
  cases ref? with
  | none => exact .pure trivial
  | some ref =>
      exact .bind sound (runs_reportFunction ref sound) fun _ _ _ _ _ =>
        .pure trivial

/-- Reporting on an entry of a prototype makes progress. -/
theorem runs_reportEntry (entry : PrototypeEntry) (sound : before.Sound) :
    progress.Runs (reportEntry entry) before fun _ _ => True := by
  cases entry with
  | constructor => exact .pure trivial
  | method function =>
      exact .bind sound (runs_reportFunction function sound) fun _ _ _ _ _ =>
        .pure trivial
  | accessor getter setter =>
      refine .bind sound (runs_reportFunction? getter sound)
        fun _ _ soundBetween _ _ => ?_
      exact .bind soundBetween (runs_reportFunction? setter soundBetween)
        fun _ _ _ _ _ => .pure trivial

/-- Reporting on a class makes progress. -/
theorem runs_reportClass (ref : ClassRef) (sound : before.Sound) :
    progress.Runs (reportClass ref) before fun _ _ => True := by
  refine .readHeap_bind
    (.bind sound (.mapM _ sound ?_) fun _ _ _ _ _ => .pure trivial)
  intro field _ state soundState _
  refine .bind soundState (runs_showKey field.key)
    fun _ _ soundBetween _ _ => ?_
  exact .bind soundBetween
    (runs_reportFunction? field.initializer? soundBetween)
    fun _ _ _ _ _ => .pure trivial

/-- Reporting on a prototype makes progress. -/
theorem runs_reportPrototype (ref : ClassRef) (sound : before.Sound) :
    progress.Runs (reportPrototype ref) before fun _ _ => True := by
  refine .readHeap_bind
    (.bind sound (.mapM _ sound ?_) fun _ _ _ _ _ => .pure trivial)
  intro entry _ state soundState _
  refine .bind soundState (runs_showKey entry.1) fun _ _ soundBetween _ _ => ?_
  exact .bind soundBetween (runs_reportEntry entry.2.entry soundBetween)
    fun _ _ _ _ _ => .pure trivial

/-- Reporting on one key of a prototype makes progress. -/
theorem runs_reportLookUp
    (ref : ClassRef)
    (key : PropertyKey)
    (sound : before.Sound) :
    progress.Runs (reportLookUp ref key) before fun _ _ => True := by
  refine .readHeap_bind ?_
  dsimp only
  cases OrderedMap.find? (before.heap.klass ref).prototype key with
  | none => exact .pure trivial
  | some slot =>
      exact .bind sound (runs_reportEntry slot.entry sound) fun _ _ _ _ _ =>
        .pure trivial

/-- Reporting on an object makes progress. -/
theorem runs_reportObject (ref : ObjectRef) (sound : before.Sound) :
    progress.Runs (reportObject ref) before fun _ _ => True := by
  refine .readHeap_bind
    (.bind sound (.mapM _ sound ?_) fun _ _ _ _ _ => .pure trivial)
  intro field _ state soundState _
  refine .bind soundState (runs_showKey field.1) fun _ _ soundBetween _ _ => ?_
  exact .bind soundBetween (runs_showValue field.2) fun _ _ _ _ _ =>
    .pure trivial

end Reports

section Steps

variable {progress : Progress} {demand : Demand} {call : Caller}

/-- Evaluating an expression outside of all bodies makes progress. -/
theorem runs_evaluate_host
    {before : BodyState}
    {context : Context}
    (serves : ∀ holding, progress.Serves demand (call holding))
    (total : demand.Total)
    (makes : ∀ cell, progress.Makes cell)
    (outside : context.frame = none)
    (expr : Expr)
    (sound : before.Sound) :
    progress.RunsBody (evaluate call context expr) before Value.Known := by
  refine runs_expression serves expr total.allows (.inr total.fresh) sound ?_
    (Expr.makesOnly_of_total makes expr)
  intro frame present
  rw [outside] at present
  cases present

/-- Looking for what a value is and reporting on it makes progress. -/
theorem runs_report
    {α β γ : Type}
    {before : BodyState}
    {find : RunM α}
    {report : α -> RunM β}
    (answer : β -> γ)
    (sound : before.Sound)
    (finds : progress.Runs find before.state fun _ _ => True)
    (reports : ∀ found (state : State), state.Sound ->
      progress.Runs (report found) state fun _ _ => True) :
    progress.RunsBody (do
      let found ← BodyM.lift find
      let reported ← BodyM.lift (report found)
      return answer reported) before fun _ _ => True := by
  refine .bind (.lift sound finds) fun found between soundBetween _ _ => ?_
  refine .bind (.lift soundBetween
    (reports found between.state soundBetween.state)) ?_
  exact fun _ _ soundAfter _ _ => .pure soundAfter trivial

/-- Answering a question makes progress. -/
theorem runs_answer
    {before : BodyState}
    (serves : ∀ holding, progress.Serves demand (call holding))
    (total : demand.Total)
    (makes : ∀ cell, progress.Makes cell)
    (subject : Expr)
    (question : Question)
    (sound : before.Sound) :
    progress.RunsBody (answer call subject question) before
      fun _ _ => True := by
  refine .bind (runs_evaluate_host serves total makes rfl subject sound) ?_
  intro value between soundBetween _ known
  have outlines :
      progress.Runs (outlineOf value) between.state fun _ _ => True :=
    .asClass_bind known fun _ _ => .readHeap trivial
  cases question with
  | value =>
      have reports :
          progress.Runs (reportValue value) between.state fun _ _ => True :=
        .readHeap_bind (.pure trivial)
      exact .bind (.lift soundBetween reports) fun _ _ soundAfter _ _ =>
        .pure soundAfter trivial
  | function =>
      exact runs_report _ soundBetween (runs_asFunction value)
        fun ref _ => runs_reportFunction ref
  | functionForm =>
      exact .bind (.lift soundBetween outlines) fun _ _ soundAfter _ _ =>
        .pure soundAfter trivial
  | document =>
      exact .bind (.lift soundBetween outlines) fun _ _ soundAfter _ _ =>
        .pure soundAfter trivial
  | ownKeys => exact .readHeap_bind (.pure soundBetween trivial)
  | klass =>
      exact runs_report _ soundBetween (runs_asClass value)
        fun ref _ => runs_reportClass ref
  | prototype =>
      exact runs_report _ soundBetween (runs_asClass value)
        fun ref _ => runs_reportPrototype ref
  | lookUp key =>
      refine .bind (.lift soundBetween (runs_asClass value))
        fun klass _ soundClass _ _ => ?_
      refine .bind (runs_evaluate_host serves total makes rfl key soundClass) ?_
      intro keyValue later soundLater _ keyKnown
      refine .holding_bind fun holding => ?_
      exact runs_report _ soundLater
        (runs_toKey (serves holding) total.fresh.conversions
          soundLater.state keyKnown)
        fun key _ => runs_reportLookUp klass key
  | object =>
      exact runs_report _ soundBetween (runs_asObject value)
        fun ref _ => runs_reportObject ref
  | next =>
      refine .bind (.lift soundBetween (runs_asGenerator value))
        fun ref state soundRef _ _ => ?_
      have yields :
          progress.Runs (RunM.allocate (·.nextYield ref)) state.state
            fun _ _ => True :=
        .allocate (.single (.next ref)) trivial
      refine .bind (.lift soundRef yields)
        fun delivery _ soundDelivery _ _ => ?_
      refine .bind (.lift soundDelivery (runs_showValue _)) ?_
      exact fun _ _ soundAfter _ _ => .pure soundAfter trivial
  | remaining =>
      refine .bind (.lift soundBetween (runs_asGenerator value))
        fun ref state soundRef _ _ => ?_
      have drains :
          progress.Runs (RunM.allocate (·.drainYields ref)) state.state
          fun _ _ => True :=
        .allocate (.single (.drain ref)) trivial
      refine .bind (.lift soundRef drains) fun values _ soundValues _ _ => ?_
      refine .bind (.lift soundValues (.mapM values soundValues.state
        fun value _ _ _ _ => runs_showValue value)) ?_
      exact fun _ _ soundAfter _ _ => .pure soundAfter trivial
  | key depth =>
      refine .holding_bind fun holding => ?_
      refine .bind (.lift soundBetween
        (runs_toKey (serves holding) (fun _ _ _ => total _ _)
          soundBetween.state known)) ?_
      intro key _ soundKey _ _
      refine .bind (.lift soundKey (runs_showKey key)) ?_
      exact fun _ _ soundAfter _ _ => .pure soundAfter trivial

/-- Doing what a step says makes progress. -/
theorem runs_act
    {before : BodyState}
    (serves : ∀ holding, progress.Serves demand (call holding))
    (total : demand.Total)
    (makes : ∀ cell, progress.Makes cell)
    (step : Step)
    (sound : before.Sound) :
    progress.RunsBody (step.act call) before fun _ _ => True := by
  cases step with
  | evaluate subject target? =>
      refine .bind (runs_evaluate_host serves total makes rfl subject sound) ?_
      intro value between soundBetween _ known
      refine .bind (.lift soundBetween (runs_showValue value)) ?_
      intro shown later soundLater extension _
      cases target? with
      | none => exact .pure soundLater trivial
      | some name =>
          have stores : progress.Runs (RunM.changeSession fun session =>
              { session with storedValues :=
                session.storedValues.insert name value })
              later.state fun _ _ => True :=
            .changeSession (fun session =>
              session.setVariable name (known.mono extension)) trivial
          exact .bind (.lift soundLater stores) fun _ _ soundAfter _ _ =>
            .pure soundAfter trivial
  | ask subject question =>
      exact runs_answer serves total makes subject question sound
  | askScope name =>
      refine .bind (.lift sound (runs_scopeNamed name sound.state)) ?_
      exact fun _ _ soundAfter _ _ => .readHeap_bind (.pure soundAfter trivial)
  | askDraft form =>
      refine .bind (.lift sound (runs_draftClass form.blueprint sound.state ?_))
        ?_
      · exact fun _ absent => absurd absent (Option.not_mem_none _)
      · exact fun _ _ soundAfter _ _ =>
          .readHeap_bind (.pure soundAfter trivial)

/-- A step leads from a sound state to where it ends, however it ends. -/
theorem leads_step
    {before : State}
    (serves : ∀ holding, progress.Serves demand (call holding))
    (total : demand.Total)
    (makes : ∀ cell, progress.Makes cell)
    (step : Step)
    (sound : before.Sound) :
    progress.Leads before (step.run call before).2 := by
  let fresh : State :=
    { before with session := { before.session with log := [] } }
  have starts : progress.Leads before fresh :=
    progress.quiet (.of_session fun session =>
      ⟨session.storedValues, session.scopes⟩) rfl
  have soundFresh : fresh.Sound := (progress.moves starts).sound sound
  have acts := Progress.runs_start
    (runs_act serves total makes step soundFresh.start)
  unfold Progress.Runs at acts
  have unfolded : (step.run call before).2 =
      (Step.conclude (BodyM.start (step.act call) fresh)).2 := rfl
  rw [unfolded]
  cases ended : BodyM.start (step.act call) fresh with
  | ok result after =>
      rw [ended] at acts
      exact progress.trans starts acts.1
  | error interruption after =>
      rw [ended] at acts
      cases interruption with
      | stalled => exact progress.trans starts acts.1
      | fault cause =>
          have soundAfter := (progress.moves acts.1).sound soundFresh
          have shows : progress.Runs (showFault cause) after fun _ _ => True :=
            runs_showFault soundAfter cause
          unfold Progress.Runs at shows
          unfold Step.conclude
          dsimp only
          cases shown : showFault cause after with
          | ok fault last =>
              rw [shown] at shows
              exact progress.trans starts (progress.trans acts.1 shows.1)
          | error _ last =>
              rw [shown] at shows
              exact progress.trans starts (progress.trans acts.1 shows.1)

end Steps

namespace Program

/-- The state in which the steps of a program end. -/
def endState (call : Caller) (before : State) (steps : List Step) : State :=
  steps.foldl (fun state step => (step.run call state).2) before

/-- The first state of a program is sound. -/
theorem sound_initialState : initialState.Sound := by
  have step : Heap.empty.Step (fun _ => True) (Heap.empty.newScope none).2 :=
    .scope none (by simp)
  refine ⟨step.sound Heap.sound_empty, fun value present =>
    ?_, fun scope stored => ?_⟩
  · cases present
  · rcases OrderedMap.mem_values_insert stored with rfl | old
    · exact Heap.empty.holds_newScope none
    · cases old

/-- A program moves every sound state to the one in which it ends, also where
it is stopped. -/
theorem moves_endState
    {before : State}
    (stop : State -> Bool)
    (bound : Nat)
    (steps : List Step)
    (sound : before.Sound) :
    before.Moves (fun _ => True)
      (endState (callUntil stop bound) before steps) := by
  induction steps generalizing before with
  | nil => exact .refl before
  | cons step rest hypothesis =>
      have leads := leads_step (serves_callUntil stop bound fun _ _ => True)
        Demand.total_asking (fun _ => trivial) step sound
      have moves := Progress.moves _ leads
      exact moves.trans (hypothesis (moves.sound sound))

/-- A program keeps every state sound. -/
theorem sound_endState
    {before : State}
    (stop : State -> Bool)
    (bound : Nat)
    (steps : List Step)
    (sound : before.Sound) :
    (endState (callUntil stop bound) before steps).Sound :=
  (moves_endState stop bound steps sound).sound sound

end Program

end ClassLowering
