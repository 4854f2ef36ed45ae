import ClassLowering.Proofs.Faults.Replaced

/-!
# Faults that no body catches

A body that catches a fault tells of it in the log, where it stays until the end
of the step. In a step whose log tells of none, every fault that some body
raises is what the step ends with, but for the wraps of the keys that it comes
out of, and nothing runs after it is raised.

That no fault gets lost is read off the record of bodies: until the fault is
raised that the step ends with, no body was left with one. That none is looked
at on its way is read off runs in which some calls end with other faults: these
come out instead, and nothing else changes.
-/

namespace ClassLowering

/-- A run beside itself, as long as the log tells of no fault. -/
def Following.uncaught : Following .identical :=
  .untold (fun _ _ _ => True) (fun _ _ => trivial) (fun _ _ => trivial)
    fun _ _ => trivial

/-- No body is left with a fault between two states. -/
def State.Faultless (before after : State) : Prop :=
  ∃ events, after.record = events ++ before.record ∧
    ∀ cause, BodyEvent.left (some (.fault cause)) ∉ events

namespace State.Faultless

variable {first second third : State}

/-- What is not recorded leaves no body. -/
theorem of_record
    (same : second.record = first.record) :
    first.Faultless second :=
  ⟨[], same, fun _ => nofun⟩

/-- What leaves no body with a fault may go on so. -/
theorem trans
    (earlier : first.Faultless second)
    (later : second.Faultless third) :
    first.Faultless third := by
  obtain ⟨events, recorded, faultless⟩ := earlier
  obtain ⟨more, recordedMore, faultlessMore⟩ := later
  refine ⟨more ++ events, by
    rw [recordedMore, recorded, List.append_assoc], fun cause => ?_⟩
  exact fun present => (List.mem_append.1 present).elim (faultlessMore cause)
    (faultless cause)

/-- Any event but the end of a body with a fault may be recorded. -/
theorem cons
    (event : BodyEvent)
    (harmless : ∀ cause, BodyEvent.left (some (.fault cause)) ≠ event)
    (recorded : second.record = event :: first.record) :
    first.Faultless second :=
  ⟨[event], recorded, fun cause present =>
    harmless cause (List.mem_singleton.1 present)⟩

end State.Faultless

/--
How a computation ends in which no fault is caught: with a fault that is raised
in it, or no body of it is left with one.
-/
structure HandsOn {σ α : Type} [Stage σ] (run : EStateM Interruption σ α)
    (before : σ) : Prop where
  ok {result : α} {after : σ} :
    run before = .ok result after ->
      (Stage.state before).Faultless (Stage.state after)
  stalled {after : σ} :
    run before = .error .stalled after ->
      (Stage.state before).Faultless (Stage.state after)
  /-- What comes out is raised somewhere, and no body is left with a
  fault before that. -/
  fault {fault : Failure} {after : σ} :
    run before = .error (.fault fault) after ->
      ∃ chain cause place, Raises run before chain cause place ∧
        (Stage.state before).Faultless place

namespace HandsOn

section Stages

variable {σ α β : Type} [Stage σ] {run : EStateM Interruption σ α}
  {before after : σ}

/-- A computation that ends well hands on every fault if none is there. -/
theorem of_ok
    {result : α}
    (ended : run before = .ok result after)
    (faultless : (Stage.state before).Faultless (Stage.state after)) :
    HandsOn run before where
  ok final := by
    rw [ended] at final
    cases final
    exact faultless
  stalled final := nomatch ended.symm.trans final
  fault final := nomatch ended.symm.trans final

/-- A computation that stalls hands on every fault if none is there. -/
theorem of_stalled
    (ended : run before = .error .stalled after)
    (faultless : (Stage.state before).Faultless (Stage.state after)) :
    HandsOn run before where
  ok final := nomatch ended.symm.trans final
  stalled final := by
    rw [ended] at final
    cases final
    exact faultless
  fault final := nomatch ended.symm.trans final

/-- A computation hands on the fault that is raised in it. -/
theorem of_raises
    {chain : List FaultLink}
    {cause : Failure}
    {place : State}
    (raises : Raises run before chain cause place)
    (faultless : (Stage.state before).Faultless place) :
    HandsOn run before := by
  obtain ⟨last, ended, -⟩ := raises.ends
  exact
    { ok := fun final => nomatch ended.symm.trans final
      stalled := fun final => nomatch ended.symm.trans final
      fault := fun _ => ⟨chain, cause, place, raises, faultless⟩ }

/-- The first part of a computation that it interrupts. -/
theorem bindFirst
    {interruption : Interruption}
    (next : α -> EStateM Interruption σ β)
    (hands : HandsOn run before)
    (ended : run before = .error interruption after) :
    HandsOn (run >>= next) before := by
  cases interruption with
  | stalled =>
      exact .of_stalled (by simp only [Bind.bind, EStateM.bind, ended])
        (hands.stalled ended)
  | fault fault =>
      obtain ⟨chain, cause, place, raises, faultless⟩ := hands.fault ended
      exact .of_raises raises.bindFirst faultless

/-- The rest of a computation. -/
theorem bindRest
    {result : α}
    {next : α -> EStateM Interruption σ β}
    (first : HandsOn run before)
    (ended : run before = .ok result after)
    (rest : HandsOn (next result) after) :
    HandsOn (run >>= next) before := by
  have goesOn : (run >>= next) before = next result after := by
    simp only [Bind.bind, EStateM.bind, ended]
  have faultless := first.ok ended
  exact
    { ok := fun final => faultless.trans (rest.ok (goesOn.symm.trans final))
      stalled := fun final =>
        faultless.trans (rest.stalled (goesOn.symm.trans final))
      fault := fun final => by
        obtain ⟨chain, cause, place, raises, more⟩ :=
          rest.fault (goesOn.symm.trans final)
        exact ⟨chain, cause, place, .bindRest ended raises,
          faultless.trans more⟩ }

end Stages

/-- A run of the engine inside a body. -/
theorem lift
    {α : Type}
    {run : RunM α}
    {before : BodyState}
    (hands : HandsOn run before.state) :
    HandsOn (BodyM.lift run) before := by
  cases ended : run before.state with
  | ok result after => exact .of_ok (BodyM.lift_of_ok ended) (hands.ok ended)
  | error interruption after =>
      cases interruption with
      | stalled =>
          exact .of_stalled (BodyM.lift_of_error ended) (hands.stalled ended)
      | fault fault =>
          obtain ⟨chain, cause, place, raises, faultless⟩ := hands.fault ended
          exact .of_raises raises.lift faultless

/-- A body that is entered. -/
theorem runInFrame
    {call : Caller}
    {context : Context}
    {entry : BodyEntry}
    {body : Expr}
    {before : State}
    (hands : HandsOn (evaluate call context body)
      ⟨before.entering entry, ∅, .empty⟩) :
    HandsOn (ClassLowering.runInFrame call context entry body) before := by
  have entered : before.Faultless (before.entering entry) :=
    .cons (.entered entry) nofun rfl
  cases ended :
    evaluate call context body ⟨before.entering entry, ∅, .empty⟩ with
  | ok result after =>
      have faultless := hands.ok ended
      refine .of_ok (runInFrame_of_ok (BodyM.start_of_ok ended)) ?_
      exact (entered.trans faultless).trans (.cons (.left none) nofun rfl)
  | error interruption after =>
      cases interruption with
      | stalled =>
          have faultless := hands.stalled ended
          refine .of_stalled
            (runInFrame_of_error (BodyM.start_of_error ended)) ?_
          exact (entered.trans faultless).trans
            (.cons (.left (some .stalled)) nofun rfl)
      | fault fault =>
          obtain ⟨chain, cause, place, raises, faultless⟩ := hands.fault ended
          exact .of_raises raises.body (entered.trans faultless)

end HandsOn

section Keys

variable {call : Invoker} {scope : ScopeRef} {limits : Limits}

/-- How the evaluation of keys ends: with a fault of one of them, or no body is
left with one. -/
inductive KeysHandOn (call : Invoker) (scope : ScopeRef) (limits : Limits)
    (index : Nat) (before : State) : List (MemberKey PropertyKey Expr) -> Prop
  | ok {written : List (MemberKey PropertyKey Expr)} {keys : List PropertyKey}
      {after : State} :
      evaluateKeys call scope limits index written before = .ok keys after ->
        before.Faultless after ->
          KeysHandOn call scope limits index before written
  | stalled {written : List (MemberKey PropertyKey Expr)} {after : State} :
      evaluateKeys call scope limits index written before =
        .error .stalled after ->
        before.Faultless after ->
          KeysHandOn call scope limits index before written
  | fault {earlier later : List (MemberKey PropertyKey Expr)}
      {key : MemberKey PropertyKey Expr}
      {keys : List PropertyKey} {between : State} {chain : List FaultLink}
      {cause : Failure}
      {place : State} :
      evaluateKeys call scope limits index earlier before = .ok keys between ->
        Raises (evaluateKey call scope limits key) between chain cause place ->
          before.Faultless place ->
            KeysHandOn call scope limits index before (earlier ++ key :: later)

namespace KeysHandOn

variable {index : Nat} {before between : State}
  {rest : List (MemberKey PropertyKey Expr)}
variable {key : MemberKey PropertyKey Expr}

/-- A key whose evaluation is interrupted ends the evaluation of all. -/
theorem stop
    {interruption : Interruption}
    (hands : HandsOn (evaluateKey call scope limits key) before)
    (ended : evaluateKey call scope limits key before =
      .error interruption between) :
    KeysHandOn call scope limits index before (key :: rest) := by
  cases interruption with
  | stalled =>
      refine .stalled ?_ (hands.stalled ended)
      rw [evaluateKeys_cons, ended]
      rfl
  | fault fault =>
      obtain ⟨chain, cause, place, raises, faultless⟩ := hands.fault ended
      have nothing : evaluateKeys call scope limits index [] before =
        .ok [] before := rfl
      change KeysHandOn call scope limits index before ([] ++ key :: rest)
      exact .fault nothing raises faultless

/-- After a key that is evaluated, the others hand on their faults. -/
theorem cons
    {value : PropertyKey}
    (ended : evaluateKey call scope limits key before = .ok value between)
    (faultless : before.Faultless between)
    (hands : KeysHandOn call scope limits (index + 1) between rest) :
    KeysHandOn call scope limits index before (key :: rest) := by
  cases hands with
  | @ok _ keys after endedWell more =>
      have endedSo : evaluateKeys call scope limits index (key :: rest) before =
          .ok (value :: keys) after := by
        rw [evaluateKeys_cons, ended]
        dsimp only
        rw [endedWell]
      exact .ok endedSo (faultless.trans more)
  | stalled stalls more =>
      refine .stalled ?_ (faultless.trans more)
      rw [evaluateKeys_cons, ended]
      dsimp only
      rw [stalls]
  | @fault earlier later failing keys middle _ _ _ evaluated raises more =>
      have evaluatedSo :
          evaluateKeys call scope limits index (key :: earlier) before =
          .ok (value :: keys) middle := by
        rw [evaluateKeys_cons, ended]
        dsimp only
        rw [evaluated]
      change KeysHandOn call scope limits index before
        ((key :: earlier) ++ failing :: later)
      exact .fault evaluatedSo raises (faultless.trans more)

/-- The fault of a key comes out with its index. -/
theorem handsOn (hands : KeysHandOn call scope limits 0 before rest) :
    HandsOn (evaluateKeys call scope limits 0 rest) before := by
  cases hands with
  | ok ended faultless => exact .of_ok ended faultless
  | stalled ended faultless => exact .of_stalled ended faultless
  | fault evaluated raises faultless =>
      exact .of_raises (raises.key evaluated) faultless

end KeysHandOn

end Keys

namespace Uncaught

/-- A run is in step with itself, and hands on every fault unless one is
caught. -/
structure InStep {σ α : Type} [Stage σ] (given : Prop)
    (run other : EStateM Interruption σ α) (claim : α -> α -> Prop) : Prop where
  follows : Following.uncaught.InStep given run other claim
  handsOn (before further : σ) : given ->
    Stage.Like .identical before further ->
      ¬Following.uncaught.Lost (Stage.last (run before)) -> HandsOn run before

section Stages

variable {σ α β : Type} [Stage σ] {given : Prop} {claim : α -> α -> Prop}
variable {run other : EStateM Interruption σ α}

/-- A change that settles either ends well or raises a fault where it starts. -/
theorem InStep.settled
    (settles : Settles .identical given run other claim) :
    InStep given run other claim where
  follows := .settled settles
  handsOn before further facts like _ := by
    have quiet := settles.quiet before
    have alike := settles.alike before further facts like
    generalize ended : run before = result at quiet alike
    generalize other further = last at alike
    cases alike with
    | ok _ _ => exact .of_ok ended (.of_record quiet.record)
    | fault unwrapped =>
        exact .of_raises (.raise ended unwrapped) (.of_record rfl)

/-- What follows a computation hands on what is raised in it. -/
theorem InStep.bind
    {next last : α -> EStateM Interruption σ β}
    {further : β -> β -> Prop}
    (first : InStep given run other claim)
    (rest : ∀ result final,
      InStep (given ∧ claim result final) (next result) (last final) further) :
    InStep given (run >>= next) (other >>= last) further where
  follows := .bind first.follows fun result final => (rest result final).follows
  handsOn before start facts like kept := by
    have hands := first.handsOn before start facts like
    have ends := first.follows.follows before start facts like trivial
    cases ended : run before with
    | error interruption after =>
        have stops : (run >>= next) before = .error interruption after := by
          simp only [Bind.bind, EStateM.bind, ended]
        rw [stops] at kept
        rw [ended] at hands
        exact (hands kept).bindFirst next ended
    | ok result after =>
        have goesOn : (run >>= next) before = next result after := by
          simp only [Bind.bind, EStateM.bind, ended]
        rw [goesOn] at kept
        have keptBetween :
            ¬Following.uncaught.Lost (Stage.state after) := fun lost =>
          kept (Following.uncaught.keeps
            ((rest result result).follows.keeps after) lost)
        rw [ended] at hands ends
        generalize other start = ending at ends
        cases ends with
        | lost lost => exact absurd lost keptBetween
        | @ok _ final _ later _ like claimed =>
            exact (hands keptBetween).bindRest ended
              ((rest result final).handsOn after later
                ⟨facts, claimed⟩ like kept)

end Stages

section Rules

variable {α : Type} {given : Prop} {claim : α -> α -> Prop}

/-- A run of the engine hands on faults inside a body. -/
theorem InStep.lift
    {run other : RunM α}
    (runs : InStep given run other claim) :
    InStep given (BodyM.lift run) (BodyM.lift other) claim where
  follows := .lift runs.follows
  handsOn before further facts like kept := by
    refine (runs.handsOn before.state further.state facts
      (BodyState.Like.state like) ?_).lift
    cases ended : run before.state with
    | ok result after => rwa [BodyM.lift_of_ok ended] at kept
    | error interruption after => rwa [BodyM.lift_of_error ended] at kept

/-- A limit is met before anything is done. -/
theorem InStep.within
    {run other : RunM α}
    {limits further : Limits}
    (depth : Depth)
    (related : given -> limits = further)
    (runs : InStep given run other claim) :
    InStep given
      (if limits.callDepth < depth
        then RunM.fail (.callDepthExceeded limits.callDepth) else run)
      (if further.callDepth < depth
        then RunM.fail (.callDepthExceeded further.callDepth)
        else other) claim where
  follows := .within depth related runs.follows
  handsOn before start facts like kept := by
    split at kept
    next deep =>
      rw [if_pos deep]
      exact .of_raises (.raise rfl rfl) (.of_record rfl)
    next shallow =>
      rw [if_neg shallow]
      exact runs.handsOn before start facts like kept

/-- A body that is entered hands on the faults that are raised in it. -/
theorem InStep.enters
    {call other : Caller}
    {context last : Context}
    {entry : BodyEntry}
    {body further : Expr}
    (runs : InStep given (evaluate call context body)
      (evaluate other last further) (Agree fun _ => True)) :
    InStep given (runInFrame call context entry body)
      (runInFrame other last entry further)
      (Agree fun result => True ∧ Likeness.AllVisible .identical
        result.2.values) where
  follows := Following.uncaught.coupling.enters runs.follows fun _ => trivial
  handsOn before start facts like kept := by
    refine .runInFrame (runs.handsOn _ ⟨start.entering entry, ∅, .empty⟩ facts
      ⟨State.Like.record_cons like (.entered entry), rfl, rfl, nofun, nofun⟩ ?_)
    cases ended :
      evaluate call context body ⟨before.entering entry, ∅, .empty⟩ with
    | ok result after =>
        rwa [runInFrame_of_ok (BodyM.start_of_ok ended)] at kept
    | error interruption after =>
        rwa [runInFrame_of_error (BodyM.start_of_error ended)] at kept

/-- Keys are evaluated in turn, and the first fault is handed on. -/
theorem InStep.keysHandOn
    {call other : Invoker}
    {scope : ScopeRef}
    {limits further : Limits}
    {written last : List (MemberKey PropertyKey Expr)}
    (index : Nat)
    (each : List.Forall₂ (fun key final =>
      InStep given (evaluateKey call scope limits key)
        (evaluateKey other scope further final)
        (Agree fun _ => True)) written last)
    (before start : State)
    (facts : given)
    (like : before.Like .identical start)
    (kept : ¬Following.uncaught.Lost
      (Stage.last (evaluateKeys call scope limits index written before))) :
    KeysHandOn call scope limits index before written := by
  induction each generalizing index before start with
  | nil => exact .ok rfl (.of_record rfl)
  | @cons key final rest _ first others hypothesis =>
      rw [evaluateKeys_cons] at kept
      have hands := first.handsOn before start facts like
      have ends := first.follows.follows before start facts like trivial
      cases ended : evaluateKey call scope limits key before with
      | error interruption after =>
          rw [ended] at kept hands
          exact .stop (hands kept) ended
      | ok value between =>
          rw [ended] at kept hands ends
          dsimp only at kept
          have keptAfter : ¬Following.uncaught.Lost
              (Stage.last (evaluateKeys call scope limits
                (index + 1) rest between)) := by
            cases remaining :
              evaluateKeys call scope limits (index + 1) rest between <;>
              rwa [remaining] at kept
          have keeps := (Following.InStep.keys (index + 1)
            (others.imp fun _ _ same => same.follows)).keeps between
          have keptBetween : ¬Following.uncaught.Lost between := fun lost =>
            keptAfter (Following.uncaught.keeps keeps lost)
          generalize evaluateKey other scope further final start =
            ending at ends
          cases ends with
          | lost lost => exact absurd lost keptBetween
          | ok _ like _ =>
              exact .cons ended ((hands keptBetween).ok ended)
                (hypothesis (index + 1) between _ like keptAfter)

/-- A yield either is collected or raises a fault. -/
theorem InStep.yields
    {frame : Frame}
    {limit : Option Nat}
    {value : Value}
    (related : given -> Likeness.YieldLimits .identical
      frame.yieldLimit limit) :
    InStep given (yieldValue frame value)
      (yieldValue { frame with yieldLimit := limit } value)
      (Agree fun _ => True) where
  follows := .yields related fun _ => trivial
  handsOn before _ _ _ _ := by
    cases limited : frame.yieldLimit with
    | none =>
        exact .of_raises (.raise (yieldValue_of_none value before limited) rfl)
          (.of_record rfl)
    | some limit =>
        have yields := yieldValue_of_some value before limited
        split at yields
        · exact .of_raises (.raise yields rfl) (.of_record rfl)
        · exact .of_ok yields (.of_record rfl)

/-- A fault that is handled is told of in the log, and all others are handed
on. -/
theorem InStep.attempt
    {run other : BodyM α}
    {handler last : Failure -> BodyM α}
    (runs : InStep given run other claim)
    (shows : ∀ cause, InStep given (showFault cause) (showFault cause)
      (Agree fun _ => True))
    (handles : ∀ cause, InStep given (handler cause) (last cause) claim) :
    InStep given
      (BodyM.catchFault run fun cause => do
        let shown ← showFault cause
        RunM.log (.fault shown)
        handler cause)
      (BodyM.catchFault other fun cause => do
        let shown ← showFault cause
        RunM.log (.fault shown)
        last cause) claim where
  follows := .attempt runs.follows (fun cause => (shows cause).follows)
    fun cause => (handles cause).follows
  handsOn before start facts like kept := by
    have hands := runs.handsOn before start facts like
    unfold BodyM.catchFault at kept
    cases ended : run before with
    | ok result after =>
        rw [ended] at kept hands
        have endedSo : BodyM.catchFault run (fun cause => do
            let shown ← showFault cause
            RunM.log (.fault shown)
            handler cause) before = .ok result after := by
          rw [BodyM.catchFault, ended]
        exact .of_ok endedSo ((hands kept).ok ended)
    | error interruption after =>
        rw [ended] at kept hands
        cases interruption with
        | stalled =>
            have endedSo : BodyM.catchFault run (fun cause => do
                let shown ← showFault cause
                RunM.log (.fault shown)
                handler cause) before = .error .stalled after := by
              rw [BodyM.catchFault, ended]
            exact .of_stalled endedSo ((hands kept).stalled ended)
        | fault cause =>
            have lost := (handles cause).follows.lost_of_handled
              (show Following.uncaught.Cuts cause after.state none from trivial)
            exact absurd lost kept

end Rules

/-- Runs that hand on every fault unless one is caught are in step. -/
def coupling : Coupling .identical where
  InStep := InStep
  imp runs implies claims :=
    { follows := runs.follows.imp implies claims
      handsOn := fun before further facts =>
        runs.handsOn before further (implies facts) }
  replace runs same :=
    { follows := runs.follows.replace same
      handsOn := runs.handsOn }
  settled := InStep.settled
  bind := InStep.bind
  lift := InStep.lift
  stall :=
    { follows := .stall
      handsOn := fun _ _ _ _ _ => .of_stalled rfl (.of_record rfl) }
  within := InStep.within
  newFunction cells :=
    { follows := .newFunction cells
      handsOn := fun _ _ _ _ _ => .of_ok rfl (.of_record rfl) }
  enters runs _ := runs.enters
  keys each :=
    { follows := .keys 0 (each.imp fun _ _ same => same.follows)
      handsOn := fun before further facts like kept =>
        (InStep.keysHandOn 0 each before further facts like kept).handsOn }
  yields related _ := .yields related
  attempt _ := InStep.attempt

end Uncaught

/-- What a computation that the host starts does with the faults that
are raised in it. -/
structure Propagates {α : Type} (run : BodyM α) (start : State) : Prop where
  /-- A fault that is raised comes out as it is, but for one wrap for every key
  on its way, and nothing but the ends of the bodies on its way follows. -/
  raised {chain : List FaultLink} {cause : Failure} {place : State} :
    Raises run ⟨start, ∅, .empty⟩ chain cause place ->
      BodyM.start run start = .error (.fault (carry chain cause))
        (place.unwound chain cause)
  /-- A fault that comes out is raised somewhere, and no body is left with
  a fault before. -/
  fault {fault : Failure} {after : State} :
    BodyM.start run start = .error (.fault fault) after ->
      ∃ chain cause place, Raises run ⟨start, ∅, .empty⟩ chain cause place ∧
        cause.isWrapped = false ∧ fault = carry chain cause ∧
          after = place.unwound chain cause ∧ start.Faultless place
  /-- No body is left with a fault when none comes out. -/
  ok {result : α × YieldBuffer} {after : State} :
    BodyM.start run start = .ok result after -> start.Faultless after
  stalled {after : State} :
    BodyM.start run start = .error .stalled after -> start.Faultless after

/-- A computation that hands on its faults does so when the host starts it. -/
theorem HandsOn.propagates
    {α : Type}
    {run : BodyM α}
    {start : State}
    (hands : HandsOn run ⟨start, ∅, .empty⟩) :
    Propagates run start := by
  have raised {chain : List FaultLink} {cause : Failure} {place : State}
      (raises : Raises run ⟨start, ∅, .empty⟩ chain cause place) :
      BodyM.start run start =
        .error (.fault (carry chain cause)) (place.unwound chain cause) := by
    obtain ⟨after, ended, same⟩ := raises.ends
    rw [BodyM.start_of_error ended]
    exact congrArg (EStateM.Result.error _) same
  refine ⟨raised, fun {fault after} final => ?_, fun final =>
    ?_, fun final => ?_⟩
  · cases ended : run ⟨start, ∅, .empty⟩ with
    | ok result after =>
        exact nomatch (BodyM.start_of_ok ended).symm.trans final
    | error interruption last =>
        rw [BodyM.start_of_error ended] at final
        cases final
        obtain ⟨chain, cause, place, raises, faultless⟩ := hands.fault ended
        have same := (BodyM.start_of_error ended).symm.trans (raised raises)
        simp only [EStateM.Result.error.injEq, Interruption.fault.injEq] at same
        exact ⟨chain, cause, place, raises, raises.unwrapped, same.1,
          same.2, faultless⟩
  · cases ended : run ⟨start, ∅, .empty⟩ with
    | error interruption after =>
        exact nomatch (BodyM.start_of_error ended).symm.trans final
    | ok result after =>
        rw [BodyM.start_of_ok ended] at final
        cases final
        exact hands.ok ended
  · cases ended : run ⟨start, ∅, .empty⟩ with
    | ok result after =>
        exact nomatch (BodyM.start_of_ok ended).symm.trans final
    | error interruption after =>
        rw [BodyM.start_of_error ended] at final
        cases final
        exact hands.stalled ended

/-- How a step whose functions run within a bound propagates faults. -/
structure Step.Propagates (bound : Nat) (step : Step)
    (start : State) : Prop where
  acts : ClassLowering.Propagates (step.act (callWithin bound)) start
  /-- Of the innermost calls, those that end with a fault may as well end with
  any other one, and in any other state. That is then all that is different
  where the step ends. -/
  replaced {inner outer : Nat} {other : Caller} :
    inner + outer = bound -> ReplacesFaults (callWithin inner) other ->
      EndsByCall (callWithin inner) other
        (BodyM.start (step.act (callWithin bound)) start)
        (BodyM.start (step.act (callOver other outer)) start)

/-- A step in which no body catches a fault propagates all of them. -/
theorem Step.propagates_of_uncaught
    (bound : Nat)
    (step : Step)
    (state : State)
    (uncaught : ∀ entry ∈ (step.run (callWithin bound) state).1.log,
      entry.tellsFault = false) :
    step.Propagates bound { state with session :=
      { state.session with log := [] } } := by
  have hosts (bound : Nat) :
      Uncaught.coupling.Hosts (callWithin bound) (callWithin bound) :=
    hosts_callWithin (fun _ => trivial) bound
  have acts : Uncaught.coupling.InStep True (step.act (callWithin bound))
      (step.act (callWithin bound)) _ :=
    inStep_act (hosts bound) (.refl step)
  constructor
  · refine (acts.handsOn ⟨_, ∅, .empty⟩ ⟨_, ∅, .empty⟩ trivial
      ⟨.identical _, rfl, rfl, nofun, nofun⟩ ?_).propagates
    rintro ⟨entry, logged, tells⟩
    refine Bool.false_ne_true
      ((uncaught entry (Step.mem_log ?_)).symm.trans tells)
    unfold BodyM.start
    generalize step.act (callWithin bound) ⟨_, ∅, .empty⟩ = ended at logged
    cases ended <;> exact logged
  · intro inner outer other sum replaces
    obtain rfl := sum
    rw [← callOver_callWithin] at uncaught ⊢
    have keeps (holding : Holding) (invocation : Invocation) (before : State) :
        before.Keeps
          (Stage.last (callWithin inner holding invocation before)) :=
      (((hosts inner).serves holding).calls invocation).follows.keeps before
    exact step.endsByCall keeps replaces outer state uncaught

/-- A class whose second member by position, which is written first, has a key
that cannot be evaluated: an initializer that runs for it throws. -/
def throwingStep : Step :=
  let inner : ClassForm Expr := {
    blueprint := {
      name := some "Inner"
      scope := none
      body := {
        members := [⟨.field, .literal (.text "own"), false,
          some (.apply .throw [.literal (.string "stop")]), [], 0⟩]
        constructor := none } }
    binding := .expression
    limits := .standard }
  let outer : ClassForm Expr := {
    blueprint := {
      name := some "Outer"
      scope := none
      body := {
        members := [
          ⟨.method, .computed (.apply (.host .construct) [.klass inner]), false,
            none, [], 1⟩,
          ⟨.method, .literal (.text "first"), false, none, [], 0⟩]
        constructor := none } }
    binding := .expression
    limits := .standard }
  .evaluate (.klass outer) (some "made")

/-- What the initializer throws comes out of two bodies and is wrapped once. -/
theorem Step.propagates_of_uncaught_throwingStep :
    let start : State :=
      { Program.initialState with session :=
        { Program.initialState.session with log := [] } }
    (∀ entry ∈ (throwingStep.run (callWithin 4) Program.initialState).1.log,
        entry.tellsFault = false) ∧
      throwingStep.Propagates 4 start ∧
      RunM.interruption? (BodyM.start (throwingStep.act (callWithin 4))) start =
        some (.fault (.keyEvaluation 1 (.thrown (.string "stop")))) := by
  have uncaught :
      ∀ entry ∈ (throwingStep.run (callWithin 4) Program.initialState).1.log,
      entry.tellsFault = false := by decide +kernel
  exact ⟨uncaught, Step.propagates_of_uncaught 4 throwingStep
    Program.initialState uncaught, by decide +kernel⟩

end ClassLowering
