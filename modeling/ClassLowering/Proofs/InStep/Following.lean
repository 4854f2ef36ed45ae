import ClassLowering.Proofs.Elaboration.Keys
import ClassLowering.Proofs.InStep.Coupling
import ClassLowering.Proofs.Runs.Functions

/-!
# Runs that follow each other

Of two runs in step, the second follows the first one as long as nothing is
lost. What is lost when a run comes to a limit that the other one does not have,
or when more was found out about a state than holds of it, stays lost: whatever
the run does, it keeps the cells of the heap and the log.
-/

namespace ClassLowering

/-- A later state has the heap of an earlier one, extended, and its log
entries. -/
structure State.Keeps (before after : State) : Prop where
  heap : before.heap.Extends after.heap
  log : before.session.log <:+ after.session.log

namespace State.Keeps

variable {first second third : State}

/-- A state keeps what it has. -/
theorem refl
    (state : State) :
    state.Keeps state := ⟨.refl state.heap, List.suffix_rfl⟩

/-- What is kept for some time and then kept further is kept. -/
theorem trans
    (earlier : first.Keeps second)
    (later : second.Keeps third) :
    first.Keeps third :=
  ⟨earlier.heap.trans later.heap, earlier.log.trans later.log⟩

/-- Quiet changes keep everything. -/
theorem of_quiet (quiet : first.Quiet second) : first.Keeps second :=
  ⟨quiet.heap.extended, quiet.log⟩

/-- Leaving a body changes neither the heap nor the session. -/
theorem leaving (state : State) (interruption : Option Interruption) :
    state.Keeps (state.leaving interruption) :=
  ⟨.refl state.heap, List.suffix_rfl⟩

end State.Keeps

/-- States that are alike stay so when an event is recorded in both. -/
theorem State.Like.record_cons
    {likeness : Likeness}
    {state other : State}
    (like : state.Like likeness other)
    (event : BodyEvent) :
    State.Like likeness { state with record := event :: state.record }
      { other with record := event :: other.record } :=
  ⟨like.heap, like.session, congrArg (event :: ·) like.record, like.stored⟩

/-- A body is recorded when it is entered and when it is left. -/
theorem runInFrame_apply
    (call : Caller)
    (context : Context)
    (entry : BodyEntry)
    (body : Expr)
    (before : State) :
    runInFrame call context entry body before =
      match BodyM.start (evaluate call context body)
        (before.entering entry) with
      | .ok result after => .ok result (after.leaving none)
      | .error interruption after =>
          .error interruption (after.leaving (some interruption)) := by
  cases ended :
    BodyM.start (evaluate call context body) (before.entering entry) with
  | ok result after => exact runInFrame_of_ok ended
  | error interruption after => exact runInFrame_of_error ended

/-- How a computation was interrupted and where, if it was. -/
def Stage.interrupted? {σ α : Type} [Stage σ] :
    EStateM.Result Interruption σ α -> Option (Interruption × State)
  | .ok _ _ => none
  | .error interruption after => some (interruption, state after)

/-- What is known of the first of two runs, and what makes the second one no
longer follow it. -/
structure Following (likeness : Likeness) where
  /-- What is known of the states in which the first run starts. -/
  Known : State -> Prop
  /-- From where to where the first run may lead. -/
  Leads : State -> State -> Prop
  /-- Whether nothing more is known in a state. -/
  Lost : State -> Prop
  /-- What is known when a fault ends the first run, and something else may end
  the second one. -/
  Cuts : Failure -> State -> Option (Interruption × State) -> Prop
  known {before after : State} :
      Leads before after -> Known before -> Known after
  trans {first second third : State} :
      Leads first second -> Leads second third -> Leads first third
  unrecorded {before after : State} :
    before.Keeps after -> after.record = before.record -> Leads before after
  leaves (state : State) (interruption : Option Interruption) :
    Leads state (state.leaving interruption)
  enters (state : State) (entry : BodyEntry) :
    likeness.visible (.function entry.function) ->
      Leads state (state.entering entry)
  /-- What is lost stays lost. -/
  keeps {before after : State} : before.Keeps after -> Lost before -> Lost after
  /-- Unless something is lost, a new function is either withheld or visible. -/
  makes (state : State) (cell : FunctionCell) :
    Lost { state with heap := (state.heap.newFunction cell).2 } ∨
      (cell.kind.isWithheld = false ->
          likeness.visible (.function state.heap.functions.next)) ∧
        (cell.kind = .constructor ->
          likeness.constructs state.heap.functions.next)
  /-- Other limits are greater, and the first run is then followed no longer
  than to its own. -/
  limits {limits other : Limits} : likeness.limits limits other ->
    limits = other ∨
      (limits.callDepth ≤ other.callDepth ∧
        limits.generatorYields ≤ other.generatorYields) ∧
        ∀ state ending, Cuts (.callDepthExceeded limits.callDepth)
          state ending ∧
          Cuts (.generatorOverflow limits.generatorYields) state ending
  /-- The second run may go on. -/
  goesOn {cause : Failure} {state : State}
      (ending : Option (Interruption × State)) :
    Cuts cause state none -> Cuts cause state ending
  wraps {cause : Failure} {state : State}
      {ending : Option (Interruption × State)} (index : Nat) :
    Cuts cause state ending ->
      Cuts (.keyEvaluation index cause) state
        (ending.map fun ended => (ended.1.atKey index, ended.2))
  left {cause : Failure} {state : State}
      {ending : Option (Interruption × State)}
    (entry : BodyEntry) :
    Cuts cause state ending ->
      Cuts cause (state.leaving (some (.fault cause)))
        (ending.map fun ended => (ended.1, ended.2.leaving (some ended.1)))
  /-- A fault that is caught is lost in the log. -/
  caught {cause : Failure} {state : State}
      {ending : Option (Interruption × State)} :
    Cuts cause state ending ->
      ∃ shown after, showFault cause state = .ok shown after ∧
        Lost { after with
          session :=
            { after.session with log := .fault shown :: after.session.log } }

namespace Following

variable {likeness : Likeness} (following : Following likeness)

section Stages

variable {σ α β : Type} [Stage σ]

/-- How the second of two runs follows the first one. -/
inductive Ends (claim : α -> α -> Prop) (before : σ) :
    EStateM.Result Interruption σ α -> EStateM.Result Interruption σ α -> Prop
  | ok {result further : α} {after later : σ} :
      following.Leads (Stage.state before) (Stage.state after) ->
        Stage.Like likeness after later -> claim result further ->
          Ends claim before (.ok result after) (.ok further later)
  | interrupted {interruption : Interruption} {after later : σ} :
      following.Leads (Stage.state before) (Stage.state after) ->
        Stage.Like likeness after later ->
          Ends claim before (.error interruption after)
            (.error interruption later)
  | lost {ended other : EStateM.Result Interruption σ α} :
      following.Lost (Stage.last ended) -> Ends claim before ended other
  | cut {cause : Failure} {after : σ}
      {other : EStateM.Result Interruption σ α} :
      following.Cuts cause (Stage.state after) (Stage.interrupted? other) ->
        Ends claim before (.error (.fault cause) after) other

/-- The second run follows the first one, which keeps what there is. -/
structure InStep (given : Prop) (run other : EStateM Interruption σ α)
    (claim : α -> α -> Prop) :
    Prop where
  keeps (before : σ) : (Stage.state before).Keeps (Stage.last (run before))
  follows (before further : σ) : given -> Stage.Like likeness before further ->
    following.Known (Stage.state before) ->
      following.Ends claim before (run before) (other further)

variable {following}

/-- A computation that changes the state quietly is followed. -/
theorem InStep.settled
    {given : Prop}
    {run other : EStateM Interruption σ α}
    {claim : α -> α -> Prop}
    (settles : Settles likeness given run other claim) :
    following.InStep given run other claim where
  keeps before := .of_quiet (settles.quiet before)
  follows before further facts like _ := by
    have quiet := settles.quiet before
    have alike := settles.alike before further facts like
    generalize run before = ended at quiet alike
    generalize other further = last at alike
    cases alike with
    | ok claimed like =>
        exact .ok (following.unrecorded (.of_quiet quiet) quiet.record)
          like claimed
    | fault unwrapped =>
        exact .interrupted (following.unrecorded (.refl _) rfl) like

/-- More may be given, and less claimed. -/
theorem InStep.imp
    {given known : Prop}
    {run other : EStateM Interruption σ α}
    {claim further : α -> α -> Prop}
    (runs : following.InStep given run other claim)
    (implies : known -> given)
    (claims : known -> ∀ result last, claim result last ->
      further result last) :
    following.InStep known run other further where
  keeps := runs.keeps
  follows before start facts like known := by
    have ends := runs.follows before start (implies facts) like known
    generalize run before = ended at ends ⊢
    generalize other start = ending at ends ⊢
    cases ends with
    | ok leads like claimed => exact .ok leads like (claims facts _ _ claimed)
    | interrupted leads like => exact .interrupted leads like
    | lost lost => exact .lost lost
    | cut cuts => exact .cut cuts

/-- The second run may be described otherwise. -/
theorem InStep.replace
    {given : Prop}
    {run other last : EStateM Interruption σ α}
    {claim : α -> α -> Prop}
    (runs : following.InStep given run other claim)
    (same : given -> last = other) :
    following.InStep given run last claim where
  keeps := runs.keeps
  follows before start facts like known :=
    same facts ▸ runs.follows before start facts like known

/-- What leads to where a run is followed from leads to where it ends. -/
theorem Ends.after
    {claim : α -> α -> Prop}
    {before middle : σ}
    {ended other : EStateM.Result Interruption σ α}
    (ends : following.Ends claim middle ended other)
    (leads : following.Leads (Stage.state before) (Stage.state middle)) :
    following.Ends claim before ended other := by
  cases ends with
  | ok leadsOn like claimed =>
      exact .ok (following.trans leads leadsOn) like claimed
  | interrupted leadsOn like =>
      exact .interrupted (following.trans leads leadsOn) like
  | lost lost => exact .lost lost
  | cut cuts => exact .cut cuts

/-- What follows the end of a run is followed from there. -/
theorem Ends.bind
    {origin before start : σ}
    {run other : EStateM Interruption σ α}
    {next last : α -> EStateM Interruption σ β}
    {claim : α -> α -> Prop}
    {further : β -> β -> Prop}
    (ends : following.Ends claim origin (run before) (other start))
    (known : following.Known (Stage.state origin))
    (rest : ∀ result final,
      following.InStep (claim result final) (next result)
        (last final) further) :
    following.Ends further origin ((run >>= next) before)
      ((other >>= last) start) := by
  simp only [EStateM.bind, Bind.bind]
  generalize run before = ended at ends
  generalize other start = ending at ends
  cases ends with
  | @ok result final after later leads like claimed =>
      exact ((rest result final).follows after later claimed like
        (following.known leads known)).after leads
  | interrupted leads like => exact .interrupted leads like
  | lost lost =>
      refine .lost ?_
      cases ended with
      | ok result after =>
          exact following.keeps ((rest result result).keeps after) lost
      | error interruption after => exact lost
  | cut cuts =>
      cases ending with
      | ok result after => exact .cut (following.goesOn _ cuts)
      | error interruption after => exact .cut cuts

/-- What follows a computation is followed from where it ends. -/
theorem InStep.bind
    {given : Prop}
    {run other : EStateM Interruption σ α}
    {next last : α -> EStateM Interruption σ β}
    {claim : α -> α -> Prop}
    {further : β -> β -> Prop}
    (first : following.InStep given run other claim)
    (rest : ∀ result final,
      following.InStep (given ∧ claim result final) (next result)
        (last final) further) :
    following.InStep given (run >>= next) (other >>= last) further where
  keeps before := by
    have earlier := first.keeps before
    simp only [EStateM.bind, Bind.bind]
    generalize run before = ended at earlier
    cases ended with
    | ok result after => exact earlier.trans ((rest result result).keeps after)
    | error interruption after => exact earlier
  follows before start facts like known :=
    (first.follows before start facts like known).bind known fun result final =>
      (rest result final).imp (fun claimed => ⟨facts, claimed⟩)
        fun _ _ _ claimed => claimed

end Stages

section Rules

variable {following} {α : Type} {given : Prop} {claim : α -> α -> Prop}

/-- A run of the engine is followed inside a body. -/
theorem InStep.lift
    {run other : RunM α}
    (runs : following.InStep given run other claim) :
    following.InStep given (BodyM.lift run) (BodyM.lift other) claim where
  keeps before := by
    have keeps := runs.keeps before.state
    cases ended : run before.state with
    | ok result after =>
        rw [ended] at keeps
        rw [BodyM.lift_of_ok ended]
        exact keeps
    | error interruption after =>
        rw [ended] at keeps
        rw [BodyM.lift_of_error ended]
        exact keeps
  follows before further facts like known := by
    obtain ⟨state, locals, yields⟩ := before
    obtain ⟨other', _, _⟩ := further
    obtain ⟨like, rfl, rfl, seenLocals, seenYields⟩ := like
    have ends := runs.follows state other' facts like known
    unfold BodyM.lift
    dsimp only at ends ⊢
    generalize run state = ended at ends
    generalize other other' = ending at ends
    cases ends with
    | ok leads like claimed =>
        exact .ok leads ⟨like, rfl, rfl, seenLocals, seenYields⟩ claimed
    | interrupted leads like =>
        exact .interrupted leads ⟨like, rfl, rfl, seenLocals, seenYields⟩
    | lost lost =>
        refine .lost ?_
        cases ended <;> exact lost
    | cut cuts => cases ending <;> exact .cut cuts

/-- A run that stalls is followed by one that stalls. -/
theorem InStep.stall :
    following.InStep given (throw .stalled : RunM α)
      (throw .stalled) claim where
  keeps before := .refl before
  follows _ _ _ like _ := .interrupted (following.unrecorded (.refl _) rfl) like

/-- A limit cuts both runs short, or only the first one, or neither. -/
theorem InStep.within
    {run other : RunM α}
    {limits further : Limits}
    (depth : Depth)
    (related : given -> likeness.limits limits further)
    (runs : following.InStep given run other claim) :
    following.InStep given
      (if limits.callDepth < depth
        then RunM.fail (.callDepthExceeded limits.callDepth) else run)
      (if further.callDepth < depth
        then RunM.fail (.callDepthExceeded further.callDepth)
        else other) claim where
  keeps before := by
    split
    · exact .refl before
    · exact runs.keeps before
  follows before start facts like known := by
    rcases following.limits (related facts) with rfl | ⟨⟨deeper, -⟩, cuts⟩
    · split
      · exact .interrupted (following.unrecorded (.refl _) rfl) like
      · exact runs.follows before start facts like known
    · split
      · exact .cut (cuts _ _).1
      next shallow =>
        rw [if_neg fun deep => shallow (UInt32.lt_of_le_of_lt deeper deep)]
        exact runs.follows before start facts like known

/-- A new function has the same reference in both runs. -/
theorem InStep.newFunction
    {cell other : FunctionCell}
    (cells : given -> cell.Like likeness other) :
    following.InStep given (RunM.allocate (·.newFunction cell))
      (RunM.allocate (·.newFunction other))
      (Agree fun function =>
        (cell.kind.isWithheld = false ->
          likeness.visible (.function function)) ∧
          (cell.kind = .constructor -> likeness.constructs function)) where
  keeps before := ⟨before.heap.extends_newFunction cell, List.suffix_rfl⟩
  follows before start facts like _ := by
    obtain ⟨same, heaps⟩ := like.heap.newFunction (cells facts)
    rcases following.makes before cell with lost | seen
    · exact .lost lost
    · refine .ok (following.unrecorded ?_ rfl)
        ⟨heaps, like.session, like.record, like.stored⟩ ⟨same, seen⟩
      exact ⟨before.heap.extends_newFunction cell, List.suffix_rfl⟩

/-- A fault is wrapped alike in both runs. -/
theorem InStep.wrap
    {run other : RunM α}
    (index : Nat)
    (runs : following.InStep given run other claim) :
    following.InStep given (RunM.mapFault (.keyEvaluation index) run)
      (RunM.mapFault (.keyEvaluation index) other) claim where
  keeps before := by
    have keeps := runs.keeps before
    unfold RunM.mapFault
    generalize run before = ended at keeps
    rcases ended with ⟨result, after⟩ | ⟨_ | _, after⟩ <;> exact keeps
  follows before start facts like known := by
    have ends := runs.follows before start facts like known
    unfold RunM.mapFault
    generalize run before = ended at ends
    generalize other start = ending at ends
    cases ends with
    | ok leads like claimed => exact .ok leads like claimed
    | @interrupted interruption _ _ leads like =>
        cases interruption with
        | fault cause => exact .interrupted leads like
        | stalled => exact .interrupted leads like
    | lost lost =>
        refine .lost ?_
        rcases ended with ⟨result, after⟩ | ⟨_ | _, after⟩ <;> exact lost
    | cut cuts =>
        have wrapped := following.wraps index cuts
        rcases ending with ⟨result, after⟩ | ⟨_ | _, after⟩ <;>
          exact .cut wrapped

/-- The keys of a class are evaluated in step. -/
theorem InStep.keys
    {call other : Invoker}
    {scope : ScopeRef}
    {limits further : Limits}
    {written last : List (MemberKey PropertyKey Expr)}
    (index : Nat)
    (each : List.Forall₂ (fun key final =>
      following.InStep given (evaluateKey call scope limits key)
        (evaluateKey other scope further final)
        (Agree fun _ => True)) written last) :
    following.InStep given (evaluateKeys call scope limits index written)
      (evaluateKeys other scope further index last) (Agree fun _ => True) := by
  induction each generalizing index with
  | nil =>
      exact .settled
        { quiet := fun _ => .refl _
          alike := fun _ _ _ like => .ok ⟨rfl, trivial⟩ like }
  | cons first _ hypothesis =>
      refine .bind (first.wrap index) fun key final => ?_
      refine .bind ((hypothesis (index + 1)).imp And.left
        fun _ _ _ claimed => claimed) fun keys finals => .settled ?_
      exact
        { quiet := fun _ => .refl _
          alike := fun _ _ facts like =>
            .ok ⟨congrArg₂ _ facts.1.2.1 facts.2.1, trivial⟩ like }

/-- A body that starts from nothing is followed by one that does. -/
theorem InStep.start
    {run other : BodyM α}
    (runs : following.InStep given run other claim) :
    following.InStep given (BodyM.start run) (BodyM.start other)
        fun result last =>
      claim result.1 last.1 ∧ last.2 = result.2 ∧
        likeness.AllVisible result.2.values where
  keeps before := by
    have keeps := runs.keeps ⟨before, ∅, .empty⟩
    unfold BodyM.start
    generalize run ⟨before, ∅, .empty⟩ = ended at keeps
    cases ended <;> exact keeps
  follows before further facts like known := by
    have ends := runs.follows ⟨before, ∅, .empty⟩ ⟨further, ∅, .empty⟩ facts
      ⟨like, rfl, rfl, nofun, nofun⟩ known
    unfold BodyM.start
    generalize run ⟨before, ∅, .empty⟩ = ended at ends
    generalize other ⟨further, ∅, .empty⟩ = ending at ends
    cases ends with
    | ok leads like claimed =>
        obtain ⟨states, -, yields, -, seen⟩ := like
        refine .ok leads states ⟨claimed, yields, ?_⟩
        exact fun value present => seen value (List.mem_reverse.1 present)
    | interrupted leads like =>
        exact .interrupted leads (BodyState.Like.state like)
    | lost lost =>
        refine .lost ?_
        cases ended <;> exact lost
    | cut cuts => cases ending <;> exact .cut cuts

/-- A body that is entered is followed, if what it was entered for leads
there. -/
theorem InStep.enters_from
    {call other : Caller}
    {context last : Context}
    {entry : BodyEntry}
    {body further : Expr}
    {known : Value -> Prop}
    {origin : State}
    (runs : following.InStep given (evaluate call context body)
      (evaluate other last further) (Agree known))
    (before start : State)
    (leads : following.Leads origin (before.entering entry))
    (knows : following.Known origin)
    (facts : given)
    (like : before.Like likeness start) :
    following.Ends (Agree fun result =>
      known result.1 ∧ likeness.AllVisible result.2.values)
      origin (runInFrame call context entry body before)
      (runInFrame other last entry further start) := by
  rw [runInFrame_apply, runInFrame_apply]
  have ends := runs.start.follows (before.entering entry)
    (start.entering entry) facts
    (like.record_cons (.entered entry)) (following.known leads knows)
  generalize BodyM.start (evaluate call context body) (before.entering entry) =
    ended at ends
  generalize BodyM.start (evaluate other last further) (start.entering entry) =
    ending at ends
  cases ends with
  | ok leadsOn like claimed =>
      refine .ok ?_ (State.Like.record_cons like (.left none))
        ⟨Prod.ext claimed.1.1 claimed.2.1, claimed.1.2, claimed.2.2⟩
      exact following.trans leads
        (following.trans leadsOn (following.leaves _ _))
  | @interrupted interruption _ _ leadsOn like =>
      refine .interrupted ?_
        (State.Like.record_cons like (.left (some interruption)))
      exact following.trans leads
        (following.trans leadsOn (following.leaves _ _))
  | lost lost =>
      refine .lost ?_
      cases ended with
      | ok result after => exact following.keeps (.leaving after none) lost
      | error interruption after =>
          exact following.keeps (.leaving after _) lost
  | cut cuts =>
      have left := following.left entry cuts
      cases ending <;> exact .cut left

/-- A run of a body keeps what there is. -/
theorem InStep.keeps_runInFrame
    {call other : Caller}
    {context last : Context}
    {body further : Expr}
    {known : Value -> Prop}
    (runs : following.InStep given (evaluate call context body)
      (evaluate other last further) (Agree known))
    (entry : BodyEntry)
    (before : State) :
    before.Keeps (Stage.last (runInFrame call context entry body before)) := by
  rw [runInFrame_apply]
  have keeps := runs.start.keeps (before.entering entry)
  generalize BodyM.start (evaluate call context body) (before.entering entry) =
    ended at keeps
  cases ended <;> exact ⟨keeps.heap, keeps.log⟩

/-- A yield is collected in both runs, or neither, or only the first run is cut
short. -/
theorem InStep.yields
    {frame : Frame}
    {limit : Option Nat}
    {value : Value}
    (related : given -> likeness.YieldLimits frame.yieldLimit limit)
    (seen : given -> likeness.visible value) :
    following.InStep given (yieldValue frame value)
      (yieldValue { frame with yieldLimit := limit } value)
      (Agree fun _ => True) where
  keeps before := by
    cases limited : frame.yieldLimit with
    | none =>
        rw [yieldValue_of_none value before limited]
        exact .refl _
    | some limit =>
        rw [yieldValue_of_some value before limited]
        split <;> exact .refl _
  follows before start facts like _ := by
    have both := related facts
    have names := like.state.heap.function frame.callee |>.name
    generalize own : frame.yieldLimit = first at both
    cases both with
    | none =>
        rw [yieldValue_of_none value before own,
          yieldValue_of_none value start rfl, names]
        exact .interrupted (following.unrecorded (.refl _) rfl) like
    | @some limits other limited =>
        rw [yieldValue_of_some value before own,
          yieldValue_of_some value start rfl]
        have counts : start.yields.count = before.yields.count := by
          rw [BodyState.Like.yields like]
        have pushed : following.Ends (Agree fun _ => True) before
            (.ok () ⟨before.state, before.locals, before.yields.push value⟩)
            (.ok () ⟨start.state, start.locals, start.yields.push value⟩) := by
          obtain ⟨states, locals, yields, seenLocals, seenYields⟩ := like
          refine .ok (following.unrecorded (.refl _) rfl)
            ⟨states, locals, ?_, seenLocals, ?_⟩ ⟨rfl, trivial⟩
          · rw [yields]
          · exact List.forall_mem_cons.2 ⟨seen facts, seenYields⟩
        rcases following.limits limited with rfl | ⟨⟨-, more⟩, cuts⟩
        · rw [counts]
          split
          · exact .interrupted (following.unrecorded (.refl _) rfl) like
          · exact pushed
        · rw [counts]
          split
          · exact .cut (cuts _ _).2
          next fewer =>
            rw [if_neg fun reached => fewer (more.trans reached)]
            exact pushed

/-- What is lost in the log when a fault is handled stays lost in the
handler. -/
theorem InStep.lost_of_handled
    {handler last : BodyM α}
    {cause : Failure}
    {before : BodyState}
    {ending : Option (Interruption × State)}
    (handles : following.InStep given handler last claim)
    (cuts : following.Cuts cause before.state ending) :
    following.Lost (Stage.last ((do
      let shown ← showFault cause
      RunM.log (.fault shown)
      handler : BodyM α) before)) := by
  obtain ⟨shown, after, shows, lost⟩ := following.caught cuts
  have handled : (do
      let shown ← showFault cause
      RunM.log (.fault shown)
      handler : BodyM α) before = handler _ :=
    (BodyM.bind_of_ok (BodyM.lift_of_ok shows)).trans rfl
  rw [handled]
  exact following.keeps (handles.keeps _) lost

/-- A fault is handled in both runs, unless something is lost in the log. -/
theorem InStep.attempt
    {run other : BodyM α}
    {handler last : Failure -> BodyM α}
    (runs : following.InStep given run other claim)
    (shows : ∀ cause, following.InStep given (showFault cause) (showFault cause)
      (Agree fun _ => True))
    (handles : ∀ cause, following.InStep given (handler cause)
      (last cause) claim) :
    following.InStep given
      (BodyM.catchFault run fun cause => do
        let shown ← showFault cause
        RunM.log (.fault shown)
        handler cause)
      (BodyM.catchFault other fun cause => do
        let shown ← showFault cause
        RunM.log (.fault shown)
        last cause) claim := by
  have logged (cause : Failure) : following.InStep given
      (do
        let shown ← showFault cause
        RunM.log (.fault shown)
        handler cause : BodyM α)
      (do
        let shown ← showFault cause
        RunM.log (.fault shown)
        last cause : BodyM α) claim := by
    refine .bind (.lift (shows cause)) fun shown final =>
      .replace ?_ fun facts => by rw [facts.2.1]
    have logs : Settles likeness (given ∧ Agree (fun _ => True) shown final)
        (RunM.log (.fault shown)) (RunM.log (.fault shown)) (fun _ _ => True) :=
      { quiet := fun _ => .of_session (List.suffix_cons _ _)
        alike := fun before start _ like => .ok trivial
          ⟨like.heap, congrArg (fun session : Session =>
            { session with log := .fault shown :: session.log }) like.session,
              like.record,
            like.stored⟩ }
    exact .bind (.lift (.settled logs)) fun _ _ =>
      (handles cause).imp (fun facts => facts.1.1) fun _ _ _ claimed => claimed
  constructor
  · intro before
    have keeps := runs.keeps before
    unfold BodyM.catchFault
    generalize run before = ended at keeps
    rcases ended with ⟨result, after⟩ | ⟨cause | _, after⟩
    · exact keeps
    · exact keeps.trans ((logged cause).keeps after)
    · exact keeps
  · intro before start facts like known
    have ends := runs.follows before start facts like known
    unfold BodyM.catchFault
    generalize run before = ended at ends
    generalize other start = ending at ends
    cases ends with
    | ok leads like claimed => exact .ok leads like claimed
    | @interrupted interruption after later leads like =>
        cases interruption with
        | stalled => exact .interrupted leads like
        | fault cause =>
            exact ((logged cause).follows after later facts like
              (following.known leads known)).after leads
    | lost lost =>
        refine .lost ?_
        rcases ended with ⟨result, after⟩ | ⟨cause | _, after⟩
        · exact lost
        · exact following.keeps ((logged cause).keeps after) lost
        · exact lost
    | cut cuts => exact .lost ((handles _).lost_of_handled cuts)

end Rules

/-- Runs that follow each other are in step. -/
def coupling : Coupling likeness where
  InStep := following.InStep
  imp := InStep.imp
  replace := InStep.replace
  settled := InStep.settled
  bind := InStep.bind
  lift := InStep.lift
  stall := InStep.stall
  within := InStep.within
  newFunction := InStep.newFunction
  enters runs seen :=
    { keeps := runs.keeps_runInFrame _
      follows := fun before start facts like known =>
        runs.enters_from before start
          (following.enters before _ (seen facts)) known facts like }
  keys := InStep.keys 0
  yields := InStep.yields
  attempt _ := InStep.attempt

end Following
end ClassLowering
