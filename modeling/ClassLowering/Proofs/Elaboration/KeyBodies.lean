import ClassLowering.Proofs.Elaboration.KeysOnce
import ClassLowering.Proofs.Objects.WithheldBodies
import ClassLowering.Proofs.Runs.KeyRequests

/-!
# Bodies of computed keys

The function of a computed key is made for the one elaboration that asks for its
body, and it is handed out to nobody. So the body runs once, while the class is
elaborated, unless it asks for the function that runs and gives it away: then
anybody who gets hold of it can run the body again.

What is said here is about the record of a whole program, which holds every body
that was entered.
-/

namespace ClassLowering

/-- The entry that an event is, if the body of a function is entered. -/
def BodyEvent.entryOf? (function : FunctionRef) : BodyEvent -> Option BodyEntry
  | .entered entry => if entry.function = function then some entry else none
  | .left _ => none

/-- The entries of a function, newest first. -/
def State.entriesOf (state : State) (function : FunctionRef) : List BodyEntry :=
  state.record.filterMap (BodyEvent.entryOf? function)

/-- Only an entry of the function is one. -/
theorem BodyEvent.entryOf?_eq_some_iff
    {function : FunctionRef}
    {event : BodyEvent}
    {entry : BodyEntry} :
    event.entryOf? function = some entry ↔ event = .entered entry ∧
      entry.function = function := by
  cases event with
  | left => simp [entryOf?]
  | entered other =>
      rw [entryOf?, Option.ite_none_right_eq_some, Option.some.injEq,
        BodyEvent.entered.injEq]
      constructor
      · rintro ⟨own, rfl⟩
        exact ⟨rfl, own⟩
      · rintro ⟨rfl, own⟩
        exact ⟨own, rfl⟩

/-- Where no entry of a function is before another, there is at most one. -/
theorem length_entriesOf_le_one
    {state : State}
    {function : FunctionRef}
    (apart : ∀ {entry other : BodyEntry} {older past : List BodyEvent},
      .entered entry :: older <:+ state.record ->
        .entered other :: past <:+ older ->
        entry.function = function -> other.function ≠ function) :
    (state.entriesOf function).length ≤ 1 := by
  unfold State.entriesOf
  generalize state.record = record at apart
  induction record with
  | nil => exact Nat.zero_le 1
  | cons event older hypothesis =>
      cases isEntry : event.entryOf? function with
      | none =>
          rw [List.filterMap_cons_none isEntry]
          exact hypothesis fun recorded =>
            apart (recorded.trans (List.suffix_cons _ _))
      | some entry =>
          obtain ⟨rfl, own⟩ := BodyEvent.entryOf?_eq_some_iff.1 isEntry
          have none : older.filterMap (BodyEvent.entryOf? function) = [] := by
            rw [List.filterMap_eq_nil_iff]
            intro past present
            rw [Option.eq_none_iff_forall_ne_some]
            intro other isOther
            obtain ⟨rfl, ownOther⟩ := BodyEvent.entryOf?_eq_some_iff.1 isOther
            obtain ⟨newer, past, split⟩ := List.append_of_mem present
            exact apart List.suffix_rfl ⟨newer, split.symm⟩ own ownOther
          rw [List.filterMap_cons_some isEntry, none]
          exact le_refl 1

/--
The body of a computed key runs for the elaboration of its class only: it is
entered at most once, where the elaboration asks for it.
-/
structure State.RunsKeyOnce (last : State) (function : FunctionRef) : Prop where
  /-- The entry is a request of an elaboration, in a state from which the
  heap has grown. -/
  asked {entry : BodyEntry} {older : List BodyEvent} :
    .entered entry :: older <:+ last.record -> entry.function = function ->
      ∃ between, EvaluatesKey entry between ∧ between.record = older ∧
        between.heap.Extends last.heap
  /-- The body is not entered again. -/
  once : (last.entriesOf function).length ≤ 1
  /-- Bodies cannot get hold of the function: nothing in the heap hands it
  out. -/
  shows : last.heap.Shows (· ≠ .function function)
  /-- The host has not stored the function. -/
  stored : ∀ value ∈ last.session.storedValues.values,
    value ≠ .function function

/-- A computed key that does not ask for itself is evaluated once, in
every program. -/
theorem Program.runsKeyOnce
    (bound : Nat)
    (steps : List Step)
    {function : FunctionRef} :
    let last := endState (callWithin bound) initialState steps
    (last.heap.function function).kind = .computedKey ->
      (last.heap.function function).body.avoidsCallee = true ->
        last.RunsKeyOnce function := by
  intro last kind avoids
  obtain ⟨only, like⟩ := entersOnly_last bound steps
  have hidden : last.heap.Hides function := ⟨kind ▸ rfl, avoids⟩
  have seen {value : Value}
      (visible : (Likeness.hiding last.heap).visible value) :
      value ≠ .function function :=
    fun isKey => visible _ isKey hidden
  have since (past : List BodyEvent) : initialState.record <:+ past :=
    List.nil_suffix
  have asked {entry : BodyEntry} {older : List BodyEvent}
      (recorded : .entered entry :: older <:+ last.record)
      (own : entry.function = function) :
      ∃ between, EvaluatesKey entry between ∧ between.record = older ∧
        between.heap.Extends last.heap := by
    obtain ⟨between, enters, atEntry, extended⟩ :=
      only.ends ⟨recorded, since older⟩ (own ▸ hidden)
    rw [own, kind] at enters
    cases enters with
    | key evaluates => exact ⟨between, evaluates, atEntry, extended⟩
  refine ⟨asked, length_entriesOf_le_one ?_, ?_, ?_⟩
  · intro entry other older past recorded earlier own ownOther
    obtain ⟨_, evaluates, -, -⟩ := asked recorded own
    obtain ⟨_, others, -, -⟩ :=
      asked (earlier.trans ((List.suffix_cons _ _).trans recorded)) ownOther
    refine only.apart ⟨recorded, since older⟩ ⟨earlier, since past⟩
      (own ▸ hidden) (ownOther ▸ hidden) ?_
    rw [evaluates.madeFor, others.madeFor, own, ownOther]
  · exact like.heap.shows.imp seen
  · exact fun value present => seen (like.stored value present)

/-- A function that is asked for enters its body once, unless it may not run so
deep. -/
def KeyRequest.Runs (request : KeyRequest) (call : Invoker) : Prop :=
  let invocation := request.invocation
  let limit :=
    (request.state.heap.function invocation.function).limits.callDepth
  if limit < invocation.depth then
    request.answer call = .error (.fault (.callDepthExceeded limit))
      request.state
  else
    invocation.entry.RunsOnce ((call invocation).interruption? request.state)
      request.state ((call invocation).endState request.state)

/-- A request that refers to cells of the heap is answered by one body. -/
theorem KeyRequest.runs
    {request : KeyRequest}
    (bound : Nat)
    (holding : Holding)
    (sound : request.state.Sound)
    (within : request.invocation.Within request.state.heap) :
    request.Runs (callWithin (bound + 1) holding) := by
  have serves (asked : Heap -> BodyEntry -> Prop) (holding : Holding) :
      (Progress.recording asked).Serves (Demand.asking asked)
        (callWithin bound holding) := by
    rw [← callUntil_never]
    exact serves_callUntil _ bound asked holding
  unfold KeyRequest.Runs
  dsimp only
  split
  next deep => exact enterFunction_of_deep (callWithin bound) holding deep
  next shallow =>
    exact (enterFunction_once serves holding
      (UInt32.not_lt.1 shallow) sound within).runsOnce

/-- A moment of a run that ends in another state: what is recorded and
what exists stays. -/
structure State.IsMomentOf (state last : State) : Prop where
  recorded : state.record <:+ last.record
  extended : state.heap.Extends last.heap

/--
How the bodies of computed keys run for an elaboration, and in a program that
ends in a state.
-/
structure RunsKeysOnce (call : Caller) (held : Holding)
    (ordered : List (Member PropertyKey Expr))
    (elaborates : Caller -> RunM ClassRef)
    (before : State) (requests : List KeyRequest)
    (ended : EStateM.Result Interruption State (List PropertyKey))
    (last : State) : Prop extends
    EvaluatesKeysOnce call held ordered elaborates before requests ended where
  /-- Each request is answered by one body. -/
  runs : ∀ request ∈ requests, request.Runs (call held)
  /-- If all keys are evaluated in the course of the program, then the body
  of each, unless it asks for its own function, was entered exactly once when
  the program ends. -/
  onceInAll : ∀ keys after, ended = .ok keys after -> after.IsMomentOf last ->
    ∀ index expr function state, .body index expr function state ∈ requests ->
      expr.avoidsCallee = true -> last.entriesOf function =
        [⟨function, .undefined, [], 1⟩]

/-- A body that runs once is recorded as an entry, and stays so. -/
theorem BodyEntry.RunsOnce.mem_entriesOf
    {entry : BodyEntry}
    {interruption : Option Interruption}
    {before after last : State}
    (runs : entry.RunsOnce interruption before after)
    (recorded : after.record <:+ last.record) :
    entry ∈ last.entriesOf entry.function := by
  obtain ⟨inner, events, -⟩ := runs.recorded
  have present : .entered entry ∈ after.record := by
    rw [events]
    exact List.mem_cons_of_mem _ (List.mem_append_right _ List.mem_cons_self)
  exact List.mem_filterMap.2 ⟨_, recorded.subset present,
    BodyEvent.entryOf?_eq_some_iff.2 ⟨rfl, rfl⟩⟩

/-- A body that is asked for by an elaboration that evaluates all keys is
entered once in all. -/
theorem KeysEvaluate.entriesOf_eq
    {bound inner : Nat}
    {steps : List Step}
    {holding : Holding}
    {scope : ScopeRef}
    {limits : Limits}
    {start : Nat}
    {written : List (MemberKey PropertyKey Expr)}
    {before after : State}
    {requests : List KeyRequest}
    {names : List PropertyKey}
    (evaluates : KeysEvaluate (callWithin (inner + 1) holding) scope limits
      start written before requests (.ok names after))
    (sound : before.Sound)
    (held : before.heap.Holds (.scope scope))
    {index : Nat}
    {expr : Expr}
    {function : FunctionRef}
    {state : State}
    (asked : .body index expr function state ∈ requests)
    (avoids : expr.avoidsCallee = true) :
    let last := Program.endState (callWithin bound) Program.initialState steps
    after.IsMomentOf last -> last.entriesOf function =
      [⟨function, .undefined, [], 1⟩] := by
  intro last moment
  have cell := evaluates.function_eq asked
  rw [← callUntil_never] at evaluates
  obtain ⟨moves, within⟩ := evaluates.asks sound held _ asked
  obtain ⟨value, middle, answered, leads⟩ :=
    evaluates.answered sound held _ asked
  have leadsMoves := Progress.moves _ leads
  obtain ⟨events, recorded, -⟩ := leads.2
  have once := KeyRequest.runs inner holding (moves.sound sound) within
  rw [callUntil_never] at answered
  unfold KeyRequest.Runs at once
  dsimp only at once
  split at once
  · exact nomatch answered.symm.trans once
  · have ended :
        RunM.endState
          (callWithin (inner + 1) holding ⟨function, .undefined, [], 1⟩) state =
        middle := by
      unfold RunM.endState
      rw [show callWithin (inner + 1) holding
        ⟨function, .undefined, [], 1⟩ state = _ from answered]
    have extension : state.heap.Extends last.heap :=
      ((ended ▸ once.moves.path.extension).trans
        leadsMoves.path.extension).trans moment.extended
    have same : last.heap.function function =
        ⟨"", .computedKey, [], expr, some scope, limits⟩ :=
      (extension.function_eq function within.function).trans cell
    have avoidsLast :
        (last.heap.function function).body.avoidsCallee = true := by
      rw [same]
      exact avoids
    have most : (last.entriesOf function).length ≤ 1 :=
      (Program.runsKeyOnce bound steps (congrArg FunctionCell.kind same)
        avoidsLast).once
    have entered : ⟨function, .undefined, [], 1⟩ ∈ last.entriesOf function :=
      once.mem_entriesOf
        (ended ▸ List.IsSuffix.trans ⟨events, recorded.symm⟩ moment.recorded)
    obtain ⟨only, isOnly⟩ := List.length_eq_one_iff.1
      (Nat.le_antisymm most (List.length_pos_of_mem entered))
    rw [isOnly] at entered ⊢
    rw [List.mem_singleton.1 entered]

namespace Program

/--
An elaboration evaluates the computed keys of its members in the stable order of
their positions, each from the state that the one before it left, and stops at
the first failure. The body of a key that does not ask for its own function runs
for this evaluation only, in every program.
-/
theorem evaluatesKeysOnce_of_avoidsCallee
    {draft : ClassDraft}
    {before : State}
    (bound inner : Nat)
    (steps : List Step)
    (holding : Holding)
    (limits : Limits)
    (binding : ClassBinding)
    (sound : before.Sound)
    (held : before.heap.Holds (.scope draft.scope))
    (named : binding = .declaration -> draft.name.isSome = true) :
    let last := endState (callWithin bound) initialState steps
    let call := callWithin (inner + 1)
    let around := holding.holdScope
      (before.heap.openClassScope draft.scope draft.name).1
    let ordered := ClassBody.inOrder draft.body.members
    (∀ function, (last.heap.function function).kind = .computedKey ->
      (last.heap.function function).body.avoidsCallee = true ->
        last.RunsKeyOnce function) ∧
    ClassBody.StablyOrders ordered draft.body.members ∧
    ∃ requests ended, draft.RequestsKeys call holding limits before
      requests ended ∧ RunsKeysOnce call around ordered
        (fun call => elaborateAs call holding limits draft binding) before
        requests ended last := by
  intro last call around ordered
  refine ⟨fun _ => runsKeyOnce bound steps,
    ClassBody.stablyOrders_inOrder _, ?_⟩
  obtain ⟨requests, ended, evaluates, once⟩ :=
    keys_of_elaborateAs call holding limits before named
  let opening := before.heap.openClassScope draft.scope draft.name
  let opened : State := { before with heap := opening.2 }
  have opens : before.heap.Path (fun _ => True) opening.2 :=
    .single (.classScope draft.scope draft.name held)
  have soundOpened : opened.Sound := sound.along opens
  have heldScope := before.heap.holds_openClassScope draft.scope draft.name
  refine ⟨requests, ended, evaluates, once, ?_, ?_⟩
  · intro request asked
    unfold ClassDraft.RequestsKeys at evaluates
    rw [show call = _ from (callUntil_never (inner + 1)).symm] at evaluates
    obtain ⟨moves, within⟩ := evaluates.asks soundOpened heldScope request asked
    exact KeyRequest.runs inner _ (moves.sound soundOpened) within
  · rintro keys after rfl moment index expr function state asked avoids
    exact KeysEvaluate.entriesOf_eq evaluates soundOpened heldScope asked
      avoids moment

/-- A class with one method, whose key is computed, and an object of the
class. -/
def keyedSteps (key constructorBody : Expr) : List Step :=
  let form : ClassForm Expr := {
    blueprint := {
      name := some "Keyed"
      scope := none
      body := {
        members := [⟨.method, .computed key, false, none, [], 0⟩]
        constructor := some ⟨[], some constructorBody, 1⟩ } }
    binding := .expression
    limits := .standard }
  [.evaluate (.klass form) (some "made"),
    .evaluate (.apply (.host .construct)
      [.apply (.storage (.variable "made")) []]) none]

/-- A class with two computed keys, the first of them for the member that
is written last. -/
def swappedDraft : ClassDraft where
  name := some "Swapped"
  scope := ⟨0⟩
  body := {
    members := [
      ⟨.field, .computed .nothing, false, none, [], 1⟩,
      ⟨.method, .computed (.apply .throw [.literal .null]), false, none, [], 0⟩]
    constructor := none }

/-- A class is declared under its name, and in a program a key that logs a text
is evaluated once. -/
theorem evaluatesKeysOnce_of_avoidsCallee_keyedSteps :
    let key : Expr := .apply (.storage .log) [.literal (.string "key")]
    let last := endState (callWithin 2) initialState (keyedSteps key .nothing)
    let around := Holding.none.holdScope
      (initialState.heap.openClassScope swappedDraft.scope swappedDraft.name).1
    let ordered := ClassBody.inOrder swappedDraft.body.members
    ((initialState.heap.Holds (.scope swappedDraft.scope) ∧
        (ClassBinding.declaration = .declaration ->
          swappedDraft.name.isSome = true)) ∧
      (last.heap.function ⟨0⟩).kind = .computedKey ∧
        (last.heap.function ⟨0⟩).body.avoidsCallee = true ∧
          last.entriesOf ⟨0⟩ = [⟨⟨0⟩, .undefined, [], 1⟩]) ∧
      last.RunsKeyOnce ⟨0⟩ ∧
        ClassBody.StablyOrders ordered swappedDraft.body.members ∧
        ∃ requests ended,
          swappedDraft.RequestsKeys (callWithin 1) .none .standard initialState
            requests ended ∧ RunsKeysOnce (callWithin 1) around ordered
              (fun call => elaborateAs call .none .standard swappedDraft
                .declaration)
              initialState requests ended last := by
  intro key last around ordered
  have held : initialState.heap.Holds (.scope swappedDraft.scope) := by
    show 0 < Store.size _
    decide +kernel
  have kind : (last.heap.function ⟨0⟩).kind = .computedKey := by decide +kernel
  have avoids : (last.heap.function ⟨0⟩).body.avoidsCallee = true := by
    decide +kernel
  have entered : last.entriesOf ⟨0⟩ = [⟨⟨0⟩, .undefined, [], 1⟩] := by
    decide +kernel
  obtain ⟨runs, orders, evaluates⟩ := evaluatesKeysOnce_of_avoidsCallee 2 0
    (keyedSteps key .nothing) .none .standard .declaration sound_initialState
    held fun _ => rfl
  exact ⟨⟨⟨held, fun _ => rfl⟩, kind, avoids, entered⟩, runs ⟨0⟩ kind avoids,
    orders, evaluates⟩

/-- The key stores its own function, which the constructor then calls
without a receiver. -/
def renewedSteps : List Step :=
  keyedSteps (.apply (.storage (.setVariable "evaluated"))
      [.apply (.frame .callee) []])
    (.apply (.host .callFunction)
      [.apply (.storage (.variable "evaluated")) [], .literal .null])

/-- A key that gives itself away is evaluated again when the class is
instantiated. -/
theorem not_runsKeyOnce_renewedSteps :
    let last := endState (callWithin 2) initialState renewedSteps
    (last.heap.function ⟨0⟩).kind = .computedKey ∧
      last.entriesOf ⟨0⟩ = [⟨⟨0⟩, .null, [], 1⟩, ⟨⟨0⟩, .undefined, [], 1⟩] ∧
        ¬ last.RunsKeyOnce ⟨0⟩ := by
  intro last
  have kind : (last.heap.function ⟨0⟩).kind = .computedKey := by decide +kernel
  have entered : last.entriesOf ⟨0⟩ =
      [⟨⟨0⟩, .null, [], 1⟩, ⟨⟨0⟩, .undefined, [], 1⟩] := by
    decide +kernel
  refine ⟨kind, entered, fun runs => ?_⟩
  have once := runs.once
  rw [entered] at once
  exact absurd once (by decide)

end Program

end ClassLowering
