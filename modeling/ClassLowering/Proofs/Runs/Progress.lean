import ClassLowering.Proofs.Heap.Steps
import ClassLowering.Run

/-!
# Progress of runs

A run takes the heap along a path of steps and keeps the session referring
to cells of the heap, however it ends. What else is known about all the
states between two moments of a run, such as the bodies that were entered,
is a progress: a relation that contains every move without new events and
that composes. A progress also says where a run may stall, and which
functions it may make.

The rules for the parts of runs are stated once for every progress.
-/

namespace ClassLowering

/-- A session refers to cells of a heap. -/
structure Session.Sound (heap : Heap) (session : Session) : Prop where
  storedValues : AllWithin heap session.storedValues.values
  scopes : ∀ scope ∈ session.scopes.values, heap.Holds (.scope scope)

/-- A session that is sound stays so when the heap is extended. -/
theorem Session.Sound.mono
    {heap later : Heap}
    {session : Session}
    (sound : session.Sound heap)
    (extension : heap.Extends later) :
    session.Sound later where
  storedValues := sound.storedValues.mono extension
  scopes scope stored := extension.holds _ (sound.scopes scope stored)

namespace State

/-- The heap of a state is sound, and its session refers to cells of the
heap. -/
structure Sound (state : State) : Prop where
  heap : state.heap.Sound
  session : state.session.Sound state.heap

/--
One state is reached from another along a path of the heap and by sound changes
of the session.
-/
structure Moves (makes : FunctionCell -> Prop)
    (before after : State) : Prop where
  path : before.heap.Path makes after.heap
  session : before.session.Sound before.heap -> after.session.Sound after.heap

namespace Moves

variable {makes : FunctionCell -> Prop}

/-- Every state reaches itself. -/
theorem refl (state : State) : state.Moves makes state :=
  ⟨.refl state.heap, id⟩

/-- Moves compose. -/
theorem trans
    {first second third : State}
    (earlier : first.Moves makes second)
    (later : second.Moves makes third) :
    first.Moves makes third :=
  ⟨earlier.path.trans later.path, fun sound =>
    later.session (earlier.session sound)⟩

/-- A move keeps a state sound. -/
theorem sound
    {before after : State}
    (moves : before.Moves makes after)
    (sound : before.Sound) :
    after.Sound :=
  ⟨moves.path.sound sound.heap, moves.session sound.session⟩

/-- A path of the heap moves the state. -/
theorem of_path
    {state : State}
    {later : Heap}
    (path : state.heap.Path makes later) :
    state.Moves makes { state with heap := later } :=
  ⟨path, fun sound => sound.mono path.extension⟩

/-- A sound change of the session moves the state. -/
theorem of_session
    {state : State}
    {session : Session}
    (sound : state.session.Sound state.heap -> session.Sound state.heap) :
    state.Moves makes { state with session := session } :=
  ⟨.refl state.heap, sound⟩

end Moves

/-- A state stays sound along a path of its heap. -/
theorem Sound.along
    {makes : FunctionCell -> Prop}
    {state : State}
    {later : Heap}
    (sound : state.Sound)
    (path : state.heap.Path makes later) :
    Sound { state with heap := later } :=
  (Moves.of_path path).sound sound

end State

/-- The state in which a run ends, well or not. -/
def RunM.endState {α : Type} (run : RunM α) (before : State) : State :=
  match run before with
  | .ok _ after => after
  | .error _ after => after

/-- A run that is interrupted ends where it is. -/
theorem RunM.endState_of_error
    {α : Type}
    {run : RunM α}
    {before after : State}
    {interruption : Interruption}
    (ended : run before = .error interruption after) :
    run.endState before = after := by
  unfold RunM.endState
  rw [ended]

/-- What is known of the states that runs lead through, and of those in
which runs stall. -/
structure Progress where
  /-- From where to where a run may lead. -/
  Leads : State -> State -> Prop
  /-- From where to where a run may lead when it stalls. -/
  Stalls : State -> State -> Prop
  /-- The functions that a run may make. -/
  Makes : FunctionCell -> Prop
  refl (state : State) : Leads state state
  trans {first second third : State} :
    Leads first second -> Leads second third -> Leads first third
  stalls {first second third : State} :
    Leads first second -> Stalls second third -> Stalls first third
  /-- A run may go on without events, if all of it is a move. -/
  goesOn {before between after : State} :
    Leads before between -> before.Moves Makes after ->
      between.heap.Extends after.heap ->
      after.record = between.record -> Leads before after
  moves {before after : State} :
      Leads before after -> before.Moves (fun _ => True) after

namespace Progress

variable (progress : Progress) {α β : Type}

/-- A move without events makes progress. -/
theorem quiet
    {before after : State}
    (moves : before.Moves progress.Makes after)
    (same : after.record = before.record) :
    progress.Leads before after :=
  progress.goesOn (progress.refl before) moves moves.path.extension same

/-- A run makes progress however it ends, and what is claimed of its result
holds. -/
def Runs (run : RunM α) (before : State) (claim : α -> State -> Prop) : Prop :=
  match run before with
  | .ok result after => progress.Leads before after ∧ claim result after
  | .error interruption after =>
      progress.Leads before after ∧
        (interruption = .stalled -> progress.Stalls before after)

namespace Runs

variable {progress} {before : State} {run : RunM α} {claim : α -> State -> Prop}

/-- A run goes on from a sound state that extends the first one. -/
theorem bind
    {next : α -> RunM β}
    {further : β -> State -> Prop}
    (sound : before.Sound)
    (first : progress.Runs run before claim)
    (rest : ∀ result between, between.Sound ->
      before.heap.Extends between.heap ->
      claim result between -> progress.Runs (next result) between further) :
    progress.Runs (run >>= next) before further := by
  unfold Runs at first ⊢
  cases ended : run before with
  | error interruption after =>
      rw [ended] at first
      rw [RunM.bind_of_error ended]
      exact first
  | ok result between =>
      rw [ended] at first
      rw [RunM.bind_of_ok ended]
      obtain ⟨leads, holds⟩ := first
      have moves := progress.moves leads
      have second := rest result between
        (moves.sound sound) moves.path.extension holds
      unfold Runs at second
      cases final : next result between with
      | error interruption after =>
          rw [final] at second
          exact ⟨progress.trans leads second.1, fun stalled =>
            progress.stalls leads (second.2 stalled)⟩
      | ok last after =>
          rw [final] at second
          exact ⟨progress.trans leads second.1, second.2⟩

/-- A result is a run of its own. -/
theorem pure
    {result : α}
    (holds : claim result before) :
    progress.Runs (Pure.pure result) before claim :=
  ⟨progress.refl before, holds⟩

/-- A run may stall where it is if this is allowed there. -/
theorem stall (stalls : progress.Stalls before before) :
    progress.Runs (MonadExcept.throw .stalled : RunM α) before claim :=
  ⟨progress.refl before, fun _ => stalls⟩

/-- A fault leaves the state as it is. -/
theorem fail (cause : Failure) : progress.Runs (RunM.fail cause) before claim :=
  ⟨progress.refl before, nofun⟩

/-- A type fault leaves the state as it is. -/
theorem failType
    (cause : TypeFault) :
    progress.Runs (RunM.failType cause) before claim :=
  fail (.type cause)

/-- A result of the pure part is a run of its own. -/
theorem ofExcept
    {result : Except Failure α}
    (holds : ∀ value, result = .ok value -> claim value before) :
    progress.Runs (RunM.ofExcept result) before claim := by
  cases result with
  | ok value => exact pure (holds value rfl)
  | error cause => exact fail cause

/-- What follows a result of the pure part starts from the same state. -/
theorem ofExcept_bind
    {result : Except Failure α}
    {next : α -> RunM β}
    {further : β -> State -> Prop}
    (rest : ∀ value, result = .ok value ->
      progress.Runs (next value) before further) :
    progress.Runs (RunM.ofExcept result >>= next) before further := by
  cases result with
  | ok value => exact rest value rfl
  | error cause => exact fail cause

/-- A look at the heap leaves the state as it is. -/
theorem readHeap
    {read : Heap -> α}
    (holds : claim (read before.heap) before) :
    progress.Runs (RunM.readHeap read) before claim :=
  ⟨progress.refl before, holds⟩

/-- What follows a look at the heap starts from the same state. -/
theorem readHeap_bind
    {read : Heap -> α}
    {next : α -> RunM β}
    {further : β -> State -> Prop}
    (rest : progress.Runs (next (read before.heap)) before further) :
    progress.Runs (RunM.readHeap read >>= next) before further :=
  rest

/-- What follows a look at the session starts from the same state. -/
theorem readSession_bind
    {read : Session -> α}
    {next : α -> RunM β}
    {further : β -> State -> Prop}
    (rest : progress.Runs (next (read before.session)) before further) :
    progress.Runs (RunM.readSession read >>= next) before further :=
  rest

/-- What follows a look at the state starts from the same state. -/
theorem get_bind
    {next : State -> RunM β}
    {further : β -> State -> Prop}
    (rest : progress.Runs (next before) before further) :
    progress.Runs (get >>= next) before further :=
  rest

/-- A path of the heap is a run. -/
theorem changeHeap
    {change : Heap -> Heap}
    {claim : Unit -> State -> Prop}
    (path : before.heap.Path progress.Makes (change before.heap))
    (holds : claim () { before with heap := change before.heap }) :
    progress.Runs (RunM.changeHeap change) before claim :=
  ⟨progress.quiet (.of_path path) rfl, holds⟩

/-- A path of the heap with a result is a run. -/
theorem allocate
    {change : Heap -> α × Heap}
    (path : before.heap.Path progress.Makes (change before.heap).2)
    (holds : claim (change before.heap).1
      { before with heap := (change before.heap).2 }) :
    progress.Runs (RunM.allocate change) before claim :=
  ⟨progress.quiet (.of_path path) rfl, holds⟩

/-- What follows a part whose end is known starts from there. -/
theorem bind_of_ok
    {next : α -> RunM β}
    {further : β -> State -> Prop}
    {result : α}
    {between : State}
    (ended : run before = .ok result between)
    (leads : progress.Leads before between)
    (rest : progress.Runs (next result) between further) :
    progress.Runs (run >>= next) before further := by
  unfold Runs at rest ⊢
  rw [RunM.bind_of_ok ended]
  cases final : next result between with
  | ok last after =>
      rw [final] at rest
      exact ⟨progress.trans leads rest.1, rest.2⟩
  | error interruption after =>
      rw [final] at rest
      exact ⟨progress.trans leads rest.1, fun stalled =>
        progress.stalls leads (rest.2 stalled)⟩

/-- What follows a path of the heap starts from its end. -/
theorem changeHeap_bind
    {change : Heap -> Heap}
    {next : Unit -> RunM β}
    {further : β -> State -> Prop}
    (path : before.heap.Path progress.Makes (change before.heap))
    (rest : progress.Runs (next ())
      { before with heap := change before.heap } further) :
    progress.Runs (RunM.changeHeap change >>= next) before further :=
  bind_of_ok rfl (progress.quiet (.of_path path) rfl) rest

/-- What follows a path of the heap with a result starts from its end. -/
theorem allocate_bind
    {change : Heap -> α × Heap}
    {next : α -> RunM β}
    {further : β -> State -> Prop}
    (path : before.heap.Path progress.Makes (change before.heap).2)
    (rest : progress.Runs (next (change before.heap).1)
      { before with heap := (change before.heap).2 } further) :
    progress.Runs (RunM.allocate change >>= next) before further :=
  bind_of_ok rfl (progress.quiet (.of_path path) rfl) rest

/-- What follows a sound change of the session starts from its end. -/
theorem changeSession_bind
    {change : Session -> Session}
    {next : Unit -> RunM β}
    {further : β -> State -> Prop}
    (sound : before.session.Sound before.heap ->
      (change before.session).Sound before.heap)
    (rest : progress.Runs (next ())
      { before with session := change before.session } further) :
    progress.Runs (RunM.changeSession change >>= next) before further :=
  bind_of_ok rfl (progress.quiet (.of_session sound) rfl) rest

/-- What follows a sound change of the session with a result starts from its
end. -/
theorem stepSession_bind
    {change : Session -> α × Session}
    {next : α -> RunM β}
    {further : β -> State -> Prop}
    (sound : before.session.Sound before.heap ->
      (change before.session).2.Sound before.heap)
    (rest : progress.Runs (next (change before.session).1)
      { before with session := (change before.session).2 } further) :
    progress.Runs (RunM.stepSession change >>= next) before further :=
  bind_of_ok rfl (progress.quiet (.of_session sound) rfl) rest

/-- A sound change of the session is a run. -/
theorem changeSession
    {change : Session -> Session}
    {claim : Unit -> State -> Prop}
    (sound : before.session.Sound before.heap ->
      (change before.session).Sound before.heap)
    (holds : claim () { before with session := change before.session }) :
    progress.Runs (RunM.changeSession change) before claim :=
  ⟨progress.quiet (.of_session sound) rfl, holds⟩

/-- Another fault in place of one makes no difference to progress. -/
theorem mapFault
    (change : Failure -> Failure)
    (runs : progress.Runs run before claim) :
    progress.Runs (RunM.mapFault change run) before claim := by
  unfold Runs RunM.mapFault at *
  cases ended : run before with
  | ok result after =>
      rw [ended] at runs
      exact runs
  | error interruption after =>
      rw [ended] at runs
      cases interruption with
      | fault cause => exact ⟨runs.1, nofun⟩
      | stalled => exact runs

/-- A run leads to the state in which it ends. -/
theorem leads_endState (runs : progress.Runs run before claim) :
    progress.Leads before (run.endState before) := by
  unfold Runs at runs
  unfold RunM.endState
  cases ended : run before with
  | ok result after =>
      rw [ended] at runs
      exact runs.1
  | error interruption after =>
      rw [ended] at runs
      exact runs.1

/-- Runs for all of some items, one after another. -/
theorem mapM
    {action : α -> RunM β}
    (items : List α)
    (sound : before.Sound)
    (each : ∀ item ∈ items, ∀ state : State, state.Sound ->
      before.heap.Extends state.heap ->
        progress.Runs (action item) state fun _ _ => True) :
    progress.Runs (items.mapM action) before fun _ _ => True := by
  induction items generalizing before with
  | nil => exact pure trivial
  | cons item rest hypothesis =>
      rw [List.mapM_cons]
      refine bind sound (each item List.mem_cons_self before sound (.refl _)) ?_
      intro _ between soundBetween extension _
      refine bind soundBetween (hypothesis soundBetween ?_) ?_
      · intro other present state soundState further
        exact each other (List.mem_cons_of_mem _ present) state soundState
          (extension.trans further)
      · exact fun _ _ _ _ _ => pure trivial

end Runs
end Progress

/-- A value refers to a cell of the heap of a state. -/
abbrev Value.Known (value : Value) (state : State) : Prop :=
  value.Within state.heap

end ClassLowering
