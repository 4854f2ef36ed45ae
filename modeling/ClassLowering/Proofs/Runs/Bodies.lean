import ClassLowering.Evaluation.Body
import ClassLowering.Proofs.Runs.Progress

/-!
# Runs of bodies

A running body has locals and yields beside the state. They stay values of
the heap whatever the body does, also when it faults, since a handler may
look at them later.

The rules are those for runs of the engine, with one more for faults
that are caught.
-/

namespace ClassLowering

/-- The state of a running body is sound, and its locals and yields are
values of the heap. -/
structure BodyState.Sound (body : BodyState) : Prop where
  state : body.state.Sound
  locals : AllWithin body.state.heap body.locals.values
  yields : AllWithin body.state.heap body.yields.newestFirst

/-- A frame refers to cells of a heap. -/
structure Frame.Within (heap : Heap) (frame : Frame) : Prop where
  callee : heap.Holds (.function frame.callee)
  receiver : frame.receiver.Within heap
  args : AllWithin heap frame.args
  scope : heap.Holds (.scope frame.scope)

/-- A frame within a heap is within every heap that extends it. -/
theorem Frame.Within.mono
    {heap later : Heap}
    {frame : Frame}
    (within : frame.Within heap)
    (extension : heap.Extends later) :
    frame.Within later where
  callee := extension.holds _ within.callee
  receiver := within.receiver.mono extension
  args := within.args.mono extension
  scope := extension.holds _ within.scope

namespace BodyM

variable {α : Type}

/-- A run of the engine that ends well does so inside a body. -/
theorem lift_of_ok
    {run : RunM α}
    {before : BodyState}
    {result : α}
    {after : State}
    (ended : run before.state = .ok result after) :
    lift run before = .ok result ⟨after, before.locals, before.yields⟩ := by
  simp only [lift, ended]

/-- A run of the engine that is interrupted interrupts the body. -/
theorem lift_of_error
    {run : RunM α}
    {before : BodyState}
    {interruption : Interruption}
    {after : State}
    (ended : run before.state = .error interruption after) :
    lift run before = .error interruption
      ⟨after, before.locals, before.yields⟩ := by
  simp only [lift, ended]

/-- A body that is started ends well where the computation does. -/
theorem start_of_ok
    {run : BodyM α}
    {before : State}
    {after : BodyState}
    {result : α}
    (ended : run ⟨before, ∅, .empty⟩ = .ok result after) :
    start run before = .ok (result, after.yields) after.state := by
  simp only [start, ended]

/-- A body that starts and is interrupted leaves the state as it was then. -/
theorem start_of_error
    {run : BodyM α}
    {before : State}
    {after : BodyState}
    {interruption : Interruption}
    (ended : run ⟨before, ∅, .empty⟩ = .error interruption after) :
    start run before = .error interruption after.state := by
  simp only [start, ended]

/-- A body goes on from where its first part ended. -/
theorem bind_of_ok
    {β : Type}
    {run : BodyM α}
    {next : α -> BodyM β}
    {before after : BodyState}
    {result : α}
    (ended : run before = .ok result after) :
    (run >>= next) before = next result after := by
  simp only [bind, EStateM.bind, ended]

/-- A body ends where its first part is interrupted. -/
theorem bind_of_error
    {β : Type}
    {run : BodyM α}
    {next : α -> BodyM β}
    {before after : BodyState}
    {interruption : Interruption}
    (ended : run before = .error interruption after) :
    (run >>= next) before = .error interruption after := by
  simp only [bind, EStateM.bind, ended]

/-- A fault is handled from the state in which it left the body. -/
theorem catchFault_of_fault
    {run : BodyM α}
    {handler : Failure -> BodyM α}
    {before after : BodyState}
    {cause : Failure}
    (ended : run before = .error (.fault cause) after) :
    catchFault run handler before = handler cause after := by
  simp only [catchFault, ended]

end BodyM

namespace Progress

variable (progress : Progress) {α β : Type}

/-- A body makes progress and stays sound however it ends, and its claim
holds. -/
def RunsBody (run : BodyM α) (before : BodyState)
    (claim : α -> State -> Prop) : Prop :=
  match run before with
  | .ok result after =>
      progress.Leads before.state after.state ∧ after.Sound ∧
        claim result after.state
  | .error interruption after =>
      progress.Leads before.state after.state ∧ after.Sound ∧
        (interruption = .stalled -> progress.Stalls before.state after.state)

namespace RunsBody

variable {progress} {before : BodyState} {run : BodyM α}
  {claim : α -> State -> Prop}

/-- A result is a run of its own. -/
theorem pure
    {result : α}
    (sound : before.Sound)
    (holds : claim result before.state) :
    progress.RunsBody (Pure.pure result) before claim :=
  ⟨progress.refl before.state, sound, holds⟩

/-- A body goes on from a sound state that extends the first one. -/
theorem bind
    {next : α -> BodyM β}
    {further : β -> State -> Prop}
    (first : progress.RunsBody run before claim)
    (rest : ∀ result (between : BodyState), between.Sound ->
      before.state.heap.Extends between.state.heap ->
        claim result between.state ->
        progress.RunsBody (next result) between further) :
    progress.RunsBody (run >>= next) before further := by
  unfold RunsBody at first ⊢
  cases ended : run before with
  | error interruption after =>
      rw [ended] at first
      rw [BodyM.bind_of_error ended]
      exact first
  | ok result between =>
      rw [ended] at first
      rw [BodyM.bind_of_ok ended]
      obtain ⟨leads, sound, holds⟩ := first
      have second := rest result between sound
        (progress.moves leads).path.extension holds
      unfold RunsBody at second
      cases final : next result between with
      | error interruption after =>
          rw [final] at second
          obtain ⟨further, soundAfter, stalls⟩ := second
          exact ⟨progress.trans leads further, soundAfter, fun stalled =>
            progress.stalls leads (stalls stalled)⟩
      | ok last after =>
          rw [final] at second
          exact ⟨progress.trans leads second.1, second.2⟩

/-- A run of the engine is a run of the body that starts it. -/
theorem lift
    {run : RunM α}
    (sound : before.Sound)
    (runs : progress.Runs run before.state claim) :
    progress.RunsBody (BodyM.lift run) before claim := by
  unfold RunsBody
  unfold Runs at runs
  cases ended : run before.state with
  | ok result after =>
      rw [ended] at runs
      rw [BodyM.lift_of_ok ended]
      have moves := progress.moves runs.1
      have extension := moves.path.extension
      exact ⟨runs.1, ⟨moves.sound sound.state, sound.locals.mono extension,
        sound.yields.mono extension⟩, runs.2⟩
  | error interruption after =>
      rw [ended] at runs
      rw [BodyM.lift_of_error ended]
      have moves := progress.moves runs.1
      have extension := moves.path.extension
      exact ⟨runs.1, ⟨moves.sound sound.state, sound.locals.mono extension,
        sound.yields.mono extension⟩, runs.2⟩

/-- What follows a look at the heap starts from the same state. -/
theorem readHeap_bind
    {read : Heap -> α}
    {next : α -> BodyM β}
    {further : β -> State -> Prop}
    (rest : progress.RunsBody (next (read before.state.heap)) before further) :
    progress.RunsBody (BodyM.lift (RunM.readHeap read) >>= next)
      before further :=
  rest

/-- What follows a look at the session starts from the same state. -/
theorem readSession_bind
    {read : Session -> α}
    {next : α -> BodyM β}
    {further : β -> State -> Prop}
    (rest : progress.RunsBody (next (read before.state.session))
      before further) :
    progress.RunsBody (BodyM.lift (RunM.readSession read) >>= next)
      before further :=
  rest

/-- What follows a look at what the body holds starts from the same state. -/
theorem holding_bind
    {context : Context}
    {operands : List Value}
    {next : Holding -> BodyM β}
    {further : β -> State -> Prop}
    (rest : ∀ holding, progress.RunsBody (next holding) before further) :
    progress.RunsBody (BodyM.holding context operands >>= next)
      before further :=
  rest _

/-- What follows a look at the state starts from the same state. -/
theorem get_bind
    {next : BodyState -> BodyM β}
    {further : β -> State -> Prop}
    (rest : progress.RunsBody (next before) before further) :
    progress.RunsBody (get >>= next) before further :=
  rest

/-- A handler goes on from the state in which the fault left the body. -/
theorem catchFault
    {handler : Failure -> BodyM α}
    (first : progress.RunsBody run before claim)
    (rest : ∀ cause (between : BodyState), between.Sound ->
      before.state.heap.Extends between.state.heap ->
        progress.RunsBody (handler cause) between claim) :
    progress.RunsBody (BodyM.catchFault run handler) before claim := by
  unfold RunsBody at first ⊢
  cases ended : run before with
  | ok result after =>
      rw [ended] at first
      have stays : BodyM.catchFault run handler before = .ok result after := by
        simp only [BodyM.catchFault, ended]
      rw [stays]
      exact first
  | error interruption between =>
      rw [ended] at first
      cases interruption with
      | stalled =>
          have stays : BodyM.catchFault run handler before =
              .error .stalled between := by
            simp only [BodyM.catchFault, ended]
          rw [stays]
          exact first
      | fault cause =>
          rw [BodyM.catchFault_of_fault ended]
          obtain ⟨leads, sound, -⟩ := first
          have second := rest cause between sound
            (progress.moves leads).path.extension
          unfold RunsBody at second
          cases final : handler cause between with
          | ok result after =>
              rw [final] at second
              exact ⟨progress.trans leads second.1, second.2⟩
          | error last after =>
              rw [final] at second
              obtain ⟨further, soundAfter, stalls⟩ := second
              exact ⟨progress.trans leads further, soundAfter, fun stalled =>
                progress.stalls leads (stalls stalled)⟩

/-- A local variable takes a value of the heap. -/
theorem setLocal
    {name : String}
    {value : Value}
    (sound : before.Sound)
    (within : value.Within before.state.heap) :
    progress.RunsBody (BodyM.setLocal name value) before fun _ _ => True := by
  refine ⟨progress.refl before.state, ⟨sound.state, ?_, sound.yields⟩, trivial⟩
  intro other present
  rcases OrderedMap.mem_values_insert present with rfl | old
  · exact within
  · exact sound.locals other old

/-- A local variable yields a value of the heap. -/
theorem getLocal
    {name : String}
    (sound : before.Sound) :
    progress.RunsBody (BodyM.getLocal name) before Value.Known := by
  refine .get_bind (.pure sound ?_)
  cases found : before.locals.find? name with
  | none => exact Value.within_undefined
  | some value =>
      exact sound.locals value (OrderedMap.mem_values_of_find? found)

/-- A loop makes progress when each of its rounds does. -/
theorem countUp
    {action : Nat -> BodyM Unit}
    (rounds index : Nat)
    (sound : before.Sound)
    (each : ∀ index (state : BodyState), state.Sound ->
      before.state.heap.Extends state.state.heap ->
        progress.RunsBody (action index) state fun _ _ => True) :
    progress.RunsBody (BodyM.countUp action rounds index) before
      fun _ _ => True := by
  induction rounds generalizing index before with
  | zero => exact .pure sound trivial
  | succ rounds hypothesis =>
      refine .bind (each index before sound (.refl _)) ?_
      intro _ between soundBetween extension _
      refine hypothesis (index + 1) soundBetween ?_
      intro other state soundState further
      exact each other state soundState (extension.trans further)

end RunsBody

/-- A body that starts from nothing yields values of the heap. -/
theorem runs_start
    {progress : Progress}
    {run : BodyM α}
    {before : State}
    {claim : α -> State -> Prop}
    (runs : progress.RunsBody run ⟨before, ∅, .empty⟩ claim) :
    progress.Runs (BodyM.start run) before fun result after =>
      claim result.1 after ∧ AllWithin after.heap result.2.values := by
  unfold RunsBody at runs
  unfold Runs BodyM.start
  cases ended : run ⟨before, ∅, .empty⟩ with
  | ok result after =>
      rw [ended] at runs
      obtain ⟨leads, sound, holds⟩ := runs
      refine ⟨leads, holds, sound.yields.subset ?_⟩
      intro value present
      exact List.mem_reverse.1 present
  | error interruption after =>
      rw [ended] at runs
      exact ⟨runs.1, runs.2.2⟩

end Progress

/-- A body starts sound in a sound state. -/
theorem State.Sound.start
    {state : State}
    (sound : state.Sound) :
    BodyState.Sound ⟨state, ∅, .empty⟩ :=
  ⟨sound, .nil, .nil⟩

/-- The state in which a part of a body ends, well or not. -/
def BodyM.endState {α : Type} (run : BodyM α)
    (before : BodyState) : BodyState :=
  match run before with
  | .ok _ after => after
  | .error _ after => after

/-- A part of a body stays sound and leads to the state in which it ends. -/
theorem Progress.RunsBody.leads_endState
    {progress : Progress}
    {α : Type}
    {run : BodyM α}
    {before : BodyState}
    {claim : α -> State -> Prop}
    (runs : progress.RunsBody run before claim) :
    progress.Leads before.state (run.endState before).state ∧
      (run.endState before).Sound := by
  unfold Progress.RunsBody at runs
  unfold BodyM.endState
  cases ended : run before with
  | ok result after =>
      rw [ended] at runs
      exact ⟨runs.1, runs.2.1⟩
  | error interruption after =>
      rw [ended] at runs
      exact ⟨runs.1, runs.2.1⟩

end ClassLowering
