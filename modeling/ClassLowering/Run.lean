import ClassLowering.Session.State

/-!
# Runs

A run is a computation that changes the state and ends with a value or is
interrupted. Changes made before an interruption stay.

An invoker is what runs the body of a function. The engine never runs a body
itself; all of its operations take the invoker as an argument. Where an
operation of the engine holds something of its own, it takes a caller, which
can be told so.
-/

namespace ClassLowering

/-- Computations on the state. -/
abbrev RunM := EStateM Interruption State

/-- A request to run the body of a function. -/
structure Invocation where
  function : FunctionRef
  receiver : Value
  args : List Value
  depth : Depth
  deriving DecidableEq

/-- What runs the bodies of functions. -/
abbrev Invoker := Invocation -> RunM Value

/-- What runs the bodies of functions while some values and scopes are held. -/
abbrev Caller := Holding -> Invoker

namespace RunM

variable {α : Type}

/-- End with a fault. -/
def fail (cause : Failure) : RunM α := throw (.fault cause)

/-- End with a type fault. -/
def failType (cause : TypeFault) : RunM α := fail (.type cause)

/-- Go on with a result, or end with its fault. -/
def ofExcept : Except Failure α -> RunM α
  | .ok value => pure value
  | .error cause => fail cause

/-- Look at the heap. -/
def readHeap (read : Heap -> α) : RunM α := do return read (← get).heap

/-- Look at the session. -/
def readSession (read : Session -> α) : RunM α := do return read (← get).session

/-- Change the heap. -/
def changeHeap (change : Heap -> Heap) : RunM Unit :=
  modify fun state => { state with heap := change state.heap }

/-- Change the session. -/
def changeSession (change : Session -> Session) : RunM Unit :=
  modify fun state => { state with session := change state.session }

/-- Change the heap and yield a result. -/
def allocate (change : Heap -> α × Heap) : RunM α :=
  modifyGet fun state =>
    let (result, heap) := change state.heap
    (result, { state with heap := heap })

/-- Change the session and yield a result. -/
def stepSession (change : Session -> α × Session) : RunM α :=
  modifyGet fun state =>
    let (result, session) := change state.session
    (result, { state with session := session })

/-- Extend the record of bodies. -/
def note (event : BodyEvent) : RunM Unit :=
  modify fun state => { state with record := event :: state.record }

/-- Go on after a fault, with the fault as the result. -/
def attempt (run : RunM α) : RunM (Except Failure α) := fun state =>
  match run state with
  | .ok value after => .ok (.ok value) after
  | .error (.fault cause) after => .ok (.error cause) after
  | .error .stalled after => .error .stalled after

/-- Replace the fault of a computation that ends with one. -/
def mapFault (change : Failure -> Failure) (run : RunM α) : RunM α :=
  fun state =>
  match run state with
  | .error (.fault cause) after => .error (.fault (change cause)) after
  | other => other

/-- Whether a run ends with a value. -/
def endsWell (run : RunM α) (state : State) : Bool :=
  match run state with
  | .ok _ _ => true
  | .error _ _ => false

/-- The state of a run that ended, well or not. -/
def lastState : EStateM.Result Interruption State α -> State
  | .ok _ after => after
  | .error _ after => after

/-- A run that ends with a value has one. -/
theorem exists_of_endsWell
    {run : RunM α}
    {state : State}
    (ends : endsWell run state = true) :
    ∃ result after, run state = .ok result after := by
  unfold endsWell at ends
  cases ended : run state with
  | ok result after => exact ⟨result, after, rfl⟩
  | error interruption after => simp [ended] at ends

/-- What a run is interrupted by, if it is. -/
def interruption? (run : RunM α) (state : State) : Option Interruption :=
  match run state with
  | .ok _ _ => none
  | .error interruption _ => some interruption

/-- A run that is interrupted ends with the interruption. -/
theorem exists_of_interruption?
    {run : RunM α}
    {state : State}
    {interruption : Interruption}
    (interrupted : interruption? run state = some interruption) :
    ∃ after, run state = .error interruption after := by
  unfold interruption? at interrupted
  split at interrupted
  · cases interrupted
  next after ended =>
    cases interrupted
    exact ⟨after, ended⟩

/-- A run goes on from where its first part ended. -/
theorem bind_of_ok
    {β : Type}
    {run : RunM α}
    {next : α -> RunM β}
    {state after : State}
    {result : α} (ended : run state = .ok result after) :
    (run >>= next) state = next result after := by
  simp only [bind, EStateM.bind, ended]

/-- A run ends where its first part is interrupted. -/
theorem bind_of_error
    {β : Type}
    {run : RunM α}
    {next : α -> RunM β}
    {state after : State}
    {interruption : Interruption}
    (ended : run state = .error interruption after) :
    (run >>= next) state = .error interruption after := by
  simp only [bind, EStateM.bind, ended]

/-- A run that ended well is a first part that ended well and a rest that
did. -/
theorem bind_eq_ok_iff
    {β : Type}
    {run : RunM α}
    {next : α -> RunM β}
    {state after : State}
    {result : β} :
    (run >>= next) state = .ok result after ↔
      ∃ first middle, run state = .ok first middle ∧
        next first middle = .ok result after := by
  constructor
  · intro ended
    cases first : run state with
    | ok value middle =>
        exact ⟨value, middle, rfl, by rwa [bind_of_ok first] at ended⟩
    | error interruption middle => simp [bind, EStateM.bind, first] at ended
  · rintro ⟨value, middle, first, rest⟩
    rwa [bind_of_ok first]

@[simp] theorem readHeap_apply (read : Heap -> α) (state : State) :
    readHeap read state = .ok (read state.heap) state := rfl

@[simp] theorem readSession_apply (read : Session -> α) (state : State) :
    readSession read state = .ok (read state.session) state := rfl

@[simp] theorem allocate_apply (change : Heap -> α × Heap) (state : State) :
    allocate change state =
      .ok (change state.heap).1
        { state with heap := (change state.heap).2 } := rfl

@[simp] theorem note_apply (event : BodyEvent) (state : State) :
    note event state =
      .ok () { state with record := event :: state.record } := rfl

end RunM
end ClassLowering
