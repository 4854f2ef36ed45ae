import ClassLowering.Proofs.Depths.Refusals
import ClassLowering.Proofs.Runs.Programs

/-!
# Depths of host calls

A host call runs its first bodies at the first depth, or one level deeper if it
constructs. From there on every body that keeps to its frame runs what it asks
for below itself, so depths grow inwards while the count of depths does not
start again. They never grow past the limit of the function that runs.

Only a limit at the deepest level lets the count start again.
-/

namespace ClassLowering

/-- The ways in which the host enters the engine to run a body. -/
inductive HostCall
  | call (function : FunctionRef) (receiver : Value) (args : List Value)
  | get (object : ObjectRef) (key : PropertyKey)
  | set (object : ObjectRef) (key : PropertyKey) (value : Value)
  | invoke (object : ObjectRef) (key : PropertyKey) (args : List Value)
  | instantiate (klass : ClassRef) (args : List Value)

namespace HostCall

/-- Do what a host call says, at the first depth. -/
def run (call : Invoker) : HostCall -> RunM Value
  | .call function receiver args => call ⟨function, receiver, args, 1⟩
  | .get object key => readObject call object key 1
  | .set object key value => do
      writeObject call object key value 1
      return .undefined
  | .invoke object key args => invokeObject call object key args
  | .instantiate klass args => construct call klass args 1

/-- A host call refers to cells of a heap. -/
def Within (heap : Heap) : HostCall -> Prop
  | .call function receiver args =>
      heap.Holds (.function function) ∧ receiver.Within heap ∧
        AllWithin heap args
  | .get object _ => heap.Holds (.object object)
  | .set object _ value => heap.Holds (.object object) ∧ value.Within heap
  | .invoke object _ args => heap.Holds (.object object) ∧ AllWithin heap args
  | .instantiate klass args => heap.Holds (.klass klass) ∧ AllWithin heap args

/-- A host call makes progress, and asks for bodies below depth zero only. -/
theorem runs
    {progress : Progress}
    {demand : Demand}
    {call : Invoker}
    {request : HostCall}
    {before : State}
    (serves : progress.Serves demand call)
    (covers : demand.CoversBelow 0)
    (sound : before.Sound)
    (within : request.Within before.heap) :
    progress.Runs (request.run call) before Value.Known := by
  cases request with
  | call function receiver args =>
      exact serves _ before sound ⟨within.1, within.2.1, within.2.2⟩
        (covers.calls _ _ rfl)
  | get object key => exact runs_readObject serves covers.calls sound within
  | set object key value =>
      refine .bind sound
        (runs_writeObject serves covers.calls sound within.1 within.2) ?_
      exact fun _ _ _ _ _ => .pure Value.within_undefined
  | invoke object key args =>
      exact runs_invokeObject serves covers.calls sound within.1 within.2
  | instantiate klass args =>
      exact runs_construct serves covers.constructions sound within.1 within.2

/-- A host call stays sound and records a history of bodies below depth zero. -/
theorem nested
    {request : HostCall}
    {before : State}
    (stop : State -> Bool)
    (bound : Nat)
    (holding : Holding)
    (sound : before.Sound)
    (within : request.Within before.heap) :
    let after := (request.run (callUntil stop bound holding)).endState before
    after.Sound ∧ ∃ events, after.record = events ++ before.record ∧
      Nested after.heap (fun entry => entry.Below after.heap 0) events := by
  intro after
  have ends := Progress.Runs.leads_endState
    (runs (serves_callUntil stop bound
      (fun heap entry => entry.Below heap 0) holding)
      (Demand.coversBelow_asking fun _ _ below => below) sound within)
  obtain ⟨moves, events, recorded, nested⟩ := ends
  exact ⟨moves.sound sound, events, recorded, nested after.heap (.refl _)⟩

end HostCall

/-- The depths of active bodies, newest first, where the count of depths
never starts again. -/
structure Deepening (heap : Heap) (stack : List BodyEntry) : Prop where
  /-- Every body is deeper than all those around it. -/
  descending : stack.Pairwise fun inner outer => outer.depth < inner.depth
  /-- There are no more bodies than the innermost one may be deep. -/
  few : ∀ innermost ∈ stack.head?, stack.length ≤ (innermost.limit heap).toNat
  /-- One level below a body is one more. -/
  calls : ∀ entry ∈ stack, (entry.depth + 1).toNat = entry.depth.toNat + 1
  /-- One level below a construction that a body may do is two more. -/
  constructions : ∀ entry ∈ stack, ∀ klass,
    (heap.klass klass).limits.callDepth < 4294967295 ->
      entry.depth + 1 ≤ (heap.klass klass).limits.callDepth ->
        (entry.depth + 1 + 1).toNat = entry.depth.toNat + 2

/-- Active bodies that keep to their frames deepen when none has its limit at
the deepest level. -/
theorem Stacked.deepening
    {heap : Heap}
    {stack : List BodyEntry}
    (stacked : Stacked heap (fun entry => entry.Below heap 0) stack)
    (keeps : ∀ entry ∈ stack,
      (heap.function entry.function).body.keepsToFrame = true)
    (shallow : ∀ entry ∈ stack, entry.limit heap < 4294967295) :
    Deepening heap stack := by
  have started : ∀ entry : BodyEntry, entry.Below heap 0 ->
      0 < entry.depth.toNat := by
    intro entry below
    rcases below with single | ⟨double, -⟩
    · rw [single]
      decide
    · rw [double]
      decide
  have single : ∀ entry ∈ stack, (entry.depth + 1).toNat =
      entry.depth.toNat + 1 :=
    fun entry present => Depth.toNat_add_one
      (UInt32.lt_of_le_of_lt (stacked.depth_le_limit present)
        (shallow entry present))
  obtain ⟨descending, few⟩ := stacked.depths started keeps shallow
  refine ⟨descending, fun innermost first => ?_, single, ?_⟩
  · have bounded := stacked.depth_le_limit (List.mem_of_mem_head? first)
    exact Nat.le_trans (few innermost first) (UInt32.le_iff_toNat_le.1 bounded)
  · intro entry present klass shallowClass within
    rw [Depth.toNat_add_one (UInt32.lt_of_le_of_lt within shallowClass),
      single entry present]

/-- What a state says to calls and constructions beyond their limits. -/
structure State.Refuses (state : State) : Prop where
  /-- A function that is called beyond its limit is refused, and nothing
  changes. -/
  calls : ∀ (call : Caller) (holding : Holding) (invocation : Invocation),
    (state.heap.function invocation.function).limits.callDepth <
      invocation.depth -> enterFunction call holding invocation state =
        .error (.fault (.callDepthExceeded
          (state.heap.function invocation.function).limits.callDepth)) state
  /-- A class that is constructed at its limit or beyond is refused
  before any body. -/
  constructions : ∀ (call : Caller) (holding : Holding) (klass : ClassRef)
      (args : List Value) (depth : Depth),
    state.heap.Holds (.klass klass) ->
      (state.heap.klass klass).limits.callDepth ≤ depth ->
      (state.heap.klass klass).limits.callDepth < 4294967295 ->
        RefusedFor (state.heap.klass klass).limits.callDepth
          (construct (enterFunction call holding) klass args depth) state

/-- Every sound state refuses what is beyond its limit. -/
theorem State.Sound.refuses
    {state : State}
    (sound : state.Sound) :
    state.Refuses :=
  ⟨fun call holding _ deep => enterFunction_of_deep call holding deep,
    fun call holding _ args _ held deep shallow =>
      construct_refused call holding args sound.heap held deep shallow⟩

/-- How depths go in a host call that takes one state to another. -/
structure RespectsDepths (before after : State) : Prop where
  /-- Bodies run where those around them ask for them, and none beyond its
  limit. -/
  history : ∃ events, after.record = events ++ before.record ∧
    (∀ entry, .entered entry ∈ events -> entry.depth ≤ entry.limit after.heap) ∧
    ∀ newer older, newer ++ older = events ->
      Stacked after.heap (fun entry => entry.Below after.heap 0)
        (active older) ∧ ((∀ entry ∈ active older,
            (after.heap.function entry.function).body.keepsToFrame = true) ->
          (∀ entry ∈ active older, entry.limit after.heap < 4294967295) ->
            Deepening after.heap (active older))
  /-- Every sound state refuses what is beyond its limit. -/
  refuses : ∀ state : State, state.Sound -> state.Refuses
  /-- The call starts and ends in sound states, also where it is stopped. -/
  sound : before.Sound ∧ after.Sound

/--
In every state of a program, a host call runs each body where the one around it
asks for it, and never beyond its limit. Bodies that keep to their frames
deepen, if none of them has its limit at the deepest level. What is beyond its
own limit is refused, and so are the constructions at it.
-/
theorem depths_of_hostCall
    {request : HostCall}
    {steps : List Step}
    (stop halt : State -> Bool)
    (stepBound bound : Nat)
    (holding : Holding)
    (within : request.Within
      (Program.endState (callUntil stop stepBound) Program.initialState
        steps).heap) :
    let before := Program.endState
      (callUntil stop stepBound) Program.initialState steps
    RespectsDepths before
      ((request.run (callUntil halt bound holding)).endState before) := by
  intro before
  have sound : before.Sound :=
    Program.sound_endState stop stepBound steps Program.sound_initialState
  obtain ⟨soundAfter, events, recorded, nested⟩ :=
    HostCall.nested halt bound holding sound within
  refine ⟨⟨events, recorded, fun entry entered =>
    nested.depth_le_limit entered, ?_⟩,
    fun _ => State.Sound.refuses, sound, soundAfter⟩
  intro newer older moment
  obtain ⟨stack, stacked, actives⟩ := nested.stacked moment
  have all := actives []
  rw [List.append_nil, active, List.append_nil] at all
  rw [all]
  exact ⟨stacked, stacked.deepening⟩

/-- A function whose body constructs an object of a class. -/
def constructingSteps : List Step :=
  let form : ClassForm Expr := {
    blueprint := {
      name := some "Made"
      scope := none
      body := {
        members := [⟨.field, .literal (.text "own"), false,
          some (.apply (.frame .depth) []), [], 0⟩]
        constructor := none } }
    binding := .expression
    limits := ⟨3, 0⟩ }
  let made : Expr := .apply (.storage (.variable "made")) []
  [.evaluate (.klass form) (some "made"),
    .evaluate (.function "make" (.apply (.frame .construct) [made])) none]

/-- The host calls the constructing function, which is the last one that was
made. -/
theorem depths_of_hostCall_constructing :
    let before := Program.endState
      (callUntil (fun _ => false) 0) Program.initialState constructingSteps
    let request : HostCall := .call ⟨2⟩ .null []
    let call := callUntil (fun _ => false) 3
    request.Within before.heap ∧
      RespectsDepths before ((request.run (call .none)).endState before) := by
  have held :
      (Program.endState (callUntil (fun _ => false) 0) Program.initialState
        constructingSteps).heap.Holds (.function ⟨2⟩) := by
    show 2 < Store.size _
    decide +kernel
  exact ⟨⟨held, Value.within_null, .nil⟩,
    depths_of_hostCall (fun _ => false) (fun _ => false) 0 3
    .none ⟨held, Value.within_null, .nil⟩⟩

end ClassLowering
