import ClassLowering.Evaluation.Evaluator
import ClassLowering.Proofs.InStep.Heaps

/-!
# Runs in step

Two computations run in step when they start in states that are alike and then
end alike. A coupling is what is known about two such computations: how their
ends are related, and what is claimed of their results. It is given by what it
says about the few computations that do more than to look at the state and to
change it quietly; whatever the engine composes of them then runs in step, too.

What is given may fail to hold when two runs are in step no longer. A coupling
then still says something about each of the two computations, and so it takes
what is given as an assumption of its own.
-/

namespace ClassLowering

namespace Fault

variable {κ ν : Type}

/-- Whether a fault is wrapped with the index of a member. -/
def isWrapped : Fault κ ν -> Bool
  | .keyEvaluation _ _ => true
  | _ => false

end Fault

/-- Whether functions of a kind are run by the engine, which hands them
out to nobody. -/
def FunctionKind.isWithheld : FunctionKind -> Bool
  | .constructor | .computedKey => true
  | _ => false

/-- A change of the heap that makes no function. -/
structure Heap.Quiet (before after : Heap) : Prop where
  extended : before.Extends after
  functions : after.functions = before.functions

/-- A change that enters no body and makes no function. The log may
become longer. -/
structure State.Quiet (before after : State) : Prop where
  record : after.record = before.record
  heap : before.heap.Quiet after.heap
  log : before.session.log <:+ after.session.log

namespace State.Quiet

/-- Nothing is changed quietly. -/
theorem refl (state : State) : state.Quiet state :=
  ⟨rfl, ⟨.refl state.heap, rfl⟩, List.suffix_rfl⟩

/-- A change of the heap that makes no function is quiet. -/
theorem of_heap
    {state : State}
    {heap : Heap}
    (quiet : state.heap.Quiet heap) :
    state.Quiet { state with heap := heap } :=
  ⟨rfl, quiet, List.suffix_rfl⟩

/-- A change of the session that takes nothing from the log is quiet. -/
theorem of_session
    {state : State}
    {session : Session}
    (log : state.session.log <:+ session.log) :
    state.Quiet { state with session := session } :=
  ⟨rfl, ⟨.refl state.heap, rfl⟩, log⟩

end State.Quiet

/-- Two running bodies are alike. -/
structure BodyState.Like (likeness : Likeness)
    (body other : BodyState) : Prop where
  state : body.state.Like likeness other.state
  locals : other.locals = body.locals
  yields : other.yields = body.yields
  seenLocals : likeness.AllVisible body.locals.values
  seenYields : likeness.AllVisible body.yields.newestFirst

/-- What computations change: the state, alone or with the locals and
yields of a body. -/
class Stage (σ : Type) where
  /-- The state that is part of it. -/
  state : σ -> State
  Like : Likeness -> σ -> σ -> Prop

instance : Stage State := ⟨id, State.Like⟩

instance : Stage BodyState := ⟨BodyState.state, BodyState.Like⟩

/-- The state in which a computation ended, well or not. -/
def Stage.last {σ α : Type} [Stage σ] : EStateM.Result Interruption σ α -> State
  | .ok _ after => state after
  | .error _ after => state after

/-- Two computations end alike: with results, or with a fault that they raise
where they start. -/
inductive EndsAlike {σ α : Type} [Stage σ] (likeness : Likeness)
    (claim : α -> α -> Prop) (before other : σ) :
    EStateM.Result Interruption σ α -> EStateM.Result Interruption σ α -> Prop
  | ok {result further : α} {after later : σ} :
      claim result further -> Stage.Like likeness after later ->
        EndsAlike likeness claim before other (.ok result after)
          (.ok further later)
  | fault {cause : Failure} :
      cause.isWrapped = false ->
        EndsAlike likeness claim before other (.error (.fault cause) before)
          (.error (.fault cause) other)

/-- A computation changes the state quietly, and alike in states that are
alike. -/
structure Settles {σ α : Type} [Stage σ] (likeness : Likeness) (given : Prop)
    (run other : EStateM Interruption σ α) (claim : α -> α -> Prop) : Prop where
  quiet (before : σ) : (Stage.state before).Quiet (Stage.last (run before))
  alike (before further : σ) : given -> Stage.Like likeness before further ->
    EndsAlike likeness claim before further (run before) (other further)

/-- Two computations have the same result, of which something is known. -/
def Agree {α : Type} (known : α -> Prop) (result other : α) : Prop :=
  other = result ∧ known result

/-- Two bodies may yield equally often, or as often as limits allow that are
related. -/
inductive Likeness.YieldLimits
    (likeness : Likeness) : Option Nat -> Option Nat -> Prop
  | none : YieldLimits likeness none none
  | some {limits other : Limits} :
      likeness.limits limits other ->
        YieldLimits likeness (some limits.generatorYields)
          (some other.generatorYields)

/-- What is known of two computations that start in states that are alike. -/
structure Coupling (likeness : Likeness) where
  InStep {σ α : Type} [Stage σ] (given : Prop)
      (run other : EStateM Interruption σ α)
    (claim : α -> α -> Prop) : Prop
  /-- More may be given, and less claimed. -/
  imp {σ α : Type} [Stage σ] {given known : Prop}
      {run other : EStateM Interruption σ α}
    {claim further : α -> α -> Prop} :
    InStep given run other claim -> (known -> given) ->
      (known -> ∀ result last, claim result last -> further result last) ->
        InStep known run other further
  /-- The second computation may be described otherwise. -/
  replace {σ α : Type} [Stage σ] {given : Prop}
      {run other last : EStateM Interruption σ α}
    {claim : α -> α -> Prop} :
    InStep given run other claim -> (given -> last = other) ->
      InStep given run last claim
  settled {σ α : Type} [Stage σ] {given : Prop}
      {run other : EStateM Interruption σ α}
    {claim : α -> α -> Prop} :
    Settles likeness given run other claim -> InStep given run other claim
  /-- What follows is given what is claimed of the results of the first part. -/
  bind {σ α β : Type} [Stage σ] {given : Prop}
      {run other : EStateM Interruption σ α}
    {next last : α -> EStateM Interruption σ β} {claim : α -> α -> Prop}
    {further : β -> β -> Prop} :
    InStep given run other claim ->
      (∀ result final, InStep (given ∧ claim result final) (next result)
        (last final) further) ->
        InStep given (run >>= next) (other >>= last) further
  lift {α : Type} {given : Prop} {run other : RunM α} {claim : α -> α -> Prop} :
    InStep given run other claim ->
      InStep given (BodyM.lift run) (BodyM.lift other) claim
  stall {α : Type} {given : Prop} {claim : α -> α -> Prop} :
    InStep given (throw .stalled : RunM α) (throw .stalled) claim
  /-- A limit is checked before anything else is done. -/
  within {α : Type} {given : Prop} {run other : RunM α} {claim : α -> α -> Prop}
    {limits further : Limits} (depth : Depth) :
    (given -> likeness.limits limits further) -> InStep given run other claim ->
      InStep given
        (if limits.callDepth < depth
          then RunM.fail (.callDepthExceeded limits.callDepth) else run)
        (if further.callDepth < depth
          then RunM.fail (.callDepthExceeded further.callDepth)
          else other) claim
  /-- Bodies may get hold of every new function, unless it is withheld. -/
  newFunction {given : Prop} {cell other : FunctionCell} :
    (given -> cell.Like likeness other) ->
      InStep given (RunM.allocate (·.newFunction cell))
        (RunM.allocate (·.newFunction other)) (Agree fun function =>
          (cell.kind.isWithheld = false ->
            likeness.visible (.function function)) ∧
            (cell.kind = .constructor -> likeness.constructs function))
  /-- A body that bodies may get hold of is entered. -/
  enters {given : Prop} {call other : Caller} {context last : Context}
      {entry : BodyEntry}
    {body further : Expr} :
    InStep given (evaluate call context body) (evaluate other last further)
        (Agree likeness.visible) ->
      (given -> likeness.visible (.function entry.function)) ->
        InStep given (runInFrame call context entry body)
          (runInFrame other last entry further)
          (Agree fun result => likeness.visible result.1 ∧
            likeness.AllVisible result.2.values)
  /-- The keys of a class are evaluated in order, and a fault is wrapped
  with an index. -/
  keys {given : Prop} {call other : Invoker} {scope : ScopeRef}
      {limits further : Limits}
    {written last : List (MemberKey PropertyKey Expr)} :
    List.Forall₂ (fun key final =>
        InStep given (evaluateKey call scope limits key)
        (evaluateKey other scope further final)
        (Agree fun _ => True)) written last ->
      InStep given (evaluateKeys call scope limits 0 written)
        (evaluateKeys other scope further 0 last) (Agree fun _ => True)
  /-- The limit of yields is checked before a yield is collected. -/
  yields {given : Prop} {frame : Frame} {limit : Option Nat} {value : Value} :
    (given -> likeness.YieldLimits frame.yieldLimit limit) ->
      (given -> likeness.visible value) ->
      InStep given (yieldValue frame value)
        (yieldValue { frame with yieldLimit := limit } value)
        (Agree fun _ => True)
  /-- A fault is shown in the log before it is handled. -/
  attempt {α : Type} {given : Prop} {run other : BodyM α}
      {handler last : Failure -> BodyM α}
    {claim : α -> α -> Prop} :
    (given -> likeness.catches) -> InStep given run other claim ->
      (∀ cause, InStep given (showFault cause) (showFault cause)
        (Agree fun _ => True)) ->
      (∀ cause, InStep given (handler cause) (last cause) claim) ->
        InStep given
          (BodyM.catchFault run fun cause => do
            let shown ← showFault cause
            RunM.log (.fault shown)
            handler cause)
          (BodyM.catchFault other fun cause => do
            let shown ← showFault cause
            RunM.log (.fault shown)
            last cause) claim

namespace Coupling

variable {likeness : Likeness} {coupling : Coupling likeness}
  {σ α β : Type} [Stage σ]
variable {given : Prop}

namespace InStep

section Stages

variable {run other : EStateM Interruption σ α} {claim : α -> α -> Prop}

/-- What is given may be replaced by what implies it. -/
theorem mono
    {known : Prop}
    (runs : coupling.InStep given run other claim)
    (implies : known -> given) :
    coupling.InStep known run other claim :=
  coupling.imp runs implies fun _ _ _ holds => holds

/-- Less may be claimed of results that agree. -/
theorem weaken
    {known further : α -> Prop}
    (runs : coupling.InStep given run other (Agree known))
    (implies : given -> ∀ result, known result -> further result) :
    coupling.InStep given run other (Agree further) :=
  coupling.imp runs id fun holds result _ agree =>
    ⟨agree.1, implies holds result agree.2⟩

/-- What follows two results that agree is given what is known of them. -/
theorem bind
    {next last : α -> EStateM Interruption σ β}
    {known : α -> Prop}
    {further : β -> β -> Prop}
    (first : coupling.InStep given run other (Agree known))
    (rest : ∀ result, coupling.InStep (given ∧ known result) (next result)
      (last result) further) :
    coupling.InStep given (run >>= next) (other >>= last) further := by
  refine coupling.bind first fun result final => ?_
  refine coupling.replace (mono (rest result) fun facts => ⟨facts.1, facts.2.2⟩)
    fun facts => ?_
  rw [facts.2.1]

/-- Results that agree are in step. -/
theorem pure
    {known : α -> Prop}
    {result : α}
    (holds : given -> known result) :
    coupling.InStep given (Pure.pure result : EStateM Interruption σ α)
      (Pure.pure result) (Agree known) :=
  coupling.settled
    { quiet := fun _ => .refl _
      alike := fun _ _ facts like => .ok ⟨rfl, holds facts⟩ like }

end Stages

section Runs

variable {run other : RunM α} {known : α -> Prop} {claim : α -> α -> Prop}

/-- The same fault is raised in both. -/
theorem fail
    (cause : Failure)
    (unwrapped : cause.isWrapped = false) :
    coupling.InStep given (RunM.fail cause : RunM α) (RunM.fail cause) claim :=
  coupling.settled
    { quiet := fun _ => .refl _
      alike := fun _ _ _ _ => .fault unwrapped }

/-- The same type fault is raised in both. -/
theorem failType (cause : TypeFault) :
    coupling.InStep given (RunM.failType cause : RunM α)
      (RunM.failType cause) claim :=
  fail (.type cause) rfl

/-- The same fault of a body is raised in both. -/
theorem failBody (cause : TypeFault) :
    coupling.InStep given (BodyM.lift (RunM.failType cause : RunM α))
      (BodyM.lift (RunM.failType cause)) claim :=
  coupling.lift (failType cause)

/-- A look at the state shows the same in both. -/
theorem look
    {see : State -> α}
    (same : given -> ∀ state further : State, state.Like likeness further ->
      see further = see state ∧ known (see state)) :
    coupling.InStep given (fun state => .ok (see state) state : RunM α)
      (fun state => .ok (see state) state) (Agree known) :=
  coupling.settled
    { quiet := fun _ => .refl _
      alike := fun before further facts like =>
        .ok (same facts before further like) like }

/-- A look at the heap shows the same in both. -/
theorem readHeap
    {read : Heap -> α}
    (same : given -> ∀ heap further : Heap, heap.Like likeness further ->
      read further = read heap ∧ known (read heap)) :
    coupling.InStep given (RunM.readHeap read) (RunM.readHeap read)
      (Agree known) :=
  look fun facts state further like =>
    same facts state.heap further.heap like.heap

/-- A look at the heap that says nothing about what bodies may get hold of. -/
theorem readHeap'
    {read : Heap -> α}
    (same : ∀ heap further : Heap, heap.Like likeness further ->
      read further = read heap) :
    coupling.InStep given (RunM.readHeap read) (RunM.readHeap read)
      (Agree fun _ => True) :=
  readHeap fun _ heap further like => ⟨same heap further like, trivial⟩

/-- A look at the session shows the same in both. -/
theorem readSession
    {read : Session -> α}
    (holds : ∀ session : Session,
      likeness.AllVisible session.storedValues.values -> known (read session)) :
    coupling.InStep given (RunM.readSession read) (RunM.readSession read)
      (Agree known) :=
  look fun _ state _ like =>
    ⟨congrArg read like.session, holds state.session like.stored⟩

/-- A look at the session that says nothing about what bodies may get hold
of. -/
theorem readSession'
    {read : Session -> α} :
    coupling.InStep given (RunM.readSession read) (RunM.readSession read)
      (Agree fun _ => True) :=
  readSession fun _ _ => trivial

/-- A change of the heap that is alike in both. -/
theorem changeHeap
    {change further : Heap -> Heap}
    (quiet : ∀ heap : Heap, heap.Quiet (change heap))
    (alike : given -> ∀ heap other : Heap, heap.Like likeness other ->
      (change heap).Like likeness (further other)) :
    coupling.InStep given (RunM.changeHeap change) (RunM.changeHeap further)
      (Agree fun _ => True) :=
  coupling.settled
    { quiet := fun before => .of_heap (quiet before.heap)
      alike := fun before other facts like => .ok ⟨rfl, trivial⟩
        ⟨alike facts before.heap other.heap like.heap, like.session,
          like.record, like.stored⟩ }

/-- A change of the heap with a result that is alike in both. -/
theorem allocate
    {change further : Heap -> α × Heap}
    (quiet : ∀ heap : Heap, heap.Quiet (change heap).2)
    (alike : given -> ∀ heap other : Heap, heap.Like likeness other ->
      ((further other).1 = (change heap).1 ∧
        (change heap).2.Like likeness (further other).2) ∧
        known (change heap).1) :
    coupling.InStep given (RunM.allocate change) (RunM.allocate further)
      (Agree known) :=
  coupling.settled
    { quiet := fun before => .of_heap (quiet before.heap)
      alike := fun before other facts like => by
        obtain ⟨⟨same, heap⟩, holds⟩ :=
          alike facts before.heap other.heap like.heap
        exact .ok ⟨same, holds⟩ ⟨heap, like.session, like.record, like.stored⟩ }

/-- A change of the heap with a result that says nothing about what bodies
may get hold of. -/
theorem allocate'
    {change further : Heap -> α × Heap}
    (quiet : ∀ heap : Heap, heap.Quiet (change heap).2)
    (alike : given -> ∀ heap other : Heap, heap.Like likeness other ->
      (further other).1 = (change heap).1 ∧
        (change heap).2.Like likeness (further other).2) :
    coupling.InStep given (RunM.allocate change) (RunM.allocate further)
      (Agree fun _ => True) :=
  allocate quiet fun facts heap other like =>
    ⟨alike facts heap other like, trivial⟩

/-- A change of the session is the same in both. -/
theorem changeSession
    {change : Session -> Session}
    (log : ∀ session, session.log <:+ (change session).log)
    (stored : given -> ∀ session : Session,
      likeness.AllVisible session.storedValues.values ->
      likeness.AllVisible (change session).storedValues.values) :
    coupling.InStep given (RunM.changeSession change)
      (RunM.changeSession change) (Agree fun _ => True) :=
  coupling.settled
    { quiet := fun before => .of_session (log before.session)
      alike := fun before _ facts like => .ok ⟨rfl, trivial⟩
        ⟨like.heap, congrArg change like.session, like.record,
          stored facts before.session like.stored⟩ }

/-- A change of the session with a result is the same in both. -/
theorem stepSession
    {change : Session -> α × Session}
    (log : ∀ session, (change session).2.log = session.log)
    (stored : ∀ session, (change session).2.storedValues =
      session.storedValues) :
    coupling.InStep given (RunM.stepSession change) (RunM.stepSession change)
      (Agree fun _ => True) :=
  coupling.settled
    { quiet := fun before => .of_session (log before.session ▸ List.suffix_rfl)
      alike := fun before _ _ like => .ok
        ⟨congrArg (fun session => (change session).1) like.session, trivial⟩
        ⟨like.heap, congrArg (fun session => (change session).2) like.session,
          like.record, (stored before.session).symm ▸ like.stored⟩ }

/-- Runs for some items, one after another. -/
theorem mapM
    {action : α -> RunM β}
    (items : List α)
    (each : ∀ item, coupling.InStep given (action item) (action item)
      (Agree fun _ => True)) :
    coupling.InStep given (items.mapM action) (items.mapM action)
      (Agree fun _ => True) := by
  induction items with
  | nil => exact pure fun _ => trivial
  | cons item rest hypothesis =>
      rw [List.mapM_cons]
      refine bind (each item) fun _ => ?_
      refine bind (mono hypothesis And.left) fun _ => ?_
      exact pure fun _ => trivial

end Runs

end InStep

/-- Two invokers run in step whatever bodies may get hold of. -/
def Calls (coupling : Coupling likeness) (call other : Invoker) : Prop :=
  ∀ invocation : Invocation,
    coupling.InStep
      (likeness.visible (.function invocation.function) ∧
        likeness.visible invocation.receiver ∧
        likeness.AllVisible invocation.args)
      (call invocation) (other invocation) (Agree likeness.visible)

/-- Two invokers run bodies in step, and so they construct objects. -/
structure Serves (coupling : Coupling likeness)
    (call other : Invoker) : Prop where
  calls : coupling.Calls call other
  constructs (klass : ClassRef) (args : List Value) (depth : Depth) :
    coupling.InStep (likeness.AllVisible args) (construct call klass args depth)
      (construct other klass args depth) (Agree likeness.visible)

end Coupling

end ClassLowering
