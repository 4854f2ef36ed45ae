import ClassLowering.Proofs.Heap.Accesses
import ClassLowering.Proofs.Runs.Programs

/-!
# The guard of classes

A value is called by the host or by a running body, as it is or as what a
property holds. On every route the callee is found first. If it is a class, the
guard refuses the call with the name of the class, in the very state in which
the class was found.

So nothing runs but a getter, where one has to run to find the callee. No depth
is looked at: a call is refused in the same way wherever it comes from.
-/

namespace ClassLowering

/-- The getter that a read of a property asks for, if it asks for one. -/
def Heap.getterRequest? (heap : Heap) (ref : ObjectRef) (key : PropertyKey)
    (depth : Depth) :
    Option Invocation :=
  match heap.readPlan ref key with
  | .run getter => some ⟨getter, .object ref, [], depth⟩
  | _ => none

/-- A read that asks for no getter leaves the state as it is. -/
theorem readObject_of_quiet
    {call : Invoker}
    {ref : ObjectRef}
    {key : PropertyKey}
    {depth : Depth}
    {before after : State}
    {value : Value}
    (reads : readObject call ref key depth before = .ok value after)
    (quiet : before.heap.getterRequest? ref key depth = none) :
    after = before := by
  rw [readObject_apply] at reads
  cases plan : before.heap.readPlan ref key with
  | value own =>
      rw [plan] at reads
      cases reads
      rfl
  | run getter => simp [Heap.getterRequest?, plan] at quiet
  | noGetter =>
      rw [plan] at reads
      cases reads

/-- A read that asks for a getter does what the getter does. -/
theorem readObject_of_getterRequest?
    {call : Invoker}
    {ref : ObjectRef}
    {key : PropertyKey}
    {depth : Depth}
    {request : Invocation}
    {state : State}
    (asks : state.heap.getterRequest? ref key depth = some request) :
    readObject call ref key depth state = call request state := by
  rw [readObject_apply]
  unfold Heap.getterRequest? at asks
  split at asks
  next getter plan =>
    cases asks
    rw [plan]
  next => cases asks

/-- The result of a read depends on the getter alone that it asks for. -/
theorem readObject_congr
    {call other : Invoker}
    {ref : ObjectRef}
    {key : PropertyKey}
    {depth : Depth}
    {state : State}
    (agrees : ∀ request ∈ state.heap.getterRequest? ref key depth,
      other request state = call request state) :
    readObject other ref key depth state =
      readObject call ref key depth state := by
  cases asks : state.heap.getterRequest? ref key depth with
  | some request =>
      rw [readObject_of_getterRequest? asks, readObject_of_getterRequest? asks]
      exact agrees request asks
  | none =>
      rw [readObject_apply, readObject_apply]
      cases plan : state.heap.readPlan ref key with
      | run getter => simp [Heap.getterRequest?, plan] at asks
      | value value => rfl
      | noGetter => rfl

/-- Reading a property of a value that is no object leaves the state as it
is. -/
theorem readProperty_of_noObject
    {call : Invoker}
    {target : Value}
    {key : PropertyKey}
    {depth : Depth}
    {before after : State}
    {value : Value}
    (noObject : ∀ ref, target ≠ .object ref)
    (reads : readProperty call target key depth before = .ok value after) :
    after = before := by
  cases target with
  | object ref => exact absurd rfl (noObject ref)
  | _ => cases reads <;> rfl

/-- The routes on which a value is called. -/
inductive CallRoute
  /-- The host calls a class; keys would be converted at the depth. -/
  | byHost (keyDepth : Depth) (callee : Value) (args : List Value)
  /-- A body calls a value without a receiver. -/
  | byBody (frame : Frame) (callee : Value) (args : List Value)
  /-- A body calls a value with a receiver. -/
  | withReceiver (frame : Frame) (callee receiver : Value) (args : List Value)
  /-- A body calls what a property of a value holds. -/
  | ofProperty (frame : Frame) (target : Value) (key : PropertyKey)
      (args : List Value)
  /-- The host calls what a property of an object holds. -/
  | ofObject (ref : ObjectRef) (key : PropertyKey) (args : List Value)

namespace CallRoute

/-- The whole call on a route. -/
def run (call : Invoker) : CallRoute -> RunM Value
  | byHost keyDepth callee args =>
      performHost call keyDepth .callClass (callee :: args)
  | byBody frame callee args => enterFrom call frame .call (callee :: args)
  | withReceiver frame callee receiver args =>
      enterFrom call frame .callWithReceiver (callee :: receiver :: args)
  | ofProperty frame target key args =>
      invokeProperty call target key args (frame.depth + 1)
  | ofObject ref key args => invokeObject call ref key args

/-- How the callee is found on a route. -/
def callee (call : Invoker) : CallRoute -> RunM Value
  | byHost _ callee _ | byBody _ callee _ | withReceiver _ callee _ _ =>
      return callee
  | ofProperty frame target key _ =>
      readProperty call target key (frame.depth + 1)
  | ofObject ref key _ => readObject call ref key 1

/-- The getter that has to run before the callee is found, if one has to. -/
def request? (heap : Heap) : CallRoute -> Option Invocation
  | ofProperty frame (.object ref) key _ =>
      heap.getterRequest? ref key (frame.depth + 1)
  | ofObject ref key _ => heap.getterRequest? ref key 1
  | _ => none

variable {call other : Invoker} {route : CallRoute} {klass : ClassRef}
  {before after : State}

/-- A call is refused on every route where the callee is a class. -/
theorem run_of_callee
    (found : route.callee call before = .ok (.klass klass) after) :
    route.run call before = .error
      (.fault (after.heap.guardFault klass)) after := by
  cases route with
  | byHost keyDepth callee args
  | byBody frame callee args
  | withReceiver frame callee _ args =>
      cases found
      rfl
  | ofProperty frame target key args => exact RunM.bind_of_ok found
  | ofObject ref key args => exact RunM.bind_of_ok found

/-- Finding a class without a getter leaves the state as it is. -/
theorem eq_of_quiet
    (found : route.callee call before = .ok (.klass klass) after)
    (quiet : route.request? before.heap = none) :
    after = before := by
  cases route with
  | byHost keyDepth callee args
  | byBody frame callee args
  | withReceiver frame callee _ args =>
      cases found
      rfl
  | ofProperty frame target key args =>
      have reads : readProperty call target key (frame.depth + 1) before =
        .ok (.klass klass) after := found
      cases target with
      | object ref => exact readObject_of_quiet reads quiet
      | _ =>
          exact readProperty_of_noObject (fun ref same => by cases same) reads
  | ofObject ref key args => exact readObject_of_quiet found quiet

/-- Where a getter has to run, it is what finds the callee. -/
theorem callee_of_request?
    {request : Invocation}
    {state : State}
    (asks : route.request? state.heap = some request) :
    route.callee call state = call request state := by
  cases route with
  | byHost keyDepth callee args
  | byBody frame callee args
  | withReceiver frame callee _ args =>
      cases asks
  | ofProperty frame target key args =>
      cases target with
      | object ref => exact readObject_of_getterRequest? asks
      | _ => cases asks
  | ofObject ref key args => exact readObject_of_getterRequest? asks

/-- The callee depends on the getter alone that has to run. -/
theorem callee_congr
    {state : State}
    (agrees : ∀ request ∈ route.request? state.heap,
      other request state = call request state) :
    route.callee other state = route.callee call state := by
  cases route with
  | byHost keyDepth callee args
  | byBody frame callee args
  | withReceiver frame callee _ args => rfl
  | ofProperty frame target key args =>
      cases target with
      | object ref => exact readObject_congr agrees
      | _ => rfl
  | ofObject ref key args => exact readObject_congr agrees

/-- A call of a class is refused, and nothing else happens than that the
class is found. -/
structure Guarded (route : CallRoute) (call : Invoker) (klass : ClassRef)
    (before after : State) : Prop where
  /-- The fault has the name of the class, and the state is the one in
  which it was found. -/
  refused : route.run call before =
    .error (.fault (.invocation (after.heap.klass klass).name)) after
  /-- Unless a getter has to run, the call leaves the state as it is. -/
  quiet : route.request? before.heap = none -> after = before
  /-- The call leaves the state as the getter does that has to run, and that is
  asked for once. -/
  getter : ∀ request ∈ route.request? before.heap,
    call request before = .ok (.klass klass) after
  /-- No other body is asked for. -/
  alone : ∀ other : Invoker,
    (∀ request ∈ route.request? before.heap,
      other request before = call request before) ->
      route.run other before = route.run call before

/--
On every route, in every state and at every depth, a call whose callee is a
class is refused by the guard, whatever the arguments and the receiver. The
guard runs nothing and changes nothing.
-/
theorem guarded_of_callee
    (found : route.callee call before = .ok (.klass klass) after) :
    route.Guarded call klass before after where
  refused := run_of_callee found
  quiet := eq_of_quiet found
  getter request asks := (callee_of_request? asks).symm.trans found
  alone other agrees := by
    rw [run_of_callee found, run_of_callee ((callee_congr agrees).trans found)]

/-- A class whose getter makes another class, of which no body may run, and
an object of it. -/
def makingSteps : List Step :=
  let made : ClassForm Expr := {
    blueprint := { name := some "Made", scope := none, body := .empty }
    binding := .expression
    limits := ⟨0, 0⟩ }
  let maker : ClassForm Expr := {
    blueprint := {
      name := some "Maker"
      scope := none
      body := {
        members :=
          [⟨.getter, .literal (.text "made"), false, some (.klass made), [], 0⟩]
        constructor := none } }
    binding := .expression
    limits := .standard }
  [.evaluate (.apply (.host .construct) [.klass maker]) none]

/-- A body that is a hundred levels deep calls the class that the getter
makes. -/
def makingRoute : CallRoute :=
  .ofProperty ⟨⟨0⟩, .undefined, [], ⟨0⟩, 100, none⟩ (.object ⟨0⟩)
    (.ofText "made") [.null]

/-- The getter makes the class, far beyond its limit, and the call of the
class is refused. -/
theorem guarded_of_callee_makingRoute :
    let call := callWithin 2 .none
    let before := Program.endState
      (callWithin 2) Program.initialState makingSteps
    (makingRoute.request? before.heap).isSome = true ∧
      ∃ after, makingRoute.callee call before = .ok (.klass ⟨1⟩) after ∧
        makingRoute.Guarded call ⟨1⟩ before after := by
  intro call before
  have asks : (makingRoute.request? before.heap).isSome = true := by
    decide +kernel
  have finds : (match makingRoute.callee call before with
      | .ok value _ => decide (value = .klass ⟨1⟩)
      | .error _ _ => false) = true := by decide +kernel
  refine ⟨asks, ?_⟩
  cases found : makingRoute.callee call before with
  | error interruption after => simp [found] at finds
  | ok value after =>
      rw [found, decide_eq_true_eq] at finds
      subst finds
      exact ⟨after, rfl, guarded_of_callee found⟩

end CallRoute
end ClassLowering
