import ClassLowering.Proofs.Depths.Refusals
import ClassLowering.Proofs.Objects.SharedEntries

/-!
# Invocations of properties

The host and a running body invoke a property of an object each in its own way.
Both look for the callee first: among the own fields, then among the entries of
the prototype, where a getter runs to find it. What is found decides the rest. A
function is called with the object as receiver, a class meets its guard, and
anything else is no function. An accessor without getter and a getter that is
interrupted end the invocation before any of that.

The two ways are therefore the same wherever they start at the same depth. The
depth is looked at by the functions alone, each on its own entry, and so after
the callee is found.
-/

namespace ClassLowering

/-- The value that a property key is of its own. -/
def PropertyKey.toValue : PropertyKey -> Value
  | .ofText text => .string text
  | .ofSymbol symbol => .symbol symbol

/-- A key that is a value is converted to itself. -/
theorem toKey_toValue
    (call : Invoker)
    (key : PropertyKey)
    (depth : Depth)
    (state : State) :
    toKey call key.toValue depth state = .ok key state := by
  cases key <;> rfl

section Courses

variable (call : Invoker) (ref : ObjectRef) (key : PropertyKey)
  (args : List Value) (depth : Depth) (before : State)

/-- What is found under a key of an object, and the state in which it is
known. -/
inductive FindsValue : Value -> State -> Prop
  /-- An own field comes before all entries. -/
  | ownField {value : Value}
      (owned : (before.heap.object ref).fields.find? key = some value) :
      FindsValue value before
  /-- A method is found as its function, whether it is a generator or not. -/
  | method {function : FunctionRef}
      (unowned : (before.heap.object ref).fields.find? key = none)
      (shared : before.heap.sharedMember? ref key = some (.method function)) :
      FindsValue (.function function) before
  /-- The link of the prototype is found as the class. -/
  | link {klass : ClassRef}
      (unowned : (before.heap.object ref).fields.find? key = none)
      (classed : (before.heap.object ref).klass = some klass)
      (shared : before.heap.sharedMember? ref key = some .constructor) :
      FindsValue (.klass klass) before
  /-- A getter runs, and what it returns is found. -/
  | getter {getter : FunctionRef} {setter : Option FunctionRef} {value : Value}
      {after : State}
      (unowned : (before.heap.object ref).fields.find? key = none)
      (shared : before.heap.sharedMember? ref key =
        some (.accessor (some getter) setter))
      (returned : call ⟨getter, .object ref, [], depth⟩ before =
        .ok value after) :
      FindsValue value after
  /-- Under a key that nobody has, `undefined` is found. -/
  | absent
      (unowned : (before.heap.object ref).fields.find? key = none)
      (unshared : before.heap.sharedMember? ref key = none) :
      FindsValue .undefined before

/-- How the invocation of a property of an object at a depth ends. -/
inductive InvocationEnds : EStateM.Result Interruption State Value -> Prop
  /-- An accessor without getter is refused before anything runs. -/
  | oneSided {setter : Option FunctionRef}
      (unowned : (before.heap.object ref).fields.find? key = none)
      (shared : before.heap.sharedMember? ref key =
        some (.accessor none setter)) :
      InvocationEnds (.error (.fault (.accessorMissing key .get)) before)
  /-- What interrupts the getter interrupts the invocation. -/
  | interrupted {getter : FunctionRef} {setter : Option FunctionRef}
      {interruption : Interruption} {after : State}
      (unowned : (before.heap.object ref).fields.find? key = none)
      (shared : before.heap.sharedMember? ref key =
        some (.accessor (some getter) setter))
      (ended : call ⟨getter, .object ref, [], depth⟩ before =
        .error interruption after) :
      InvocationEnds (.error interruption after)
  /-- A function is called with the object as receiver. -/
  | called {function : FunctionRef} {after : State}
      (found : FindsValue call ref key depth before
        (.function function) after) :
      InvocationEnds (call ⟨function, .object ref, args, depth⟩ after)
  /-- A class meets its guard, with the name that it has where it was found. -/
  | guarded {klass : ClassRef} {after : State}
      (found : FindsValue call ref key depth before (.klass klass) after) :
      InvocationEnds
        (.error (.fault (.invocation (after.heap.klass klass).name)) after)
  /-- Anything else is no function. The fault names the key. -/
  | uncallable {value : Value} {after : State}
      (found : FindsValue call ref key depth before value after)
      (noFunction : ∀ function, value ≠ .function function)
      (noClass : ∀ klass, value ≠ .klass klass) :
      InvocationEnds (.error (.fault (.type (.notFunction key.display))) after)

end Courses

namespace Heap

variable {heap : Heap} {ref : ObjectRef} {key : PropertyKey}

/-- An own field is read as its value. -/
theorem readPlan_of_owned
    {value : Value}
    (owned : (heap.object ref).fields.find? key = some value) :
    heap.readPlan ref key = .value value := by
  simp only [readPlan, owned]

/-- What nobody has is read as `undefined`. -/
theorem readPlan_of_unshared
    (unowned : (heap.object ref).fields.find? key = none)
    (unshared : heap.sharedMember? ref key = none) :
    heap.readPlan ref key = .value .undefined := by
  simp only [readPlan, unowned]
  cases classed : (heap.object ref).klass with
  | none => rfl
  | some klass =>
      rw [sharedMember?, prototype?, classed, Option.map_some,
        Option.bind_some] at unshared
      simp only [unshared, entryReadPlan]

/-- Without an own field, an entry of the prototype is read as what it means. -/
theorem readPlan_of_entry
    {klass : ClassRef}
    {entry : PrototypeEntry}
    (unowned : (heap.object ref).fields.find? key = none)
    (classed : (heap.object ref).klass = some klass)
    (shared : heap.sharedMember? ref key = some entry) :
    heap.readPlan ref key = entryReadPlan klass (some entry) := by
  rw [sharedMember?, prototype?, classed, Option.map_some,
    Option.bind_some] at shared
  simp only [readPlan, unowned, classed, shared]

/-- An object with an entry of a prototype has a class. -/
theorem exists_klass_of_shared
    {entry : PrototypeEntry}
    (shared : heap.sharedMember? ref key = some entry) :
    ∃ klass, (heap.object ref).klass = some klass := by
  obtain ⟨klass, classed, -⟩ := sharedMember?_eq_some_iff.1 shared
  exact ⟨klass, classed⟩

end Heap

section Paths

variable {call : Invoker} {ref : ObjectRef} {key : PropertyKey}
  {args : List Value} {depth : Depth}
  {before after : State}

/-- What is found is what a read ends with. -/
theorem FindsValue.reads
    {value : Value}
    (found : FindsValue call ref key depth before value after) :
    readObject call ref key depth before = .ok value after := by
  rw [readObject_apply]
  cases found with
  | ownField owned => rw [Heap.readPlan_of_owned owned]
  | method unowned shared =>
      obtain ⟨klass, classed⟩ := Heap.exists_klass_of_shared shared
      rw [Heap.readPlan_of_entry unowned classed shared]
      rfl
  | link unowned classed shared =>
      rw [Heap.readPlan_of_entry unowned classed shared]
      rfl
  | getter unowned shared returned =>
      obtain ⟨klass, classed⟩ := Heap.exists_klass_of_shared shared
      rw [Heap.readPlan_of_entry unowned classed shared]
      exact returned
  | absent unowned unshared => rw [Heap.readPlan_of_unshared unowned unshared]

/-- An accessor without getter cannot be read. -/
theorem readObject_of_oneSided
    {setter : Option FunctionRef}
    (unowned : (before.heap.object ref).fields.find? key = none)
    (shared : before.heap.sharedMember? ref key =
      some (.accessor none setter)) :
    readObject call ref key depth before =
      .error (.fault (.accessorMissing key .get)) before := by
  obtain ⟨klass, classed⟩ := Heap.exists_klass_of_shared shared
  rw [readObject_apply, Heap.readPlan_of_entry unowned classed shared]
  rfl

/-- A read ends as its getter does. -/
theorem readObject_of_getter
    {getter : FunctionRef}
    {setter : Option FunctionRef}
    (unowned : (before.heap.object ref).fields.find? key = none)
    (shared : before.heap.sharedMember? ref key =
      some (.accessor (some getter) setter)) :
    readObject call ref key depth before =
      call ⟨getter, .object ref, [], depth⟩ before := by
  obtain ⟨klass, classed⟩ := Heap.exists_klass_of_shared shared
  rw [readObject_apply, Heap.readPlan_of_entry unowned classed shared]
  rfl

/-- What a path does with the value that it found under a key of an object. -/
structure DispatchesCallee (call : Invoker) (ref : ObjectRef)
    (key : PropertyKey)
    (args : List Value) (depth : Depth)
    (dispatch : Value -> RunM Value) : Prop where
  calls : ∀ function, dispatch (.function function) =
    call ⟨function, .object ref, args, depth⟩
  guards : ∀ klass state, dispatch (.klass klass) state =
    .error (.fault (.invocation (state.heap.klass klass).name)) state
  refuses : ∀ value, (∀ function, value ≠ .function function) ->
    (∀ klass, value ≠ .klass klass) ->
    dispatch value = RunM.failType (.notFunction key.display)

/-- A body calls a value that is callable, after it has looked whether the value
is. -/
theorem dispatchesCallee_inBody
    (call : Invoker)
    (ref : ObjectRef)
    (key : PropertyKey)
    (args : List Value)
    (depth : Depth) :
    DispatchesCallee call ref key args depth fun callee =>
      match callee with
      | .function _ | .klass _ => callValue call callee (.object ref) args depth
      | _ => RunM.failType (.notFunction key.display) where
  calls _ := rfl
  guards _ _ := rfl
  refuses value noFunction noClass := by
    cases value with
    | function function => exact absurd rfl (noFunction function)
    | klass klass => exact absurd rfl (noClass klass)
    | _ => rfl

/-- The host tells the three kinds of callees apart itself. -/
theorem dispatchesCallee_fromOutside
    (call : Invoker)
    (ref : ObjectRef)
    (key : PropertyKey)
    (args : List Value) :
    DispatchesCallee call ref key args 1 fun callee =>
      match callee with
      | .function function => call ⟨function, .object ref, args, 1⟩
      | .klass klass => do RunM.fail (← RunM.readHeap (·.guardFault klass))
      | _ => RunM.failType (.notFunction key.display) where
  calls _ := rfl
  guards _ _ := rfl
  refuses value noFunction noClass := by
    cases value with
    | function function => exact absurd rfl (noFunction function)
    | klass klass => exact absurd rfl (noClass klass)
    | _ => rfl

/-- A path that reads the callee and then dispatches it takes the course of
the invocation. -/
theorem InvocationEnds.dispatch_eq
    {dispatch : Value -> RunM Value}
    {ended : EStateM.Result Interruption State Value}
    (ends : InvocationEnds call ref key args depth before ended)
    (dispatches : DispatchesCallee call ref key args depth dispatch) :
    (readObject call ref key depth >>= dispatch) before = ended := by
  cases ends with
  | oneSided unowned shared =>
      exact RunM.bind_of_error (readObject_of_oneSided unowned shared)
  | interrupted unowned shared ended =>
      exact RunM.bind_of_error
        ((readObject_of_getter unowned shared).trans ended)
  | @called function _ found =>
      rw [RunM.bind_of_ok found.reads, dispatches.calls function]
  | @guarded klass after found =>
      rw [RunM.bind_of_ok found.reads, dispatches.guards klass after]
  | @uncallable value after found noFunction noClass =>
      rw [RunM.bind_of_ok found.reads,
        dispatches.refuses value noFunction noClass]
      rfl

/-- The way of a body takes the course of the invocation. -/
theorem InvocationEnds.invokeProperty_eq
    {ended : EStateM.Result Interruption State Value}
    (ends : InvocationEnds call ref key args depth before ended) :
    invokeProperty call (.object ref) key args depth before = ended :=
  ends.dispatch_eq (dispatchesCallee_inBody call ref key args depth)

/-- The way of the host takes the course of the invocation at the depth at
which runs start. -/
theorem InvocationEnds.invokeObject_eq
    {ended : EStateM.Result Interruption State Value}
    (ends : InvocationEnds call ref key args 1 before ended) :
    invokeObject call ref key args before = ended :=
  ends.dispatch_eq (dispatchesCallee_fromOutside call ref key args)

/-- What is found decides how an invocation ends. -/
theorem FindsValue.exists_invocationEnds
    {value : Value}
    (found : FindsValue call ref key depth before value after) :
    ∃ ended, InvocationEnds call ref key args depth before ended := by
  cases value with
  | function function => exact ⟨_, .called found⟩
  | klass klass => exact ⟨_, .guarded found⟩
  | _ =>
      exact ⟨_, .uncallable found (fun _ same => by cases same)
        fun _ same => by cases same⟩

/-- Every invocation has a course. -/
theorem exists_invocationEnds
    (call : Invoker)
    (ref : ObjectRef)
    (key : PropertyKey)
    (args : List Value)
    (depth : Depth)
    (before : State) :
    ∃ ended, InvocationEnds call ref key args depth before ended := by
  cases unowned : (before.heap.object ref).fields.find? key with
  | some value => exact FindsValue.exists_invocationEnds (.ownField unowned)
  | none =>
      cases shared : before.heap.sharedMember? ref key with
      | none => exact FindsValue.exists_invocationEnds (.absent unowned shared)
      | some entry =>
          match entry with
          | .constructor =>
              obtain ⟨klass, classed⟩ := Heap.exists_klass_of_shared shared
              exact FindsValue.exists_invocationEnds
                (.link unowned classed shared)
          | .method function =>
              exact FindsValue.exists_invocationEnds (.method unowned shared)
          | .accessor none setter => exact ⟨_, .oneSided unowned shared⟩
          | .accessor (some getter) setter =>
              cases ended : call ⟨getter, .object ref, [], depth⟩ before with
              | ok value after =>
                  exact FindsValue.exists_invocationEnds
                    (.getter unowned shared ended)
              | error interruption after =>
                  exact ⟨_, .interrupted unowned shared ended⟩

/-- An invocation ends as its course says, and in no other way. -/
theorem invokeProperty_eq_iff
    {ended : EStateM.Result Interruption State Value} :
    invokeProperty call (.object ref) key args depth before = ended ↔
      InvocationEnds call ref key args depth before ended := by
  refine ⟨fun equal => ?_, InvocationEnds.invokeProperty_eq⟩
  obtain ⟨other, course⟩ := exists_invocationEnds call ref key args depth before
  rwa [← equal, course.invokeProperty_eq]

/-- A function beyond its limit is refused where it was found, and does not
run. -/
theorem FindsValue.invocationEnds_of_deep
    {caller : Caller}
    {holding : Holding}
    {function : FunctionRef}
    (found : FindsValue (enterFunction caller holding) ref key depth before
      (.function function) after)
    (deep : (after.heap.function function).limits.callDepth < depth) :
    InvocationEnds (enterFunction caller holding) ref key args depth before
      (.error (.fault (.callDepthExceeded
        (after.heap.function function).limits.callDepth)) after) := by
  have refused :
      enterFunction caller holding ⟨function, .object ref, args, depth⟩ after =
        .error (.fault (.callDepthExceeded
          (after.heap.function function).limits.callDepth)) after :=
    enterFunction_of_deep caller holding deep
  rw [← refused]
  exact .called found

end Paths

/-- The host and a body invoke a property of an object alike. -/
structure InvokesAlike (ref : ObjectRef) (key : PropertyKey)
    (args : List Value) : Prop where
  /-- At the same depth both do the same: they end alike, in the same state. -/
  same : ∀ call before, invokeObject call ref key args before =
    invokeProperty call (.object ref) key args 1 before
  /-- What they do is the course of the invocation, at every depth. -/
  course : ∀ call depth before ended,
    invokeProperty call (.object ref) key args depth before = ended ↔
      InvocationEnds call ref key args depth before ended
  /-- A function beyond its limit is refused once it is found. -/
  functionRefused : ∀ caller holding depth before function after,
    FindsValue (enterFunction caller holding) ref key depth before
      (.function function) after ->
      (after.heap.function function).limits.callDepth < depth ->
        invokeProperty (enterFunction caller holding)
          (.object ref) key args depth before =
          .error (.fault (.callDepthExceeded
            (after.heap.function function).limits.callDepth)) after
  /-- A getter beyond its limit is refused before anything runs. -/
  getterRefused : ∀ caller holding depth (before : State) getter setter,
    (before.heap.object ref).fields.find? key = none ->
      before.heap.sharedMember? ref key =
        some (.accessor (some getter) setter) ->
        (before.heap.function getter).limits.callDepth < depth ->
          invokeProperty (enterFunction caller holding)
            (.object ref) key args depth before =
            .error (.fault (.callDepthExceeded
              (before.heap.function getter).limits.callDepth)) before
  /-- The host invokes at the depth at which runs start. -/
  byHost : ∀ call keyDepth before,
    performHost call keyDepth .invokeProperty
      (.object ref :: key.toValue :: args) before =
      invokeObject call ref key args before
  /-- A body invokes one level below its own depth. -/
  inBody : ∀ call (frame : Frame) before,
    enterFrom call frame .invoke (.object ref :: key.toValue :: args) before =
      invokeProperty call (.object ref) key args (frame.depth + 1) before

/-- Every property of every object is invoked by the host as it is by a body. -/
theorem invokesAlike
    (ref : ObjectRef)
    (key : PropertyKey)
    (args : List Value) :
    InvokesAlike ref key args where
  same call before := by
    obtain ⟨ended, course⟩ := exists_invocationEnds call ref key args 1 before
    rw [course.invokeObject_eq, course.invokeProperty_eq]
  course _ _ _ _ := invokeProperty_eq_iff
  functionRefused _ _ _ _ _ _ found deep :=
    (found.invocationEnds_of_deep deep).invokeProperty_eq
  getterRefused caller holding _ _ _ _ unowned shared deep :=
    (InvocationEnds.interrupted unowned shared
      (enterFunction_of_deep caller holding deep)).invokeProperty_eq
  byHost call keyDepth before :=
    RunM.bind_of_ok (toKey_toValue call key keyDepth before)
  inBody call frame before :=
    RunM.bind_of_ok (toKey_toValue call key frame.depth before)

end ClassLowering
