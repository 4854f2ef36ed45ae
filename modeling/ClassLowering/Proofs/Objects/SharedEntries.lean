import ClassLowering.Proofs.Depths.Refusals
import ClassLowering.Proofs.Objects.Protocol
import ClassLowering.Proofs.Runs.Moments

/-!
# Properties under the entries of a prototype

Own fields come first on reads and on writes. Still the entry that a prototype
holds under a key settles what becomes of the key, since an object of the class
never has an own field there: a setter runs, a method and the link to the class
refuse, an accessor without the side that is wanted faults. Only under a key
that the prototype lacks is a field written, and read back.

What is refused is refused in the state in which it was tried.
-/

namespace ClassLowering

namespace Heap

variable {heap later : Heap} {ref : ObjectRef} {key : PropertyKey}
  {entry : PrototypeEntry}

/-- What a prototype holds under a key is held by the prototype of a class that
the object has. -/
theorem sharedMember?_eq_some_iff :
    heap.sharedMember? ref key = some entry ↔
      ∃ klass, (heap.object ref).klass = some klass ∧
        (heap.klass klass).prototype.lookup key = some entry := by
  unfold sharedMember? prototype?
  cases (heap.object ref).klass <;> simp

/-- No own field of an object has a key of its prototype. -/
theorem Sound.unowned_of_shared
    (sound : heap.Sound)
    (shared : heap.sharedMember? ref key = some entry) :
    key ∉ (heap.object ref).fields := by
  obtain ⟨klass, linked, found⟩ := sharedMember?_eq_some_iff.1 shared
  intro owned
  have absent := (sound.object ref).apart klass linked key owned
  rw [← Prototype.lookup_eq_none_iff, found] at absent
  cases absent

/-- An object keeps the entries of its prototype. -/
theorem Extends.sharedMember?_eq
    (extension : heap.Extends later)
    (sound : heap.Sound)
    (held : heap.Holds (.object ref))
    (key : PropertyKey) :
    later.sharedMember? ref key = heap.sharedMember? ref key := by
  have same := extension.objectClass_eq ref held
  unfold sharedMember? prototype?
  rw [same]
  cases linked : (heap.object ref).klass with
  | none => rfl
  | some klass =>
      have known := (sound.object ref).klass klass linked
      rw [Option.map_some, Option.map_some, extension.klass_eq klass known]

/-- A write to a key of the prototype comes to what the entry means. -/
theorem Sound.writePlan_of_shared
    (sound : heap.Sound)
    (shared : heap.sharedMember? ref key = some entry) :
    heap.writePlan ref key = Heap.entryWritePlan (some entry) := by
  have unowned := OrderedMap.mem_iff_contains.not.1
    (sound.unowned_of_shared shared)
  rw [writePlan, if_neg unowned, shared]

/-- A read of a key of the prototype comes to what the entry means. -/
theorem Sound.readPlan_of_shared
    {klass : ClassRef}
    (sound : heap.Sound)
    (linked : (heap.object ref).klass = some klass)
    (found : (heap.klass klass).prototype.lookup key = some entry) :
    heap.readPlan ref key = Heap.entryReadPlan klass (some entry) := by
  have unowned := sound.unowned_of_shared
    (sharedMember?_eq_some_iff.2 ⟨klass, linked, found⟩)
  rw [Heap.readPlan, (OrderedMap.find?_eq_none_iff _ _).2 unowned, linked]
  dsimp only
  rw [found]

end Heap

/-- A field is written in one object, and nothing else is different in two
states. -/
structure State.WritesField (before : State) (ref : ObjectRef)
    (key : PropertyKey) (value : Value) (after : State) : Prop where
  /--
  The field has the value, whatever it had before, and the other fields
  keep theirs. A symbol with the number of the key is the key, however
  it is described.
  -/
  find?_eq : ∀ other, (after.heap.object ref).fields.find? other =
    if key == other then some value
      else (before.heap.object ref).fields.find? other
  /-- All fields stay in their places, and a new one comes last. -/
  keys_eq : (after.heap.object ref).fields.keys =
    if key ∈ (before.heap.object ref).fields
      then (before.heap.object ref).fields.keys
    else (before.heap.object ref).fields.keys ++ [key]
  klass_eq : (after.heap.object ref).klass = (before.heap.object ref).klass
  others : ∀ other, other ≠ ref ->
    after.heap.object other = before.heap.object other
  rest_eq : after = { before with heap :=
    { before.heap with objects := after.heap.objects } }

/-- To define a field of an object is to write it and nothing else. -/
theorem State.writesField_defining
    {state : State}
    {ref : ObjectRef}
    (held : state.heap.Holds (.object ref))
    (key : PropertyKey)
    (value : Value) :
    state.WritesField ref key value (state.defining ref key value) where
  find?_eq other := Heap.find?_defineField held key other value
  keys_eq := Heap.keys_defineField held key value
  klass_eq := Heap.objectClass_defineField _ _ _ _ _
  others other different :=
    (state.heap.object_defineField ref other key value).resolve_right
        fun same =>
      different same.1
  rest_eq := rfl

/-- A field that is written changes nothing about what prototypes hold. -/
theorem State.WritesField.sharedMember?_eq
    {before after : State}
    {ref : ObjectRef}
    {key : PropertyKey}
    {value : Value}
    (writes : before.WritesField ref key value after)
    (other : ObjectRef)
    (name : PropertyKey) :
    after.heap.sharedMember? other name =
      before.heap.sharedMember? other name := by
  have sameClass : (after.heap.object other).klass =
      (before.heap.object other).klass := by
    by_cases same : other = ref
    · exact same ▸ writes.klass_eq
    · rw [writes.others other same]
  have sameClasses : after.heap.classes = before.heap.classes := by
    rw [writes.rest_eq]
  unfold Heap.sharedMember? Heap.prototype? Heap.klass
  rw [sameClass, sameClasses]

/-- A field that was defined is read back, and nothing runs. -/
theorem readObject_defining
    {state : State}
    {ref : ObjectRef}
    (held : state.heap.Holds (.object ref))
    (call : Invoker)
    (key : PropertyKey)
    (value : Value)
    (depth : Depth) :
    readObject call ref key depth (state.defining ref key value) =
      .ok value (state.defining ref key value) := by
  have own : ((state.defining ref key value).heap.object ref).fields.find? key =
      some value := by
    rw [State.defining, Heap.find?_defineField held, if_pos BEq.rfl]
  rw [readObject_apply, Heap.readPlan, own]

/-- A write whose setter runs is the run of the setter, but for its result. -/
theorem writeObject_of_setter
    {call : Invoker}
    {ref : ObjectRef}
    {key : PropertyKey}
    {setter : FunctionRef}
    {state : State}
    (plan : state.heap.writePlan ref key = .run setter)
    (value : Value)
    (depth : Depth) :
    writeObject call ref key value depth state =
      match call ⟨setter, .object ref, [value], depth⟩ state with
      | .ok _ after => .ok () after
      | .error interruption after => .error interruption after := by
  rw [writeObject_apply, plan]
  cases ended : call ⟨setter, .object ref, [value], depth⟩ state with
  | ok result after => exact RunM.bind_of_ok ended
  | error interruption after => exact RunM.bind_of_error ended

/-- A write whose setter runs is interrupted as the setter is, and ends where
the setter does. -/
theorem ends_writeObject_of_setter
    {ref : ObjectRef}
    {key : PropertyKey}
    {setter : FunctionRef}
    {state : State}
    (plan : state.heap.writePlan ref key = .run setter)
    (call : Invoker)
    (value : Value)
    (depth : Depth) :
    (writeObject call ref key value depth).interruption? state =
        (call ⟨setter, .object ref, [value], depth⟩).interruption? state ∧
      (writeObject call ref key value depth).endState state =
        (call ⟨setter, .object ref, [value], depth⟩).endState state := by
  rw [RunM.interruption?, RunM.interruption?, RunM.endState, RunM.endState,
    writeObject_of_setter plan value depth]
  cases call ⟨setter, .object ref, [value], depth⟩ state <;> exact ⟨rfl, rfl⟩

/-- A key of the prototype of an object is no own field after any move. -/
theorem State.Moves.unowned_of_shared
    {before after : State}
    {ref : ObjectRef}
    {key : PropertyKey}
    {entry : PrototypeEntry}
    (moves : before.Moves (fun _ => True) after)
    (sound : before.Sound)
    (held : before.heap.Holds (.object ref))
    (shared : before.heap.sharedMember? ref key = some entry) :
    key ∉ (after.heap.object ref).fields := by
  have stillShared : after.heap.sharedMember? ref key = some entry := by
    rw [moves.path.extension.sharedMember?_eq sound.heap held, shared]
  exact (moves.sound sound).heap.unowned_of_shared stillShared

/-- What is done under a key of an object follows from what its
prototype holds there. -/
structure State.FollowsEntry (state : State) (ref : ObjectRef)
    (key : PropertyKey) : Prop where
  /-- A key that the prototype lacks is written as a field and read
  back. No body runs. -/
  free : state.heap.sharedMember? ref key = none -> ∀ value, ∃ after : State,
    state.WritesField ref key value after ∧
      ∀ (call : Invoker) (depth : Depth),
        writeObject call ref key value depth state = .ok () after ∧
          readObject call ref key depth after = .ok value after
  /-- A setter is asked for once, with the object and the value. Its
  result is dropped. -/
  setter : ∀ getter setter,
    state.heap.sharedMember? ref key = some (.accessor getter (some setter)) ->
      ∀ (call : Invoker) value depth,
        writeObject call ref key value depth state =
          match call ⟨setter, .object ref, [value], depth⟩ state with
          | .ok _ after => .ok () after
          | .error interruption after => .error interruption after
  /--
  Its body runs once, and is left as the write is, unless it may not run so
  deep. The key becomes no own field.
  -/
  setterOnce : ∀ getter setter,
    state.heap.sharedMember? ref key = some (.accessor getter (some setter)) ->
      ∀ (stop : State -> Bool) (bound : Nat) (holding : Holding) value depth,
        value.Known state ->
          let limit := (state.heap.function setter).limits.callDepth
          let write :=
            writeObject (enterFunction (callUntil stop bound) holding)
              ref key value
            depth
          key ∉ ((write.endState state).heap.object ref).fields ∧
            if limit < depth then write state =
              .error (.fault (.callDepthExceeded limit)) state
            else BodyEntry.RunsOnce ⟨setter, .object ref, [value], depth⟩
              (write.interruption? state) state (write.endState state)
  noSetter : ∀ getter, state.heap.sharedMember? ref key =
    some (.accessor getter none) -> ∀ (call : Invoker) value depth,
      writeObject call ref key value depth state =
        .error (.fault (.accessorMissing key .set)) state
  readOnly : ∀ entry,
    (entry = .constructor ∨ ∃ function, entry = .method function) ->
    state.heap.sharedMember? ref key = some entry ->
      ∀ (call : Invoker) value depth,
      writeObject call ref key value depth state =
        .error (.fault (.readOnlyMember key)) state
  noGetter : ∀ setter, state.heap.sharedMember? ref key =
    some (.accessor none setter) -> ∀ (call : Invoker) depth,
      readObject call ref key depth state =
        .error (.fault (.accessorMissing key .get)) state
  /-- A key of the prototype is no own field now, and becomes none,
  whatever runs. -/
  unowned : ∀ entry, state.heap.sharedMember? ref key = some entry ->
    ∀ now : State, state.Reaches now -> key ∉ (now.heap.object ref).fields

section Entries

variable {state : State} {ref : ObjectRef} {key : PropertyKey}

/-- The body of a setter runs once for a write within its limit. -/
theorem State.Sound.runsSetterOnce
    {getter : Option FunctionRef}
    {setter : FunctionRef}
    {value : Value}
    {depth : Depth}
    {call : Caller}
    (serves : ∀ asked holding,
      (Progress.recording asked).Serves (Demand.asking asked) (call holding))
    (holding : Holding)
    (sound : state.Sound)
    (held : state.heap.Holds (.object ref))
    (known : value.Known state)
    (shared : state.heap.sharedMember? ref key =
      some (.accessor getter (some setter)))
    (bounded : depth ≤ (state.heap.function setter).limits.callDepth) :
    let write := writeObject (enterFunction call holding) ref key value depth
    BodyEntry.RunsOnce ⟨setter, .object ref, [value], depth⟩
      (write.interruption? state) state (write.endState state) := by
  intro write
  have plan : state.heap.writePlan ref key = .run setter :=
    sound.heap.writePlan_of_shared shared
  let invocation : Invocation := ⟨setter, .object ref, [value], depth⟩
  have within : invocation.Within state.heap :=
    ⟨sound.heap.holds_setter plan, (Value.within_object ref).2 held,
      AllWithin.cons_iff.2 ⟨known, .nil⟩⟩
  obtain ⟨interrupted, ended⟩ :=
    ends_writeObject_of_setter plan (enterFunction call holding) value depth
  rw [interrupted, ended]
  exact (enterFunction_once serves holding bounded sound within).runsOnce

/--
At every moment of every run, what the prototype of an object holds under a key
settles what becomes of reads and writes of the key.
-/
theorem followsEntry_of_reaches
    (reached : Program.initialState.Reaches state)
    (held : state.heap.Holds (.object ref))
    (key : PropertyKey) :
    state.FollowsEntry ref key := by
  have sound := reached.sound Program.sound_initialState
  refine ⟨?_, ?_, ?_, ?_, ?_, ?_, ?_⟩
  · intro free value
    have plan := (state.heap.writePlan_eq_store_iff ref key).2 (.inr free)
    refine ⟨_, State.writesField_defining held key value,
      fun call depth => ⟨?_, ?_⟩⟩
    · rw [writeObject_apply, plan, State.defining]
    · exact readObject_defining held call key value depth
  · intro getter setter shared call value depth
    exact writeObject_of_setter
      (sound.heap.writePlan_of_shared shared) value depth
  · intro getter setter shared stop bound holding value depth known limit write
    by_cases deep : limit < depth
    · have entered : enterFunction (callUntil stop bound) holding
            ⟨setter, .object ref, [value], depth⟩ state =
          .error (.fault (.callDepthExceeded limit)) state :=
        enterFunction_of_deep _ _ deep
      have refused :
          write state = .error (.fault (.callDepthExceeded limit)) state := by
        refine (writeObject_of_setter
          (sound.heap.writePlan_of_shared shared) value depth).trans ?_
        rw [entered]
      rw [if_pos deep, RunM.endState, refused]
      exact ⟨sound.heap.unowned_of_shared shared, rfl⟩
    · rw [if_neg deep]
      have once := sound.runsSetterOnce
        (serves_callUntil stop bound) holding held known shared
        (UInt32.not_lt.1 deep)
      exact ⟨once.moves.unowned_of_shared sound held shared, once⟩
  · intro getter shared call value depth
    rw [writeObject_apply, sound.heap.writePlan_of_shared shared]
    rfl
  · intro entry refuses shared call value depth
    rw [writeObject_apply, sound.heap.writePlan_of_shared shared]
    rcases refuses with rfl | ⟨function, rfl⟩ <;> rfl
  · intro setter shared call depth
    obtain ⟨klass, linked, found⟩ := Heap.sharedMember?_eq_some_iff.1 shared
    rw [readObject_apply, sound.heap.readPlan_of_shared linked found]
    rfl
  · intro entry shared now reaches
    exact (reaches.moves sound).unowned_of_shared sound held shared

/-- An object of a class with a method and two accessors. Its one setter
writes a field. -/
def guardedSteps : List Step :=
  let keep : Expr :=
    .apply (.frame .writeReceiver)
      [.literal (.string "kept"), .apply (.frame .argument) []]
  let form : ClassForm Expr := {
    blueprint := {
      name := some "Guarded"
      scope := none
      body := .ofEntries [
        .method (.literal (.text "method")) .nothing,
        .getter (.literal (.text "shown")) .nothing,
        .setter (.literal (.text "hidden")) keep] }
    binding := .expression
    limits := .standard }
  [.evaluate (.klass form) (some "made"),
    .evaluate (.apply (.host .construct)
      [.apply (.storage (.variable "made")) []]) none]

/-- A write to the key of a setter leaves what the setter writes, under another
key. -/
theorem followsEntry_of_reaches_guardedSteps :
    let before := Program.endState
      (callUntil (fun _ => false) 0) Program.initialState guardedSteps
    let call := enterFunction (callUntil (fun _ => false) 0) .none
    let write := writeObject call ⟨0⟩ (.ofText "hidden") .null 1
    ((before.heap.sharedMember? ⟨0⟩ (.ofText "hidden")).isSome ∧
      (before.heap.object ⟨0⟩).fields.keys = [] ∧
        RunM.endsWell write before = true ∧
        ((write.endState before).heap.object ⟨0⟩).fields.keys =
          [.ofText "kept"]) ∧
      before.FollowsEntry ⟨0⟩ (.ofText "hidden") := by
  intro before call write
  refine ⟨by decide +kernel, followsEntry_of_reaches ?_ ?_ (.ofText "hidden")⟩
  · exact Program.reaches_endState _ 0 guardedSteps .refl
  · show 0 < Store.size _
    decide +kernel

end Entries
end ClassLowering
