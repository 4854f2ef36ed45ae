import ClassLowering.Proofs.Heap.Accesses
import ClassLowering.Proofs.Runs.Progress
import ClassLowering.Semantics.Calls
import ClassLowering.Semantics.Enumeration
import ClassLowering.Semantics.KeyConversion

/-!
# Runs of the engine

The engine asks an invoker to run bodies. A demand says which invocations it may
ask for, and an invoker serves the demand when its runs make progress and yield
values of the heap. Every operation of the engine makes progress when the demand
covers the depth at which the operation runs bodies.
-/

namespace ClassLowering

/-- An invocation refers to cells of a heap. -/
structure Invocation.Within (heap : Heap) (invocation : Invocation) : Prop where
  function : heap.Holds (.function invocation.function)
  receiver : invocation.receiver.Within heap
  args : AllWithin heap invocation.args

/-- Which invocations may be asked for. -/
abbrev Demand := Heap -> Invocation -> Prop

namespace Demand

/-- All invocations at a depth may be asked for. -/
def Covers (demand : Demand) (depth : Depth) : Prop :=
  ∀ heap invocation, invocation.depth = depth -> demand heap invocation

/-- The invocations of a construction at a depth may be asked for, which are
one level deeper. -/
def CoversClass (demand : Demand) (depth : Depth) : Prop :=
  ∀ heap invocation, invocation.depth = depth + 1 ->
    depth ≤ (heap.function invocation.function).limits.callDepth ->
      demand heap invocation

end Demand

/-- An invoker makes progress with all that is demanded of it. -/
def Progress.Serves (progress : Progress) (demand : Demand)
    (call : Invoker) : Prop :=
  ∀ (invocation : Invocation) (before : State), before.Sound ->
    invocation.Within before.heap -> demand before.heap invocation ->
      progress.Runs (call invocation) before Value.Known

namespace Prototype

variable {prototype : Prototype} {key : PropertyKey}

/-- The functions of an entry that is found are among those of the prototype. -/
theorem mem_functions_of_lookup
    {entry : PrototypeEntry}
    {function : FunctionRef}
    (found : prototype.lookup key = some entry)
    (own : function ∈ entry.functions) :
    function ∈ prototype.functions := by
  obtain ⟨slot, stored, rfl⟩ := Option.map_eq_some_iff.1 found
  exact List.mem_flatMap.2 ⟨slot, OrderedMap.mem_values_of_find? stored, own⟩

/-- A method that is found is one of the functions. -/
theorem mem_functions_of_method
    {function : FunctionRef}
    (found : prototype.lookup key = some (.method function)) :
    function ∈ prototype.functions :=
  mem_functions_of_lookup found (List.mem_singleton_self _)

/-- A getter that is found is one of the functions. -/
theorem mem_functions_of_getter
    {function : FunctionRef}
    {setter : Option FunctionRef}
    (found : prototype.lookup key = some (.accessor (some function) setter)) :
    function ∈ prototype.functions :=
  mem_functions_of_lookup found List.mem_cons_self

/-- A setter that is found is one of the functions. -/
theorem mem_functions_of_setter
    {function : FunctionRef}
    {getter : Option FunctionRef}
    (found : prototype.lookup key = some (.accessor getter (some function))) :
    function ∈ prototype.functions :=
  mem_functions_of_lookup found (List.mem_append_right _ List.mem_cons_self)

/-- The method under a key is one of the functions. -/
theorem mem_functions_of_method?
    {function : FunctionRef}
    (found : prototype.method? key = some function) :
    function ∈ prototype.functions := by
  rw [method?] at found
  split at found
  next own entry =>
    cases found
    exact mem_functions_of_method entry
  next => cases found

/-- The getter under a key is one of the functions. -/
theorem mem_functions_of_getter?
    {function : FunctionRef}
    (found : prototype.getter? key = some function) :
    function ∈ prototype.functions := by
  rw [getter?] at found
  split at found
  next own setter entry =>
    cases found
    exact mem_functions_of_getter entry
  next => cases found

/-- The setter under a key is one of the functions. -/
theorem mem_functions_of_setter?
    {function : FunctionRef}
    (found : prototype.setter? key = some function) :
    function ∈ prototype.functions := by
  rw [setter?] at found
  split at found
  next getter own entry =>
    cases found
    exact mem_functions_of_setter entry
  next => cases found

end Prototype

/-- What a read comes to refers to cells of a heap. -/
def ReadPlan.Within (heap : Heap) : ReadPlan -> Prop
  | .value contents => contents.Within heap
  | .run getter => heap.Holds (.function getter)
  | .noGetter => True

namespace Heap

variable {heap : Heap} {ref : ObjectRef} {key : PropertyKey}

/-- The shared functions of the class of an object are held. -/
theorem Sound.holds_shared
    {klass : ClassRef}
    {function : FunctionRef}
    (sound : heap.Sound)
    (linked : (heap.object ref).klass = some klass)
    (shared : function ∈ (heap.klass klass).prototype.functions) :
    heap.Holds (.function function) := by
  have held := (sound.object ref).klass klass linked
  exact ((sound.klass klass held).shared function shared).1

/-- A read through the prototype yields a value of the heap or runs a
function of it. -/
theorem Sound.entryReadPlan
    {klass : ClassRef}
    {entry : Option PrototypeEntry}
    (sound : heap.Sound)
    (linked : (heap.object ref).klass = some klass)
    (found : (heap.klass klass).prototype.lookup key = entry) :
    (Heap.entryReadPlan klass entry).Within heap := by
  cases entry with
  | none => exact Value.within_undefined
  | some entry =>
      cases entry with
      | constructor =>
          exact (Value.within_klass klass).2
            ((sound.object ref).klass klass linked)
      | method function =>
          exact (Value.within_function function).2
            (sound.holds_shared linked
              (Prototype.mem_functions_of_method found))
      | accessor getter setter =>
          cases getter with
          | none => trivial
          | some getter =>
              exact sound.holds_shared linked
                (Prototype.mem_functions_of_getter found)

/-- A read yields a value of the heap or runs a function of it. -/
theorem Sound.readPlan
    (sound : heap.Sound) :
    (heap.readPlan ref key).Within heap := by
  unfold Heap.readPlan
  cases own : (heap.object ref).fields.find? key with
  | some value =>
      exact (sound.object ref).values value (OrderedMap.mem_values_of_find? own)
  | none =>
      cases linked : (heap.object ref).klass with
      | none => exact Value.within_undefined
      | some klass => exact sound.entryReadPlan linked rfl

/-- A write that runs a function runs one of the heap. -/
theorem Sound.holds_setter
    {setter : FunctionRef}
    (sound : heap.Sound)
    (plan : heap.writePlan ref key = .run setter) :
    heap.Holds (.function setter) := by
  unfold Heap.writePlan at plan
  split at plan
  · cases plan
  · cases linked : (heap.object ref).klass with
    | none => simp [sharedMember?, prototype?, linked, entryWritePlan] at plan
    | some klass =>
        have entry : heap.sharedMember? ref key =
            (heap.klass klass).prototype.lookup key := by
          simp [sharedMember?, prototype?, linked]
        rw [entry] at plan
        cases found : (heap.klass klass).prototype.lookup key with
        | none =>
            rw [found] at plan
            cases plan
        | some entry =>
            rw [found] at plan
            cases entry with
            | constructor => cases plan
            | method function => cases plan
            | accessor getter setter? =>
                cases setter? with
                | none => cases plan
                | some other =>
                    cases plan
                    exact sound.holds_shared linked
                      (Prototype.mem_functions_of_setter found)

/-- The value of a field is a value of the heap. -/
theorem Sound.within_fieldValue
    (sound : heap.Sound) :
    (heap.fieldValue ref key).Within heap := by
  unfold fieldValue
  cases found : (heap.object ref).fields.find? key with
  | none => exact Value.within_undefined
  | some value =>
      exact (sound.object ref).values value
        (OrderedMap.mem_values_of_find? found)

end Heap

section Engine

variable {progress : Progress} {demand : Demand} {call : Invoker}
  {before : State}
variable {depth : Depth}

/-- Reading a property of an object makes progress. -/
theorem runs_readObject
    {ref : ObjectRef}
    {key : PropertyKey}
    (serves : progress.Serves demand call)
    (covers : demand.Covers depth)
    (sound : before.Sound)
    (held : before.heap.Holds (.object ref)) :
    progress.Runs (readObject call ref key depth) before Value.Known := by
  refine .readHeap_bind ?_
  have plan : (before.heap.readPlan ref key).Within before.heap :=
    sound.heap.readPlan
  cases found : before.heap.readPlan ref key with
  | value value =>
      rw [found] at plan
      exact .pure plan
  | run getter =>
      rw [found] at plan
      exact serves _ before sound ⟨plan, (Value.within_object ref).2 held, .nil⟩
        (covers _ _ rfl)
  | noGetter => exact .fail _

/-- Writing a property of an object makes progress. -/
theorem runs_writeObject
    {ref : ObjectRef}
    {key : PropertyKey}
    {value : Value}
    (serves : progress.Serves demand call)
    (covers : demand.Covers depth)
    (sound : before.Sound)
    (held : before.heap.Holds (.object ref))
    (within : value.Within before.heap) :
    progress.Runs (writeObject call ref key value depth) before
      fun _ _ => True := by
  refine .readHeap_bind ?_
  cases plan : before.heap.writePlan ref key with
  | store =>
      exact .changeHeap (.single (.write ref key value plan within)) trivial
  | run setter =>
      refine .bind sound
        (serves ⟨setter, .object ref, [value], depth⟩ before sound ?_ ?_) ?_
      · exact ⟨sound.heap.holds_setter plan,
          (Value.within_object ref).2 held, by simp [within]⟩
      · exact covers _ _ rfl
      · exact fun _ _ _ _ _ => .pure trivial
  | noSetter => exact .fail _
  | readOnly => exact .fail _

/-- The properties of classes and functions refer to nothing. -/
theorem within_namedProperty
    (heap : Heap)
    (key : PropertyKey)
    (name : String)
    (length : Nat) :
    (namedProperty key name length).Within heap := by
  unfold namedProperty
  split
  · exact Value.within_string _
  · split
    · exact Value.within_ofNat _
    · exact Value.within_undefined

/-- Reading a property of a value makes progress. -/
theorem runs_readProperty
    {target : Value}
    {key : PropertyKey}
    (serves : progress.Serves demand call)
    (covers : demand.Covers depth)
    (sound : before.Sound)
    (within : target.Within before.heap) :
    progress.Runs (readProperty call target key depth) before Value.Known := by
  refine .readHeap_bind ?_
  cases target with
  | object ref =>
      exact runs_readObject serves covers sound
        ((Value.within_object ref).1 within)
  | klass ref => exact .pure (within_namedProperty _ _ _ _)
  | function ref => exact .pure (within_namedProperty _ _ _ _)
  | string text =>
      refine .pure ?_
      split
      · exact Value.within_ofNat _
      · exact Value.within_undefined
  | undefined => exact .failType _
  | null => exact .failType _
  | bool b => exact .pure Value.within_undefined
  | number x => exact .pure Value.within_undefined
  | symbol symbol => exact .pure Value.within_undefined
  | generator ref => exact .pure Value.within_undefined

/-- Writing a property of a value makes progress. -/
theorem runs_writeProperty
    {target value : Value}
    {key : PropertyKey}
    (serves : progress.Serves demand call)
    (covers : demand.Covers depth)
    (sound : before.Sound)
    (targetWithin : target.Within before.heap)
    (within : value.Within before.heap) :
    progress.Runs (writeProperty call target key value depth) before
      fun _ _ => True := by
  cases target with
  | object ref =>
      exact runs_writeObject serves covers sound
        ((Value.within_object ref).1 targetWithin) within
  | _ => exact .failType _

/-- Calling a value makes progress. -/
theorem runs_callValue
    {callee receiver : Value}
    {args : List Value}
    (serves : progress.Serves demand call)
    (covers : demand.Covers depth)
    (sound : before.Sound)
    (calleeWithin : callee.Within before.heap)
    (receiverWithin : receiver.Within before.heap)
    (argsWithin : AllWithin before.heap args) :
    progress.Runs (callValue call callee receiver args depth) before
      Value.Known := by
  cases callee with
  | function ref =>
      exact serves _ before sound
        ⟨(Value.within_function ref).1 calleeWithin, receiverWithin, argsWithin⟩
        (covers _ _ rfl)
  | klass ref => exact .readHeap_bind (.fail _)
  | _ => exact .readHeap_bind (.failType _)

/-- Calling a property of a value makes progress. -/
theorem runs_invokeProperty
    {target : Value}
    {key : PropertyKey}
    {args : List Value}
    (serves : progress.Serves demand call)
    (covers : demand.Covers depth)
    (sound : before.Sound)
    (within : target.Within before.heap)
    (argsWithin : AllWithin before.heap args) :
    progress.Runs (invokeProperty call target key args depth) before
      Value.Known := by
  refine .bind sound (runs_readProperty serves covers sound within) ?_
  intro callee between soundBetween extension known
  have calls := runs_callValue serves covers soundBetween known
    (within.mono extension) (argsWithin.mono extension)
  cases callee with
  | function ref => exact calls
  | klass ref => exact calls
  | _ => exact .failType _

/-- Calling a property of an object from outside of all bodies makes
progress. -/
theorem runs_invokeObject
    {ref : ObjectRef}
    {key : PropertyKey}
    {args : List Value}
    (serves : progress.Serves demand call)
    (covers : demand.Covers 1)
    (sound : before.Sound)
    (held : before.heap.Holds (.object ref))
    (argsWithin : AllWithin before.heap args) :
    progress.Runs (invokeObject call ref key args) before Value.Known := by
  refine .bind sound (runs_readObject serves covers sound held) ?_
  intro callee between soundBetween extension known
  cases callee with
  | function function =>
      refine serves _ between soundBetween
        ⟨(Value.within_function function).1 known, ?_, ?_⟩ (covers _ _ rfl)
      · exact (Value.within_object ref).2 (extension.holds _ held)
      · exact argsWithin.mono extension
  | klass klass => exact .readHeap_bind (.fail _)
  | _ => exact .failType _

/-- Converting the result of a conversion method makes progress. -/
theorem runs_keyOfPrimitive (result : Value) :
    progress.Runs (keyOfPrimitive result) before fun _ _ => True := by
  cases result with
  | symbol symbol => exact .pure trivial
  | undefined => exact .readHeap_bind (.pure trivial)
  | null => exact .readHeap_bind (.pure trivial)
  | bool b => exact .readHeap_bind (.pure trivial)
  | number x => exact .readHeap_bind (.pure trivial)
  | string text => exact .readHeap_bind (.pure trivial)
  | object ref => exact .failType _
  | klass ref => exact .failType _
  | function ref => exact .failType _
  | generator ref => exact .failType _

/-- Converting an object to a key makes progress. -/
theorem runs_keyOfObject
    {ref : ObjectRef}
    (serves : progress.Serves demand call)
    (covers : demand.Covers (depth + 1))
    (sound : before.Sound)
    (held : before.heap.Holds (.object ref)) :
    progress.Runs (keyOfObject call ref depth) before fun _ _ => True := by
  refine .readHeap_bind ?_
  cases converts : before.heap.hasConversion ref with
  | false => exact .pure trivial
  | true =>
      obtain ⟨value, plan⟩ := Heap.readPlan_of_hasConversion converts
      have known : (ReadPlan.value value).Within before.heap :=
        plan ▸ sound.heap.readPlan
      have reads :
          progress.Runs (readObject call ref toStringKey depth) before
            Value.Known := by
        refine .readHeap_bind ?_
        rw [plan]
        exact .pure known
      refine .bind sound reads ?_
      intro conversion between soundBetween extension conversionKnown
      cases conversion with
      | function function =>
          refine .bind soundBetween
            (serves _ between soundBetween ?_ (covers _ _ rfl)) ?_
          · exact ⟨(Value.within_function function).1 conversionKnown,
              (Value.within_object ref).2 (extension.holds _ held), .nil⟩
          · exact fun result _ _ _ _ => runs_keyOfPrimitive result
      | _ => exact .pure trivial

/-- Converting a value to a key makes progress. -/
theorem runs_toKey
    {value : Value}
    (serves : progress.Serves demand call)
    (covers : demand.Covers (depth + 1))
    (sound : before.Sound)
    (within : value.Within before.heap) :
    progress.Runs (toKey call value depth) before fun _ _ => True := by
  cases value with
  | symbol symbol => exact .pure trivial
  | object ref =>
      exact runs_keyOfObject serves covers sound
        ((Value.within_object ref).1 within)
  | _ => exact .readHeap_bind (.pure trivial)

/-- Copying fields makes progress. -/
theorem runs_copyKeys
    {target source : ObjectRef}
    {keys : List PropertyKey}
    (serves : progress.Serves demand call)
    (covers : demand.Covers 1)
    (sound : before.Sound)
    (held : before.heap.Holds (.object target)) :
    progress.Runs (copyKeys call target source keys) before
      fun _ _ => True := by
  induction keys generalizing before with
  | nil => exact .pure trivial
  | cons key rest hypothesis =>
      refine .readHeap_bind ?_
      have within : (before.heap.fieldValue source key).Within before.heap :=
        sound.heap.within_fieldValue
      refine .bind sound (runs_writeObject serves covers sound held within) ?_
      intro _ between soundBetween extension _
      exact hypothesis soundBetween (extension.holds _ held)

/-- Copying the fields of a value makes progress. -/
theorem runs_copyFields
    {target : ObjectRef}
    (source : Value)
    (serves : progress.Serves demand call)
    (covers : demand.Covers 1)
    (sound : before.Sound)
    (held : before.heap.Holds (.object target)) :
    progress.Runs (copyFields call target source) before fun _ _ => True := by
  cases source with
  | object ref => exact .readHeap_bind (runs_copyKeys serves covers sound held)
  | _ => exact .pure trivial

/-- Giving an object the fields of its class makes progress. -/
theorem runs_defineFields
    {ref : ObjectRef}
    {klass : ClassRef}
    {fields : List FieldDeclaration}
    (serves : progress.Serves demand call)
    (covers : demand.CoversClass depth)
    (sound : before.Sound)
    (held : before.heap.Holds (.object ref))
    (linked : (before.heap.object ref).klass = some klass)
    (shallow : depth ≤ (before.heap.klass klass).limits.callDepth)
    (declared : fields ⊆ (before.heap.klass klass).fields) :
    progress.Runs (defineFields call ref (depth + 1) fields) before
      fun _ _ => True := by
  have heldKlass : before.heap.Holds (.klass klass) :=
    (sound.heap.object ref).klass klass linked
  induction fields generalizing before with
  | nil => exact .pure trivial
  | cons field rest hypothesis =>
      have own : field ∈ (before.heap.klass klass).fields :=
        declared List.mem_cons_self
      have continues : ∀ (value : Value) (between : State), between.Sound ->
          before.heap.Extends between.heap -> value.Known between ->
            progress.Runs (do
              RunM.changeHeap (·.defineField ref field.key value)
              defineFields call ref (depth + 1) rest) between
                fun _ _ => True := by
        intro value between soundBetween extension known
        have linkedBetween : (between.heap.object ref).klass = some klass := by
          rw [extension.objectClass_eq ref held, linked]
        have ownBetween : field ∈ (between.heap.klass klass).fields := by
          rw [extension.klass_eq klass heldKlass]
          exact own
        have step :
            between.heap.Step progress.Makes
              (between.heap.defineField ref field.key value) :=
          .define ref klass field value linkedBetween ownBetween known
        have all := extension.trans step.extension
        refine .changeHeap_bind (.single step) ?_
        refine hypothesis (soundBetween.along (.single step))
          (all.holds _ held) ?_ ?_ ?_ (all.holds _ heldKlass)
        · rw [all.objectClass_eq ref held, linked]
        · rw [all.klass_eq klass heldKlass]
          exact shallow
        · rw [all.klass_eq klass heldKlass]
          exact fun _ present => declared (List.mem_cons_of_mem _ present)
      rw [defineFields]
      cases initial : field.initializer? with
      | none =>
          exact continues .undefined before sound
            (.refl _) Value.within_undefined
      | some function =>
          obtain ⟨heldFunction, limits⟩ :=
            (sound.heap.klass klass heldKlass).initializer field own
              function initial
          refine .bind sound
            (serves _ before sound ?_ (covers _ _ rfl ?_)) continues
          · exact ⟨heldFunction, (Value.within_object ref).2 held, .nil⟩
          · rw [limits]
            exact shallow

/-- Constructing an object makes progress. -/
theorem runs_construct
    {klass : ClassRef}
    {args : List Value}
    (serves : progress.Serves demand call)
    (covers : demand.CoversClass depth)
    (sound : before.Sound)
    (held : before.heap.Holds (.klass klass))
    (argsWithin : AllWithin before.heap args) :
    progress.Runs (construct call klass args depth) before Value.Known := by
  refine .readHeap_bind ?_
  by_cases deep : (before.heap.klass klass).limits.callDepth < depth
  · rw [if_pos deep]
    exact .fail _
  · rw [if_neg deep]
    have shallow : depth ≤ (before.heap.klass klass).limits.callDepth :=
      UInt32.not_lt.1 deep
    let made := before.heap.newObject (some klass)
    have step : before.heap.Step progress.Makes made.2 :=
      .object (some klass) (by simpa using held)
    have extension : before.heap.Extends made.2 := step.extension
    have soundMade := sound.along (.single step)
    have heldMade : made.2.Holds (.object made.1) :=
      before.heap.holds_newObject (some klass)
    have fields : progress.Runs (defineFields call made.1 (depth + 1)
        (before.heap.klass klass).fields) { before with heap :=
          made.2 } fun _ _ => True := by
      refine runs_defineFields serves covers soundMade heldMade
        (congrArg ObjectCell.klass
          (before.heap.object_newObject_self (some klass))) ?_ ?_
      · exact shallow
      · exact List.Subset.refl _
    refine .allocate_bind (.single step) (.bind soundMade fields ?_)
    intro _ between soundBetween further _
    have all := extension.trans further
    have heldBetween := further.holds _ heldMade
    have bounded := ((sound.heap.klass klass held).constructor).mono all
    refine .bind soundBetween
      (serves _ between soundBetween ?_ (covers _ _ rfl ?_)) ?_
    · exact ⟨bounded.1, (Value.within_object made.1).2 heldBetween,
        argsWithin.mono all⟩
    · rw [bounded.2]
      exact shallow
    · intro result after _ last known
      refine .pure ?_
      split
      · exact known
      · exact (Value.within_object made.1).2 (last.holds _ heldBetween)

end Engine

end ClassLowering
