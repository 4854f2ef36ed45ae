import ClassLowering.Proofs.Heap.Soundness

/-!
# Steps of the heap

Whatever a run does to the heap, it does in steps of a few kinds: a new cell, a
new binding of a scope, a field of an object, a value that a generator hands
out. Each kind of step has a condition under which it happens. In particular an
own field comes into being in two ways only: by a write that the prototype does
not claim, or for a field that the class of the object declares.

Every step from a sound heap leads to a sound heap that extends it.
-/

namespace ClassLowering

namespace Heap

/-- A write becomes an own field when there is one already or no shared
member. -/
theorem writePlan_eq_store_iff
    (heap : Heap)
    (ref : ObjectRef)
    (key : PropertyKey) :
    heap.writePlan ref key = .store ↔
      key ∈ (heap.object ref).fields ∨ heap.sharedMember? ref key = none := by
  rw [OrderedMap.mem_iff_contains, writePlan]
  split
  next present => simp [present]
  next absent =>
    cases heap.sharedMember? ref key with
    | none => simp [entryWritePlan]
    | some entry =>
        rcases entry with - | function | ⟨getter, _ | setter⟩ <;>
          simp [entryWritePlan, absent]

/-- Put a new class into the heap and let its internal name mean it. -/
def finishClass (heap : Heap) (cell : ClassCell) : ClassRef × Heap :=
  let (klass, made) := heap.newClass cell
  (klass, made.bindSelf cell.scope cell.internalName klass)

/--
One change of the heap, with the condition under which a run makes it. A run may
be allowed to make certain functions only.
-/
inductive Step (makes : FunctionCell -> Prop) (heap : Heap) : Heap -> Prop
  | symbol (description : Option String) :
      Step makes heap (heap.newSymbol description).2
  | scope (parent : Option ScopeRef) :
      (∀ outer ∈ parent, heap.Holds (.scope outer)) ->
        Step makes heap (heap.newScope parent).2
  | classScope (outer : ScopeRef) (internalName : Option String) :
      heap.Holds (.scope outer) ->
        Step makes heap (heap.openClassScope outer internalName).2
  | declare (ref : ScopeRef) (name : String) (value : Value)
      (isMutable : Bool) :
      value.Within heap -> Step makes heap
        (heap.bind ref name ⟨.value value, isMutable⟩)
  | assign (ref : ScopeRef) (name : String) (value : Value) (later : Heap) :
      value.Within heap -> heap.assign ref name value = .ok later ->
        Step makes heap later
  | object (klass : Option ClassRef) :
      (∀ linked ∈ klass, heap.Holds (.klass linked)) ->
        Step makes heap (heap.newObject klass).2
  | write (ref : ObjectRef) (key : PropertyKey) (value : Value) :
      heap.writePlan ref key = .store -> value.Within heap ->
        Step makes heap (heap.defineField ref key value)
  | define (ref : ObjectRef) (klass : ClassRef) (field : FieldDeclaration)
      (value : Value) :
      (heap.object ref).klass = some klass ->
        field ∈ (heap.klass klass).fields ->
        value.Within heap -> Step makes heap
          (heap.defineField ref field.key value)
  | function (cell : FunctionCell) :
      makes cell -> cell.Sound heap -> Step makes heap (heap.newFunction cell).2
  | generator (yields : List Value) (completion : Value) :
      AllWithin heap yields -> completion.Within heap ->
        Step makes heap (heap.newGenerator yields completion).2
  | next (ref : GeneratorRef) : Step makes heap (heap.nextYield ref).2
  | drain (ref : GeneratorRef) : Step makes heap (heap.drainYields ref).2

/--
Heaps that are some steps and some elaborations apart. The scope of a
class is opened when its elaboration starts, so nothing that happens
inside the elaboration can be the end of another one that finishes a class
with the same scope.
-/
inductive Path (makes : FunctionCell -> Prop) : Heap -> Heap -> Prop
  | refl (heap : Heap) : Path makes heap heap
  | tail {first between last : Heap} :
      Path makes first between -> Step makes between last ->
        Path makes first last
  | elaboration {first outside inside : Heap} (outer : ScopeRef)
      (cell : ClassCell) :
      Path makes first outside -> outside.Holds (.scope outer) ->
        cell.scope = (outside.openClassScope outer cell.internalName).1 ->
          Path makes (outside.openClassScope outer cell.internalName).2
            inside ->
            cell.Sound inside -> Path makes first (inside.finishClass cell).2

/-- A step is one that makes any functions beside those that it makes. -/
theorem Step.mono
    {makes makesMore : FunctionCell -> Prop}
    {heap later : Heap}
    (more : ∀ cell, makes cell -> makesMore cell)
    (step : Step makes heap later) :
    Step makesMore heap later := by
  cases step with
  | symbol description => exact .symbol description
  | scope parent known => exact .scope parent known
  | classScope outer internalName held =>
      exact .classScope outer internalName held
  | declare ref name value isMutable within =>
      exact .declare ref name value isMutable within
  | assign ref name value _ within assigned =>
      exact .assign ref name value _ within assigned
  | object klass known => exact .object klass known
  | write ref key value free within => exact .write ref key value free within
  | define ref klass field value linked declared within =>
      exact .define ref klass field value linked declared within
  | function cell made sound => exact .function cell (more cell made) sound
  | generator yields completion within completes =>
      exact .generator yields completion within completes
  | next ref => exact .next ref
  | drain ref => exact .drain ref

namespace Path

variable {makes : FunctionCell -> Prop} {first second third : Heap}

/-- A path is one that makes any functions beside those that it makes. -/
theorem mono
    {makesMore : FunctionCell -> Prop}
    (more : ∀ cell, makes cell -> makesMore cell)
    (path : Path makes first second) :
    Path makesMore first second := by
  induction path with
  | refl heap => exact .refl heap
  | tail _ step earlier => exact .tail earlier (step.mono more)
  | elaboration outer cell _ held opened _ fits earlier inner =>
      exact .elaboration outer cell earlier held opened inner fits

/-- One step is a path. -/
theorem single (step : Step makes first second) : Path makes first second :=
  .tail (.refl first) step

/-- Paths compose. -/
theorem trans
    (earlier : Path makes first second)
    (later : Path makes second third) :
    Path makes first third := by
  induction later with
  | refl => exact earlier
  | tail _ step hypothesis => exact .tail (hypothesis earlier) step
  | elaboration outer cell _ held opened inner sound hypothesis _ =>
      exact .elaboration outer cell (hypothesis earlier) held opened inner sound

end Path

/-- An assignment that succeeds replaces the nearest binding, which is mutable
and has a value. -/
theorem assign_eq_ok
    {heap later : Heap}
    {scope : ScopeRef}
    {name : String}
    {value : Value}
    (assigned : heap.assign scope name value = .ok later) :
    ∃ owner binding, heap.nearestBinding? scope name = some (owner, binding) ∧
      binding.slot ≠ .uninitialized ∧ binding.isMutable = true ∧
        later = heap.bind owner name ⟨.value value, true⟩ := by
  unfold assign at assigned
  split at assigned
  next owner binding found =>
    split at assigned
    · cases assigned
    next initialized =>
      split at assigned
      next isMutable =>
        cases assigned
        exact ⟨owner, binding, found, initialized, isMutable, rfl⟩
      · cases assigned
  next => cases assigned

/-- What a field write does to the cells of objects. -/
theorem object_defineField
    (heap : Heap)
    (ref other : ObjectRef)
    (key : PropertyKey)
    (value : Value) :
    (heap.defineField ref key value).object other = heap.object other ∨
      other = ref ∧ heap.Holds (.object ref) ∧
        (heap.defineField ref key value).object other =
          { heap.object ref with fields :=
            (heap.object ref).fields.insert key value } :=
  Store.getD_modify heap.objects ref _ other

/-- What setting a binding does to the cells of scopes. -/
theorem scope_bind
    (heap : Heap)
    (ref other : ScopeRef)
    (name : String)
    (binding : Binding) :
    (heap.bind ref name binding).scope other = heap.scope other ∨
      other = ref ∧ heap.Holds (.scope ref) ∧
        (heap.bind ref name binding).scope other =
          { heap.scope ref with bindings :=
            (heap.scope ref).bindings.insert name binding } :=
  Store.getD_modify heap.scopes ref _ other

/-- A new function leaves the older ones as they are. -/
theorem function_newFunction
    {heap : Heap}
    {cell : FunctionCell}
    {ref : FunctionRef}
    (held : heap.Holds (.function ref)) :
    (heap.newFunction cell).2.function ref = heap.function ref := by
  unfold function newFunction
  rw [Store.get?_push_of_lt heap.functions cell held]

/-- A new class leaves the older ones as they are. -/
theorem klass_newClass
    {heap : Heap}
    {cell : ClassCell}
    {ref : ClassRef}
    (held : heap.Holds (.klass ref)) :
    (heap.newClass cell).2.klass ref = heap.klass ref := by
  unfold klass newClass
  rw [Store.get?_push_of_lt heap.classes cell held]

/-- A new object leaves the older ones as they are. -/
theorem object_newObject
    {heap : Heap}
    {klass : Option ClassRef}
    {ref : ObjectRef}
    (held : heap.Holds (.object ref)) :
    (heap.newObject klass).2.object ref = heap.object ref := by
  unfold object newObject
  rw [Store.get?_push_of_lt heap.objects _ held]

/-- A field write does not change the class of an object. -/
theorem objectClass_defineField
    (heap : Heap)
    (ref other : ObjectRef)
    (key : PropertyKey)
    (value : Value) :
    ((heap.defineField ref key value).object other).klass =
      (heap.object other).klass := by
  rcases heap.object_defineField ref other key value
    with equal | ⟨same, -, equal⟩
  · rw [equal]
  · rw [equal, same]

/-- A heap with a new scope extends the one before. -/
theorem extends_newScope (heap : Heap) (parent : Option ScopeRef) :
    heap.Extends (heap.newScope parent).2 :=
  ⟨Grows.holds { Grows.refl heap with scopes := by simp [newScope] },
    fun _ _ => rfl, fun _ _ => rfl, fun _ _ => rfl⟩

/-- A heap with a new function extends the one before. -/
theorem extends_newFunction (heap : Heap) (cell : FunctionCell) :
    heap.Extends (heap.newFunction cell).2 :=
  ⟨Grows.holds { Grows.refl heap with functions := by simp [newFunction] },
    fun _ held => function_newFunction held, fun _ _ => rfl, fun _ _ => rfl⟩

/-- A heap with a new class extends the one before. -/
theorem extends_newClass (heap : Heap) (cell : ClassCell) :
    heap.Extends (heap.newClass cell).2 :=
  ⟨Grows.holds { Grows.refl heap with classes := by simp [newClass] },
    fun _ _ => rfl, fun _ held => klass_newClass held, fun _ _ => rfl⟩

/-- A heap with another binding extends the one before. -/
theorem extends_bind
    (heap : Heap)
    (ref : ScopeRef)
    (name : String)
    (binding : Binding) :
    heap.Extends (heap.bind ref name binding) :=
  ⟨Grows.holds { Grows.refl heap with scopes := by simp [Heap.bind] },
    fun _ _ => rfl, fun _ _ => rfl, fun _ _ => rfl⟩

/-- A heap with a new symbol extends the one before. -/
theorem extends_newSymbol (heap : Heap) (description : Option String) :
    heap.Extends (heap.newSymbol description).2 :=
  ⟨Grows.holds { Grows.refl heap with }, fun _ _ => rfl, fun _ _ =>
    rfl, fun _ _ => rfl⟩

/-- A heap with a new object extends the one before. -/
theorem extends_newObject (heap : Heap) (klass : Option ClassRef) :
    heap.Extends (heap.newObject klass).2 :=
  ⟨Grows.holds { Grows.refl heap with objects := by simp [newObject] },
    fun _ _ => rfl, fun _ _ => rfl, fun _ held => by rw [object_newObject held]⟩

/-- A heap with another field of an object extends the one before. -/
theorem extends_defineField
    (heap : Heap)
    (ref : ObjectRef)
    (key : PropertyKey)
    (value : Value) :
    heap.Extends (heap.defineField ref key value) :=
  ⟨Grows.holds { Grows.refl heap with objects := by simp [defineField] },
    fun _ _ => rfl, fun _ _ => rfl, fun other _ =>
      objectClass_defineField heap ref other key value⟩

/-- A heap with a new generator extends the one before. -/
theorem extends_newGenerator
    (heap : Heap)
    (yields : List Value)
    (completion : Value) :
    heap.Extends (heap.newGenerator yields completion).2 :=
  ⟨Grows.holds { Grows.refl heap with generators := by simp [newGenerator] },
    fun _ _ => rfl, fun _ _ => rfl, fun _ _ => rfl⟩

/-- A heap in which a generator has handed out a value extends the one
before. -/
theorem extends_nextYield (heap : Heap) (ref : GeneratorRef) :
    heap.Extends (heap.nextYield ref).2 :=
  ⟨Grows.holds { Grows.refl heap with generators := by simp [nextYield] },
    fun _ _ => rfl, fun _ _ => rfl, fun _ _ => rfl⟩

/-- A heap in which a generator has handed out all its values extends
the one before. -/
theorem extends_drainYields (heap : Heap) (ref : GeneratorRef) :
    heap.Extends (heap.drainYields ref).2 :=
  ⟨Grows.holds { Grows.refl heap with generators := by simp [drainYields] },
    fun _ _ => rfl, fun _ _ => rfl, fun _ _ => rfl⟩

/-- A heap with the scope of a class extends the one before. -/
theorem extends_openClassScope
    (heap : Heap)
    (outer : ScopeRef)
    (internalName : Option String) :
    heap.Extends (heap.openClassScope outer internalName).2 := by
  have opens := heap.extends_newScope (some outer)
  cases internalName with
  | none => exact opens
  | some name =>
      exact opens.trans (extends_bind _ _ name ⟨.uninitialized, false⟩)

/-- A heap extends the one before when the internal name of a class
means the class. -/
theorem extends_bindSelf
    (heap : Heap)
    (scope : ScopeRef)
    (internalName : Option String) (klass : ClassRef) :
    heap.Extends (heap.bindSelf scope internalName klass) := by
  cases internalName with
  | none => exact .refl heap
  | some name => exact extends_bind heap scope name _

/-- A new function is the cell that it was made from. -/
@[simp] theorem function_newFunction_self (heap : Heap) (cell : FunctionCell) :
    (heap.newFunction cell).2.function (heap.newFunction cell).1 = cell := by
  simp [function, newFunction]

/-- A new class is the cell that it was made from. -/
@[simp] theorem klass_newClass_self (heap : Heap) (cell : ClassCell) :
    (heap.newClass cell).2.klass (heap.newClass cell).1 = cell := by
  simp [klass, newClass]

/-- A new function is held. -/
theorem holds_newFunction (heap : Heap) (cell : FunctionCell) :
    (heap.newFunction cell).2.Holds (.function (heap.newFunction cell).1) := by
  simp [Holds, newFunction, Store.next]

/-- A new class is held. -/
theorem holds_newClass (heap : Heap) (cell : ClassCell) :
    (heap.newClass cell).2.Holds (.klass (heap.newClass cell).1) := by
  simp [Holds, newClass, Store.next]

/-- A new object is held. -/
theorem holds_newObject (heap : Heap) (klass : Option ClassRef) :
    (heap.newObject klass).2.Holds (.object (heap.newObject klass).1) := by
  simp [Holds, newObject, Store.next]

/-- A new scope is held. -/
theorem holds_newScope (heap : Heap) (parent : Option ScopeRef) :
    (heap.newScope parent).2.Holds (.scope (heap.newScope parent).1) := by
  simp [Holds, newScope, Store.next]

/-- The scope that is opened for a class is held. -/
theorem holds_openClassScope
    (heap : Heap)
    (outer : ScopeRef)
    (internalName : Option String) :
    (heap.openClassScope outer internalName).2.Holds
      (.scope (heap.openClassScope outer internalName).1) := by
  have heldScope := heap.holds_newScope (some outer)
  cases internalName with
  | none => exact heldScope
  | some name => exact (extends_bind _ _ name _).holds _ heldScope

/-- A new generator is held. -/
theorem holds_newGenerator
    (heap : Heap)
    (yields : List Value)
    (completion : Value) :
    (heap.newGenerator yields completion).2.Holds
      (.generator (heap.newGenerator yields completion).1) := by
  simp [Holds, newGenerator, Store.next]

/-- A new object has the class that it was made for and no fields. -/
@[simp] theorem object_newObject_self (heap : Heap) (klass : Option ClassRef) :
    (heap.newObject klass).2.object (heap.newObject klass).1 = ⟨klass, ∅⟩ := by
  simp [object, newObject]

/-- A new function is not one of the older functions. -/
theorem not_holds_newFunction (heap : Heap) (cell : FunctionCell) :
    ¬ heap.Holds (.function (heap.newFunction cell).1) := by
  simp [Holds, newFunction, Store.next]

namespace Sound

variable {heap : Heap}

/-- A heap with a new scope inside a scope that it holds stays sound. -/
theorem newScope
    (sound : heap.Sound)
    (parent : Option ScopeRef)
    (known : ∀ outer ∈ parent, heap.Holds (.scope outer)) :
    (heap.newScope parent).2.Sound := by
  have extension := heap.extends_newScope parent
  refine sound.of_extends extension ?_ (fun _ => .inl rfl) (fun _ => .inl rfl)
    (fun _ held => .inl held) (fun _ => .inl rfl)
  intro ref
  refine (Store.getD_push heap.scopes _ ref).imp_right fun equal => ?_
  rw [show (heap.newScope parent).2.scope ref = _ from equal]
  apply (ScopeCell.sound_open _).mono extension
  cases parent with
  | none => exact fun _ present => absurd present List.not_mem_nil
  | some outer => exact sound.holds_scopePath (known outer rfl)

/-- A heap stays sound when a name is bound to something within it. -/
theorem bind
    (sound : heap.Sound)
    (ref : ScopeRef)
    (name : String)
    (binding : Binding)
    (within : binding.slot.Within heap) :
    (heap.bind ref name binding).Sound := by
  have extension := heap.extends_bind ref name binding
  refine sound.of_extends extension ?_ (fun _ => .inl rfl) (fun _ => .inl rfl)
    (fun _ held => .inl held) (fun _ => .inl rfl)
  intro other
  rcases heap.scope_bind ref other name binding with equal | ⟨-, -, equal⟩
  · exact .inl equal
  · right
    rw [equal]
    exact ((sound.scope ref).insert within).mono extension

/-- A heap stays sound when the scope of a class is opened in it. -/
theorem openClassScope
    {outer : ScopeRef}
    (sound : heap.Sound)
    (internalName : Option String)
    (held : heap.Holds (.scope outer)) :
    (heap.openClassScope outer internalName).2.Sound := by
  have opened := sound.newScope (some outer) (by simpa using held)
  cases internalName with
  | none => exact opened
  | some name => exact opened.bind _ name ⟨.uninitialized, false⟩ trivial

/-- A heap with a new class stays sound when the class is. -/
theorem newClass
    {cell : ClassCell}
    (sound : heap.Sound)
    (fits : cell.Sound heap) :
    (heap.newClass cell).2.Sound := by
  have extension := heap.extends_newClass cell
  refine sound.of_extends extension (fun _ => .inl rfl) (fun _ => .inl rfl)
    (fun _ => .inl rfl) ?_ (fun _ => .inl rfl)
  intro ref held
  by_cases older : heap.Holds (.klass ref)
  · exact .inl older
  · right
    have newest : ref = heap.classes.next := by
      simp only [Holds, Heap.newClass, Store.size_push] at held older
      exact congrArg Ref.mk (show ref.index = heap.classes.size by omega)
    have equal : (heap.newClass cell).2.klass ref = cell := by
      rw [newest]
      exact klass_newClass_self heap cell
    rw [equal]
    exact fits.mono extension

/-- A heap stays sound when the internal name of a class is bound to the
class. -/
theorem bindSelf
    {klass : ClassRef}
    (sound : heap.Sound)
    (scope : ScopeRef)
    (internalName : Option String)
    (held : heap.Holds (.klass klass)) :
    (heap.bindSelf scope internalName klass).Sound := by
  cases internalName with
  | none => exact sound
  | some name => exact sound.bind scope name ⟨.selfReference klass, false⟩ held

/-- A heap stays sound when a sound class is finished in it. -/
theorem finishClass
    {cell : ClassCell}
    (sound : heap.Sound)
    (fits : cell.Sound heap) :
    (heap.finishClass cell).2.Sound :=
  (sound.newClass fits).bindSelf cell.scope cell.internalName
    (heap.holds_newClass cell)

end Sound

/-- A heap with a finished class extends the one before. -/
theorem extends_finishClass (heap : Heap) (cell : ClassCell) :
    heap.Extends (heap.finishClass cell).2 :=
  (heap.extends_newClass cell).trans
    (extends_bindSelf _ cell.scope cell.internalName _)

namespace Step

variable {makes : FunctionCell -> Prop} {heap later : Heap}

/-- A step keeps every cell and what never changes about it. -/
theorem extension (step : Step makes heap later) : heap.Extends later := by
  cases step with
  | symbol description => exact extends_newSymbol heap description
  | scope parent known => exact extends_newScope heap parent
  | classScope outer internalName held =>
      exact extends_openClassScope heap outer internalName
  | declare ref name value isMutable within =>
      exact extends_bind heap ref name _
  | assign ref name value later within assigned =>
      obtain ⟨owner, binding, -, -, -, rfl⟩ := assign_eq_ok assigned
      exact extends_bind heap owner name _
  | object klass known => exact extends_newObject heap klass
  | write ref key value free within =>
      exact extends_defineField heap ref key value
  | define ref klass field value linked declared within =>
      exact extends_defineField heap ref field.key value
  | function cell made sound => exact extends_newFunction heap cell
  | generator yields completion within completes =>
      exact extends_newGenerator heap yields completion
  | next ref => exact extends_nextYield heap ref
  | drain ref => exact extends_drainYields heap ref

/-- After a step, a function is what it was before, or one that may be made. -/
theorem function_cases (step : Step makes heap later) (ref : FunctionRef) :
    later.function ref = heap.function ref ∨ makes (later.function ref) := by
  cases step with
  | function cell made sound =>
      refine (Store.getD_push heap.functions cell ref).imp_right fun equal => ?_
      rw [show (heap.newFunction cell).2.function ref = cell from equal]
      exact made
  | classScope outer internalName held => cases internalName <;> exact .inl rfl
  | assign ref name value later within assigned =>
      obtain ⟨owner, binding, -, -, -, rfl⟩ := assign_eq_ok assigned
      exact .inl rfl
  | _ => exact .inl rfl

/-- Field writes keep a heap sound when no shared member has the key. -/
theorem sound_defineField
    {ref : ObjectRef}
    {key : PropertyKey}
    {value : Value}
    (sound : heap.Sound)
    (extension : heap.Extends (heap.defineField ref key value))
    (within : value.Within heap)
    (free : key ∈ (heap.object ref).fields ∨
      ∀ klass ∈ (heap.object ref).klass, key ∉ (heap.klass klass).prototype) :
    (heap.defineField ref key value).Sound := by
  refine sound.of_extends extension (fun _ => .inl rfl) ?_ (fun _ => .inl rfl)
    (fun _ held => .inl held) (fun _ => .inl rfl)
  intro other
  rcases heap.object_defineField ref other key value with equal | ⟨-, -, equal⟩
  · exact .inl equal
  · right
    rw [equal]
    exact ((sound.object ref).insert within free).mono extension

/-- A step keeps a heap sound. -/
theorem sound
    (step : Step makes heap later)
    (sound : heap.Sound) :
    later.Sound := by
  have extension := step.extension
  cases step with
  | symbol description =>
      exact sound.of_extends extension (fun _ => .inl rfl) (fun _ => .inl rfl)
        (fun _ => .inl rfl) (fun _ held => .inl held) (fun _ => .inl rfl)
  | scope parent known => exact sound.newScope parent known
  | classScope outer internalName held =>
      exact sound.openClassScope internalName held
  | declare ref name value isMutable within =>
      exact sound.bind ref name _ within
  | assign ref name value later within assigned =>
      obtain ⟨owner, binding, -, -, -, rfl⟩ := assign_eq_ok assigned
      exact sound.bind owner name _ within
  | object klass known =>
      refine sound.of_extends extension (fun _ => .inl rfl) ?_
        (fun _ => .inl rfl) (fun _ held => .inl held) (fun _ => .inl rfl)
      intro ref
      refine (Store.getD_push heap.objects _ ref).imp_right fun equal => ?_
      rw [show (heap.newObject klass).2.object ref = _ from equal]
      exact (ObjectCell.sound_new known).mono extension
  | write ref key value free within =>
      refine sound_defineField sound extension within ?_
      rcases (heap.writePlan_eq_store_iff ref key).1 free
        with present | unshared
      · exact .inl present
      · right
        intro klass linked
        rw [← Prototype.lookup_eq_none_iff]
        simpa [sharedMember?, prototype?, Option.mem_def.1 linked]
          using unshared
  | define ref klass field value linked declared within =>
      refine sound_defineField sound extension within (.inr ?_)
      intro other same
      obtain rfl : klass = other := Option.some.inj (linked.symm.trans same)
      -- The class was checked for this field when it was put together.
      exact (sound.klass klass ((sound.object ref).klass klass linked)).apart
        field declared
  | function cell made home =>
      refine sound.of_extends extension (fun _ => .inl rfl)
        (fun _ => .inl rfl) ?_ (fun _ held => .inl held) (fun _ => .inl rfl)
      intro ref
      refine (Store.getD_push heap.functions cell ref).imp_right fun equal => ?_
      rw [show (heap.newFunction cell).2.function ref = cell from equal]
      exact home.mono extension
  | generator yields completion within completes =>
      refine sound.of_extends extension (fun _ => .inl rfl) (fun _ => .inl rfl)
        (fun _ => .inl rfl) (fun _ held => .inl held) ?_
      intro ref
      refine (Store.getD_push heap.generators _ ref).imp_right fun equal => ?_
      rw [show (heap.newGenerator yields completion).2.generator ref =
        _ from equal]
      have all : AllWithin heap (yields ++ [completion]) := by
        simp [within, completes]
      exact all.mono extension
  | next ref =>
      refine sound.of_extends extension (fun _ => .inl rfl) (fun _ => .inl rfl)
        (fun _ => .inl rfl) (fun _ held => .inl held) ?_
      intro other
      refine (Store.getD_set heap.generators ref _ other).imp_right
        fun equal => ?_
      rw [show (heap.nextYield ref).2.generator other = _ from equal]
      exact ((sound.generator ref).next).mono extension
  | drain ref =>
      refine sound.of_extends extension (fun _ => .inl rfl) (fun _ => .inl rfl)
        (fun _ => .inl rfl) (fun _ held => .inl held) ?_
      intro other
      refine (Store.getD_set heap.generators ref _ other).imp_right
        fun equal => ?_
      rw [show (heap.drainYields ref).2.generator other = _ from equal]
      exact ((sound.generator ref).drain).mono extension

end Step

namespace Path

variable {makes : FunctionCell -> Prop} {heap later : Heap}

/-- Along a path every cell stays, and what never changes about it. -/
theorem extension (path : Path makes heap later) : heap.Extends later := by
  induction path with
  | refl heap => exact .refl heap
  | tail _ step earlier => exact earlier.trans step.extension
  | @elaboration _ outside _ outer cell _ _ _ _ _ earlier inner =>
      have opens := outside.extends_openClassScope outer cell.internalName
      exact ((earlier.trans opens).trans inner).trans
        (extends_finishClass _ cell)

/-- A path from a sound heap leads to a sound heap. -/
theorem sound
    (path : Path makes heap later)
    (sound : heap.Sound) :
    later.Sound := by
  induction path with
  | refl => exact sound
  | tail _ step earlier => exact step.sound (earlier sound)
  | elaboration outer cell _ held _ _ fits earlier inner =>
      exact (inner
        ((earlier sound).openClassScope cell.internalName held)).finishClass
        fits

/-- After a path, a function is what it was before, or one that may be made. -/
theorem function_cases (path : Path makes heap later) (ref : FunctionRef) :
    later.function ref = heap.function ref ∨ makes (later.function ref) := by
  induction path with
  | refl => exact .inl rfl
  | tail _ step earlier =>
      rcases step.function_cases ref with same | made
      · rw [same]
        exact earlier
      · exact .inr made
  | @elaboration _ outside inside outer cell _ _ _ _ _ earlier inner =>
      have opens :
          (outside.openClassScope outer cell.internalName).2.function ref =
          outside.function ref := by
        cases cell.internalName <;> rfl
      have finishes : (inside.finishClass cell).2.function ref =
          inside.function ref := by
        unfold finishClass bindSelf
        cases cell.internalName <;> rfl
      rw [opens] at inner
      rw [finishes]
      rcases inner with same | made
      · rw [same]
        exact earlier
      · exact .inr made

end Path
end Heap
end ClassLowering
