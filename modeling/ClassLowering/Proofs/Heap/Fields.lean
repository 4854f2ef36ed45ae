import ClassLowering.Proofs.Runs.Progress

/-!
# Fields of objects

No object ever loses a field. Its keys only grow at the end, so a field also
keeps its place: what becomes of an object along a run can overwrite a field but
not remove it.

Defining a field creates or overwrites this one field, and nothing else changes
about the object. Whatever its prototype holds under the key is not looked at.
-/

namespace ClassLowering

namespace Heap

/-- The keys of every object stay where they are, and new ones come behind
them. -/
def KeepsFields (old new : Heap) : Prop :=
  ∀ ref, (old.object ref).fields.keys <+: (new.object ref).fields.keys

namespace KeepsFields

variable {first second third : Heap}

/-- Every heap keeps its fields. -/
theorem refl (heap : Heap) : heap.KeepsFields heap := fun _ => List.prefix_rfl

/-- What keeps fields composes. -/
theorem trans
    (earlier : first.KeepsFields second)
    (later : second.KeepsFields third) :
    first.KeepsFields third :=
  fun ref => (earlier ref).trans (later ref)

/-- Heaps with the same objects keep fields. -/
theorem of_objects_eq
    (same : second.objects = first.objects) :
    first.KeepsFields second := by
  intro ref
  have equal : second.object ref = first.object ref := by
    rw [object, object, same]
  exact equal ▸ List.prefix_rfl

/-- A field that is there stays there. -/
theorem mem
    {ref : ObjectRef}
    {key : PropertyKey}
    (keeps : first.KeepsFields second)
    (present : key ∈ (first.object ref).fields) :
    key ∈ (second.object ref).fields := by
  obtain ⟨stored, listed, isKey⟩ := OrderedMap.mem_iff_keys.1 present
  exact OrderedMap.mem_iff_keys.2 ⟨stored, (keeps ref).subset listed, isKey⟩

end KeepsFields

/-- A field that is defined keeps the others, and itself if it was there. -/
theorem keepsFields_defineField
    (heap : Heap)
    (ref : ObjectRef)
    (key : PropertyKey) (value : Value) :
    heap.KeepsFields (heap.defineField ref key value) := by
  intro other
  rcases heap.object_defineField ref other key value
    with equal | ⟨rfl, -, equal⟩
  · exact equal ▸ List.prefix_rfl
  · rw [equal, OrderedMap.keys_insert]
    split
    · exact List.prefix_rfl
    · exact List.prefix_append _ _

/-- A new object keeps the fields of the others. -/
theorem keepsFields_newObject (heap : Heap) (klass : Option ClassRef) :
    heap.KeepsFields (heap.newObject klass).2 := by
  intro ref
  by_cases held : heap.Holds (.object ref)
  · have equal : (heap.newObject klass).2.object ref = heap.object ref :=
      object_newObject held
    exact equal ▸ List.prefix_rfl
  -- A reference that was never handed out stands for an object without fields.
  · have unknown : heap.objects.get? ref = none :=
      Array.getElem?_eq_none (Nat.not_lt.1 held)
    rw [show heap.object ref = default by rw [object, unknown]; rfl]
    exact List.nil_prefix

/-- A step keeps fields. -/
theorem Step.keepsFields
    {makes : FunctionCell -> Prop}
    {heap later : Heap}
    (step : Step makes heap later) :
    heap.KeepsFields later := by
  cases step with
  | object klass known => exact keepsFields_newObject heap klass
  | write ref key value free within =>
      exact keepsFields_defineField heap ref key value
  | define ref klass field value linked declared within =>
      exact keepsFields_defineField heap ref field.key value
  | assign ref name value later within assigned =>
      obtain ⟨owner, binding, -, -, -, rfl⟩ := assign_eq_ok assigned
      exact .of_objects_eq rfl
  | classScope outer internalName held =>
      cases internalName <;> exact .of_objects_eq rfl
  | _ => exact .of_objects_eq rfl

/-- A path keeps fields. -/
theorem Path.keepsFields
    {makes : FunctionCell -> Prop}
    {heap later : Heap}
    (path : Path makes heap later) :
    heap.KeepsFields later := by
  induction path with
  | refl heap => exact .refl heap
  | tail _ step earlier => exact earlier.trans step.keepsFields
  | @elaboration _ outside inside outer cell _ _ _ _ _ earlier inner =>
      have opens :
          outside.KeepsFields
            (outside.openClassScope outer cell.internalName).2 := by
        cases cell.internalName <;> exact .of_objects_eq rfl
      have finishes : inside.KeepsFields (inside.finishClass cell).2 := by
        unfold finishClass bindSelf
        cases cell.internalName <;> exact .of_objects_eq rfl
      exact ((earlier.trans opens).trans inner).trans finishes

/-- What defining a field does to an object that the heap holds. -/
theorem object_defineField_self
    {heap : Heap}
    {ref : ObjectRef}
    (held : heap.Holds (.object ref))
    (key : PropertyKey)
    (value : Value) :
    (heap.defineField ref key value).object ref =
      { heap.object ref with fields :=
        (heap.object ref).fields.insert key value } := by
  obtain ⟨cell, found⟩ : ∃ cell, heap.objects.get? ref = some cell :=
    ⟨_, Array.getElem?_eq_getElem held⟩
  simp only [object, defineField, Store.get?_modify_self, found,
    Option.map_some, Option.getD_some]

/-- A field that is defined has the value, and the others keep theirs. -/
theorem find?_defineField
    {heap : Heap}
    {ref : ObjectRef}
    (held : heap.Holds (.object ref))
    (key other : PropertyKey)
    (value : Value) :
    ((heap.defineField ref key value).object ref).fields.find? other =
      if key == other then some value
        else (heap.object ref).fields.find? other := by
  rw [object_defineField_self held]
  exact OrderedMap.find?_insert _ key value other

/-- A field that is defined is there. -/
theorem mem_defineField
    {heap : Heap}
    {ref : ObjectRef}
    (held : heap.Holds (.object ref))
    (key : PropertyKey)
    (value : Value) :
    key ∈ ((heap.defineField ref key value).object ref).fields := by
  rw [object_defineField_self held]
  exact OrderedMap.mem_insert.2 (.inl BEq.rfl)

/-- A field that is defined stays in its place, or comes last if it is new. -/
theorem keys_defineField
    {heap : Heap}
    {ref : ObjectRef}
    (held : heap.Holds (.object ref))
    (key : PropertyKey)
    (value : Value) :
    ((heap.defineField ref key value).object ref).fields.keys =
      if key ∈ (heap.object ref).fields then (heap.object ref).fields.keys
      else (heap.object ref).fields.keys ++ [key] := by
  rw [object_defineField_self held]
  exact OrderedMap.keys_insert _ key value

end Heap

/-- A move keeps fields. -/
theorem State.Moves.keepsFields
    {makes : FunctionCell -> Prop}
    {before after : State}
    (moves : before.Moves makes after) :
    before.heap.KeepsFields after.heap :=
  moves.path.keepsFields

end ClassLowering
