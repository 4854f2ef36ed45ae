import ClassLowering.Proofs.Elaboration.Soundness
import ClassLowering.Proofs.Outline.FunctionForm

/-!
# Classes by their function form

The prototype of a class starts with the link to the class, and no definition
makes another one. The function form leaves out the link, and says everything
else: classes that were elaborated from different texts, in different programs,
are the same in all that it shows when they have it in common.
-/

namespace ClassLowering

/-- What the definitions of a class mean starts with the link to it, and has
no other link. -/
theorem Prototype.MeansDefinitions.startsWithLink
    {prototype : Prototype}
    {definitions : List Definition}
    (means : prototype.MeansDefinitions definitions) :
    ∃ entries, prototype.entries =
      (.constructor, ⟨.constructor, .ofMethod⟩) :: entries ∧
      ∀ entry ∈ entries, entry.2.entry ≠ .constructor := by
  have keys := means.keys_eq
  have apart := prototype.pairwise_keys
  have found : ∀ entry ∈ prototype.entries,
      prototype.lookup entry.1 = some entry.2.entry := fun entry present =>
    congrArg (Option.map PrototypeSlot.entry)
      (OrderedMap.find?_eq_some_iff.2 ⟨entry.1, present, BEq.rfl⟩)
  cases split : prototype.entries with
  | nil =>
      rw [OrderedMap.keys, split] at keys
      cases keys
  | cons first entries =>
      rw [OrderedMap.keys, split, List.map_cons] at keys apart
      obtain ⟨firstKey, -⟩ := List.cons.inj keys
      obtain ⟨others, -⟩ := List.pairwise_cons.1 apart
      have isFirst : first ∈ prototype.entries := split ▸ List.mem_cons_self
      have link := found first isFirst
      rw [firstKey, means.link_eq, Option.some.injEq] at link
      refine ⟨entries, ?_, ?_⟩
      · have attributes := means.attributes_eq first.2
          (List.mem_map_of_mem isFirst)
        rw [← link] at attributes
        rw [show first = (first.1, ⟨first.2.entry, first.2.attributes⟩)
          from rfl, firstKey, ← link, attributes]
        rfl
      · intro entry present isLink
        -- Another key means a method or an accessor.
        have other : entry.1 ≠ .constructor := by
          intro reserved
          refine others entry.1 (List.mem_map_of_mem present) ?_
          rw [firstKey, reserved]
          exact BEq.rfl
        have meaning := found entry (split ▸ List.mem_cons_of_mem _ present)
        rw [means.lookup_eq entry.1 other, isLink,
          Definition.meaning?] at meaning
        split at meaning
        · cases meaning
        · split at meaning <;> cases meaning

/-- A class was elaborated in some state, and what happened since then
extends the heap. -/
def Heap.HasElaborated (heap : Heap) (klass : ClassRef) : Prop :=
  ∃ (call : Caller) (holding : Holding) (limits : Limits) (draft : ClassDraft)
    (binding : ClassBinding) (before after : State),
    elaborateAs call holding limits draft binding before = .ok klass after ∧
      after.heap.Extends heap

/-- The heap holds a class that was elaborated. -/
theorem holds_of_elaborateAs
    {call : Caller}
    {holding : Holding}
    {limits : Limits}
    {draft : ClassDraft}
    {binding : ClassBinding}
    {before after : State}
    {klass : ClassRef}
    (elaborated : elaborateAs call holding limits draft binding before =
      .ok klass after) :
    after.heap.Holds (.klass klass) := by
  obtain ⟨hint, middle, inner, bound⟩ := elaborateAs_eq_ok elaborated
  obtain ⟨keys, evaluated, -, -, assembled⟩ := elaborate_eq_ok inner
  obtain ⟨parts, functions, -, applied⟩ :=
    assembleClass_apply _ limits draft.name hint
    draft.body.constructor _ evaluated
  have ends := applied.symm.trans assembled
  injection ends with result final
  have held : middle.heap.Holds (.klass klass) := by
    rw [← final, ← result]
    exact (Heap.extends_bindSelf _ _ _ _).holds _ (Heap.holds_newClass _ _)
  rcases bound with rfl | ⟨name, rfl⟩
  · exact held
  · exact (Heap.extends_bind _ _ _ _).holds _ held

/-- The prototype of a class that was elaborated is what definitions mean
that members made. -/
theorem Heap.HasElaborated.exists_definitions
    {heap : Heap}
    {klass : ClassRef}
    (has : heap.HasElaborated klass) :
    ∃ scope limits sources definitions,
      List.Forall₂ (Definition.MadeBy heap scope limits) sources definitions ∧
        (heap.klass klass).prototype.MeansDefinitions definitions := by
  obtain ⟨call, holding, limits, draft, binding, before, after, elaborated,
    extension⟩ := has
  obtain ⟨hint, middle, inner, bound⟩ := elaborateAs_eq_ok elaborated
  obtain ⟨keys, evaluated, parts, constructor, -, faultless, madeBy,
      -, equal⟩ :=
    klass_elaborate inner
  have classes : after.heap.klass klass = middle.heap.klass klass := by
    rcases bound with rfl | ⟨name, rfl⟩ <;> rfl
  have extended : middle.heap.Extends heap := by
    rcases bound with rfl | ⟨name, rfl⟩
    · exact extension
    · exact (Heap.extends_bind _ _ _ _).trans extension
  have unreserved := unreserved_definitions madeBy (by
    rw [← faultless, List.zip_map_left]
    rfl)
  refine ⟨_, _, _, _, MemberPart.definitions_madeBy
    (madeBy.imp fun source part made => made.mono extended), ?_⟩
  rw [extension.klass_eq klass (holds_of_elaborateAs elaborated),
    classes, equal]
  exact Prototype.meansDefinitions_ofDefinitions unreserved

/-- The entries of a class that was elaborated start with the link to it. -/
theorem Heap.HasElaborated.startsWithLink
    {heap : Heap}
    {klass : ClassRef}
    (has : heap.HasElaborated klass) :
    (heap.classOutline klass).StartsWithLink := by
  obtain ⟨_, _, _, definitions, -, means⟩ := has.exists_definitions
  obtain ⟨entries, split, shared⟩ := means.startsWithLink
  let outlined (stored : PropertyKey × PrototypeSlot) : MemberOutline :=
    ⟨stored.1, heap.entryOutline stored.2.entry, stored.2.attributes⟩
  refine ⟨entries.map outlined, congrArg (List.map outlined) split, ?_, ?_⟩
  · intro member present
    obtain ⟨stored, inEntries, rfl⟩ := List.mem_map.1 present
    have kind := shared stored inEntries
    show heap.entryOutline stored.2.entry ≠ .constructor
    cases named : stored.2.entry with
    | constructor => exact absurd named kind
    | method function => exact EntryOutline.noConfusion
    | accessor getter setter => exact EntryOutline.noConfusion
  · intro member present
    obtain ⟨⟨key, entry, attributes⟩, inEntries, rfl⟩ := List.mem_map.1 present
    have listed : (key, ⟨entry, attributes⟩) ∈
        (heap.klass klass).prototype.entries :=
      split ▸ List.mem_cons_of_mem _ inEntries
    have stored := means.attributes_eq ⟨entry, attributes⟩
      (List.mem_map_of_mem listed)
    cases entry <;> exact stored

/--
Two classes with the same function form have the same name, the same parameters,
the same fields in the same order, and the same entries in the same order, each
with its functions and its attributes. Keys can be any texts.
-/
theorem saysSame_of_functionForm
    {heap otherHeap : Heap}
    {klass other : ClassRef}
    (elaborated : heap.HasElaborated klass)
    (otherElaborated : otherHeap.HasElaborated other)
    (legible : (heap.classOutline klass).IsLegible)
    (otherLegible : (otherHeap.classOutline other).IsLegible)
    (same : (heap.classOutline klass).functionForm =
      (otherHeap.classOutline other).functionForm) :
    (heap.classOutline klass).SaysSame (otherHeap.classOutline other) :=
  ClassOutline.saysSame_of_sameForm legible otherLegible
    elaborated.startsWithLink otherElaborated.startsWithLink same

/-- A class with a key that looks like code, a generator, and an accessor
without getter. -/
def quotingDraft (name : Option String) (body : Expr) : ClassDraft where
  name := name
  scope := ⟨0⟩
  body := {
    members := [
      ⟨.method, .literal (.ofText "x\", \x7b\n\\"), true, some body,
        ["first", "rest"], 0⟩,
      ⟨.setter, .computed (.literal (.string "low")), false, some body,
        ["value"], 1⟩,
      ⟨.field, .literal (.ofText "not an identifier"), false, some body, [], 2⟩]
    constructor := some ⟨["only"], some body, 3⟩ }

/-- The outline of a class that is elaborated before the first step. -/
def firstOutline (draft : ClassDraft) (binding : ClassBinding) : ClassOutline :=
  match elaborateAs (callWithin 1) .none .standard draft binding
    Program.initialState with
  | .ok klass after => after.heap.classOutline klass
  | .error _ _ => ⟨"", none, [], [], []⟩

/-- A class with an internal name and one that is called so say the same by
their one form. -/
theorem saysSame_of_functionForm_quotingDraft :
    ∃ klass after other otherAfter,
      elaborateAs (callWithin 1) .none .standard
          (quotingDraft (some "class_1") .nothing)
          .expression Program.initialState = .ok klass after ∧
        elaborateAs (callWithin 1) .none .standard
          (quotingDraft none (.sequence []))
          (.hinted "class_1") Program.initialState = .ok other otherAfter ∧
        (after.heap.classOutline klass).functionForm =
          (otherAfter.heap.classOutline other).functionForm ∧
        (after.heap.classOutline klass).SaysSame
          (otherAfter.heap.classOutline other) := by
  have endsWell : RunM.endsWell (elaborateAs (callWithin 1) .none .standard
      (quotingDraft (some "class_1") .nothing) .expression)
      Program.initialState = true := by
    decide +kernel
  have otherEndsWell : RunM.endsWell (elaborateAs (callWithin 1) .none .standard
      (quotingDraft none (.sequence []))
      (.hinted "class_1")) Program.initialState = true := by
    decide +kernel
  obtain ⟨klass, after, elaborated⟩ := RunM.exists_of_endsWell endsWell
  obtain ⟨other, otherAfter, otherElaborated⟩ :=
    RunM.exists_of_endsWell otherEndsWell
  have outline :
      firstOutline (quotingDraft (some "class_1") .nothing) .expression =
      after.heap.classOutline klass := by
    rw [firstOutline, elaborated]
  have otherOutline :
      firstOutline (quotingDraft none (.sequence [])) (.hinted "class_1") =
      otherAfter.heap.classOutline other := by
    rw [firstOutline, otherElaborated]
  have legible : (after.heap.classOutline klass).IsLegible := by
    rw [← outline]
    constructor <;> decide +kernel
  have otherLegible : (otherAfter.heap.classOutline other).IsLegible := by
    rw [← otherOutline]
    constructor <;> decide +kernel
  have same : (after.heap.classOutline klass).functionForm =
      (otherAfter.heap.classOutline other).functionForm := by
    rw [← outline, ← otherOutline]
    decide +kernel
  refine ⟨klass, after, other, otherAfter, elaborated,
    otherElaborated, same, ?_⟩
  exact saysSame_of_functionForm ⟨_, _, _, _, _, _, _, elaborated, .refl _⟩
    ⟨_, _, _, _, _, _, _, otherElaborated, .refl _⟩ legible otherLegible same

end ClassLowering
