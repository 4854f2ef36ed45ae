import ClassLowering.Proofs.Elaboration.Prototype

/-!
# Soundness of elaborated classes

A class whose keys are free of faults is sound: its functions have its
limits and run in its scope, and no field shares a key with a shared member.
So putting a class together is a path of the heap to one in which the class
can be finished.
-/

namespace ClassLowering

/-- Every item on the right is related to one on the left. -/
theorem exists_left_of_forall₂
    {α β : Type}
    {relation : α -> β -> Prop}
    {left : List α}
    {right : List β}
    (related : List.Forall₂ relation left right)
    {item : β}
    (present : item ∈ right) :
    ∃ source ∈ left, relation source item := by
  induction related with
  | nil => cases present
  | cons first _ hypothesis =>
      rcases List.mem_cons.1 present with rfl | inRest
      · exact ⟨_, List.mem_cons_self, first⟩
      · obtain ⟨source, inLeft, holds⟩ := hypothesis inRest
        exact ⟨source, List.mem_cons_of_mem _ inLeft, holds⟩

/-- One more definition of a key adds its function. -/
theorem PrototypeEntry.mem_functions_define
    {own function : FunctionRef}
    {role : MemberRole}
    {previous : Option PrototypeEntry}
    (present : function ∈ (define own role previous).functions) :
    function = own ∨ ∃ entry ∈ previous, function ∈ entry.functions := by
  cases role with
  | method => exact .inl (List.mem_singleton.1 present)
  | getter =>
      rcases previous with _ | ⟨_ | _ | ⟨getter, setter⟩⟩
      · exact .inl (List.mem_singleton.1 present)
      · exact .inl (List.mem_singleton.1 present)
      · exact .inl (List.mem_singleton.1 present)
      · rcases List.mem_append.1 present with isOwn | kept
        · exact .inl (List.mem_singleton.1 isOwn)
        · exact .inr ⟨.accessor getter setter, rfl,
            List.mem_append_right _ kept⟩
  | setter =>
      rcases previous with _ | ⟨_ | _ | ⟨getter, setter⟩⟩
      · exact .inl (List.mem_singleton.1 present)
      · exact .inl (List.mem_singleton.1 present)
      · exact .inl (List.mem_singleton.1 present)
      · rcases List.mem_append.1 present with kept | isOwn
        · exact .inr ⟨.accessor getter setter, rfl, List.mem_append_left _ kept⟩
        · exact .inl (List.mem_singleton.1 isOwn)

namespace Prototype

/-- The functions of a prototype are those of its entries. -/
theorem mem_functions_iff {prototype : Prototype} {function : FunctionRef} :
    function ∈ prototype.functions ↔
      ∃ slot ∈ prototype.values, function ∈ slot.entry.functions :=
  List.mem_flatMap

/-- A prototype has no functions but those of its definitions. -/
theorem functions_ofDefinitions
    {definitions : List Definition}
    {function : FunctionRef}
    (shared : function ∈ (ofDefinitions definitions).functions) :
    function ∈ definitions.map Definition.function := by
  induction definitions using List.reverseRecOn with
  | nil =>
      obtain ⟨slot, present, held⟩ := mem_functions_iff.1 shared
      rcases OrderedMap.mem_values_insert present with rfl | old
      · cases held
      · cases old
  | append_singleton definitions last hypothesis =>
      rw [ofDefinitions_concat] at shared
      rw [List.map_append, List.mem_append]
      obtain ⟨slot, present, held⟩ := mem_functions_iff.1 shared
      rcases OrderedMap.mem_values_insert present with rfl | old
      · rcases PrototypeEntry.mem_functions_define held
          with rfl | ⟨previous, found, held⟩
        · exact .inr (List.mem_singleton_self _)
        · left
          obtain ⟨before, stored, rfl⟩ := Option.map_eq_some_iff.1 found
          refine hypothesis (mem_functions_iff.2 ⟨before, ?_, held⟩)
          exact OrderedMap.mem_values_of_find? stored
      · exact .inl (hypothesis (mem_functions_iff.2 ⟨slot, old, held⟩))

end Prototype

section Assembly

variable {heap : Heap} {scope : ScopeRef} {limits : Limits}
variable {sources : List (Member PropertyKey Expr × PropertyKey)}
  {parts : List MemberPart}

/-- The functions of a class are held, and are what its members and
constructor make them. -/
theorem assembledClass_functions
    {motive : FunctionCell -> Prop}
    (internalName hint : Option String)
    (constructor : FunctionRef)
    (madeBy : List.Forall₂ (MemberPart.MadeBy heap scope limits) sources parts)
    (heldConstructor : heap.Holds (.function constructor))
    (ofConstructor : motive (heap.function constructor))
    (ofField : ∀ member key body,
      motive (fieldFunction scope limits member key body))
    (ofMember : ∀ member key role,
      motive (memberFunction scope limits member key role)) :
    ∀ function ∈
      (assembledClass scope limits internalName hint parts
        constructor).functions,
      heap.Holds (.function function) ∧ motive (heap.function function) := by
  intro function own
  rcases List.mem_cons.1 own with rfl | further
  · exact ⟨heldConstructor, ofConstructor⟩
  rcases List.mem_append.1 further with initializes | shared
  · obtain ⟨field, present, isInitial⟩ := List.mem_filterMap.1 initializes
    obtain ⟨source, -, made⟩ :=
      exists_left_of_forall₂ (MemberPart.fields_madeBy madeBy) present
    refine ⟨made.held function isInitial, ?_⟩
    cases body : source.1.body with
    | none =>
        rw [made.bare.2 body] at isInitial
        cases isInitial
    | some expression =>
        rw [made.function_eq function isInitial expression body]
        exact ofField _ _ _
  · obtain ⟨definition, present, rfl⟩ :=
      List.mem_map.1 (Prototype.functions_ofDefinitions shared)
    obtain ⟨source, -, made⟩ :=
      exists_left_of_forall₂ (MemberPart.definitions_madeBy madeBy) present
    refine ⟨made.held, ?_⟩
    rw [made.function_eq]
    exact ofMember _ _ _

/-- No definition has the reserved key when nothing is wrong with the keys. -/
theorem unreserved_definitions
    (madeBy : List.Forall₂ (MemberPart.MadeBy heap scope limits) sources parts)
    (faultless : declarationFault?
      (sources.map fun source => (source.1.kind, source.2)) = none) :
    ∀ definition ∈ parts.filterMap MemberPart.definition?,
      definition.key ≠ .constructor := by
  intro definition present
  obtain ⟨source, inSources, made⟩ :=
    exists_left_of_forall₂ (MemberPart.definitions_madeBy madeBy) present
  rw [made.key_eq]
  exact ((declarationFault?_eq_none_iff _).1 faultless).1
    (source.1.kind, source.2)
    (List.mem_map_of_mem (List.mem_filter.1 inSources).1)

/-- A class whose members have sound keys is sound. -/
theorem assembledClass_sound
    {constructor : FunctionRef}
    (internalName hint : Option String)
    (held : heap.Holds (.scope scope))
    (heldConstructor : heap.Holds (.function constructor))
    (bounded : (heap.function constructor).limits = limits)
    (home : (heap.function constructor).scope = some scope)
    (madeBy : List.Forall₂ (MemberPart.MadeBy heap scope limits) sources parts)
    (faultless : declarationFault?
      (sources.map fun source => (source.1.kind, source.2)) = none) :
    (assembledClass scope limits internalName hint parts constructor).Sound
      heap := by
  obtain ⟨ordinary, apart⟩ := (declarationFault?_eq_none_iff _).1 faultless
  have fields := MemberPart.fields_madeBy madeBy
  have definitions := MemberPart.definitions_madeBy madeBy
  have functions := assembledClass_functions
    (motive := fun cell => cell.limits = limits ∧ cell.scope = some scope)
    internalName hint
    constructor madeBy heldConstructor ⟨bounded, home⟩ (fun _ _ _ => ⟨rfl, rfl⟩)
    (fun _ _ _ => ⟨rfl, rfl⟩)
  have unreserved := unreserved_definitions madeBy faultless
  refine ⟨held, ⟨heldConstructor, bounded⟩, ?_, ?_, ?_, ?_, ?_⟩
  · intro field present initial isInitial
    obtain ⟨heldInitial, bounds, -⟩ := functions initial (List.mem_cons_of_mem _
      (List.mem_append_left _
        (List.mem_filterMap.2 ⟨field, present, isInitial⟩)))
    exact ⟨heldInitial, bounds⟩
  · intro function shared
    obtain ⟨heldShared, bounds, -⟩ := functions function (List.mem_cons_of_mem _
      (List.mem_append_right _ shared))
    exact ⟨heldShared, bounds⟩
  · exact Prototype.lookup_ofDefinitions_constructor _ unreserved
  · intro field present shared
    obtain ⟨source, inSources, made⟩ := exists_left_of_forall₂ fields present
    obtain ⟨declared, isField⟩ := List.mem_filter.1 inSources
    have own : (source.1.kind, source.2) ∈
        sources.map fun source => (source.1.kind, source.2) :=
      List.mem_map_of_mem declared
    rcases Prototype.mem_ofDefinitions.1 shared with reserved | defined
    · exact ordinary _ own (made.key_eq ▸ reserved)
    · rw [MemberPart.keys_definitions definitions,
        List.contains_iff_exists_mem_beq, made.key_eq] at defined
      obtain ⟨key, among, same⟩ := defined
      obtain ⟨other, inOthers, rfl⟩ := List.mem_map.1 among
      obtain ⟨otherDeclared, isShared⟩ := List.mem_filter.1 inOthers
      exact apart _ own (of_decide_eq_true isField) (other.1.kind, other.2)
        (List.mem_map_of_mem otherDeclared) (of_decide_eq_true isShared)
        (BEq.symm same)
  · exact fun function own => (functions function own).2.2

/-- Putting a class together is a path of the heap to one in which the
class is finished. -/
theorem assembleClass_finishes
    {state : State}
    {members : List (Member PropertyKey Expr)}
    {keys : List PropertyKey}
    (makes : FunctionCell -> Prop)
    (total : ∀ cell, makes cell)
    (limits : Limits)
    (internalName hint : Option String)
    (constructor : Option (ConstructorPart Expr))
    (held : state.heap.Holds (.scope scope))
    (faultless : declarationFault?
      ((members.map Member.kind).zip keys) = none) :
    ∃ inside cell,
      assembleClass scope limits internalName hint constructor
          (members.zip keys) state =
          .ok (inside.finishClass cell).1
            { state with heap := (inside.finishClass cell).2 } ∧
        state.heap.Path makes inside ∧ inside.scopes = state.heap.scopes ∧
          cell.Sound inside ∧
          cell.scope = scope ∧ cell.internalName = internalName := by
  obtain ⟨parts, middle, contributions, applied⟩ :=
    assembleClass_apply scope limits
    internalName hint constructor (members.zip keys) state
  let cell := constructorFunction scope limits
    (displayName internalName hint) constructor
  let own := middle.newFunction cell
  have earlier : state.heap.Path makes middle :=
    contributions.path makes total held
  have heldMiddle : middle.Holds (.scope scope) :=
    earlier.extension.holds _ held
  have functionStep : middle.Step makes own.2 := by
    refine .function cell (total cell) ?_
    rintro home ⟨⟩
    exact heldMiddle
  have ownExtension := functionStep.extension
  have newest : own.2.function own.1 = cell :=
    middle.function_newFunction_self cell
  refine ⟨own.2, assembledClass scope limits internalName hint parts
    own.1, applied,
    earlier.tail functionStep, contributions.scopes_eq, ?_, rfl, rfl⟩
  have madeBy :
      List.Forall₂ (MemberPart.MadeBy own.2 scope limits)
        (members.zip keys) parts :=
    contributions.madeBy.imp fun source part partMade =>
      partMade.mono ownExtension
  refine assembledClass_sound internalName hint
    (ownExtension.holds _ heldMiddle)
    (middle.holds_newFunction cell) ?_ ?_ madeBy ?_
  · rw [newest]
    rfl
  · rw [newest]
    rfl
  · rw [← faultless, List.zip_map_left]
    rfl

end Assembly

/-- The prototype of a class that was elaborated holds the link to the class. -/
theorem link_of_elaborateAs
    {call : Caller}
    {holding : Holding}
    {limits : Limits}
    {draft : ClassDraft}
    {binding : ClassBinding}
    {before after : State}
    {klass : ClassRef}
    (elaborated : elaborateAs call holding limits draft binding before =
      .ok klass after) :
    (after.heap.klass klass).prototype.lookup .constructor =
      some .constructor := by
  obtain ⟨hint, middle, inner, bound⟩ := elaborateAs_eq_ok elaborated
  obtain ⟨keys, evaluated, parts, constructor, -, faultless, madeBy,
      -, equal⟩ :=
    klass_elaborate inner
  have classes : after.heap.klass klass = middle.heap.klass klass := by
    rcases bound with rfl | ⟨name, rfl⟩ <;> rfl
  rw [classes, equal]
  refine Prototype.lookup_ofDefinitions_constructor _
    (unreserved_definitions madeBy ?_)
  rw [← faultless, List.zip_map_left]
  rfl

/-- How an elaboration ends once its keys are settled: without a class, or with
a finished one. -/
inductive Elaborates (draft : ClassDraft) (binding : ClassBinding)
    (scope : ScopeRef)
    (settled : State) : EStateM.Result Interruption State ClassRef -> Prop
  | failed (interruption : Interruption) :
      Elaborates draft binding scope settled (.error interruption settled)
  | finished (inside : Heap) (cell : ClassCell) :
      settled.heap.Path (fun _ => True) inside ->
        inside.scopes = settled.heap.scopes ->
        cell.Sound inside -> cell.scope = scope ->
          cell.internalName = draft.name ->
          Elaborates draft binding scope settled
            (.ok (inside.finishClass cell).1
              { settled with
                heap := binding.settle draft (inside.finishClass cell).1
                  (inside.finishClass cell).2 })

end ClassLowering
