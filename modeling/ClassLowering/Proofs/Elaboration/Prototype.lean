import ClassLowering.Proofs.Elaboration.Assembly
import ClassLowering.Session.Program

/-!
# The prototype of an elaborated class

An elaboration that ends well has evaluated all keys, found nothing wrong with
them and put the class together. The prototype of the class then holds what the
definitions of its members mean, in the order in which their keys first occur.
-/

namespace ClassLowering

/-- Nothing is wrong with keys when none is reserved and no field shares its
key. -/
theorem declarationFault?_eq_none_iff
    (members : List (MemberKind × PropertyKey)) :
    declarationFault? members = none ↔
      (∀ member ∈ members, member.2 ≠ .constructor) ∧
        ∀ field ∈ members, field.1 = .field ->
          ∀ other ∈ members, other.1 ≠ .field -> ¬other.2 == field.2 := by
  rw [declarationFault?]
  cases reserved : reservedIndex? (members.map Prod.snd) with
  | some index =>
      rw [reservedIndex?, List.findIdx?_eq_some_iff_getElem] at reserved
      obtain ⟨bound, isReserved, -⟩ := reserved
      rw [List.getElem_map, PropertyKey.beq_constructor_iff] at isReserved
      have bound' : index < members.length := by simpa using bound
      simp only [reduceCtorEq, false_iff, not_and]
      intro none
      exact absurd isReserved (none _ (List.getElem_mem bound'))
  | none =>
      rw [reservedIndex?, List.findIdx?_eq_none_iff] at reserved
      have ordinary : ∀ member ∈ members, member.2 ≠ .constructor := by
        intro member present isReserved
        have unreserved := reserved member.2 (List.mem_map_of_mem present)
        rw [isReserved, BEq.rfl] at unreserved
        cases unreserved
      simp only [Option.map_eq_none_iff, conflictingKey?, List.find?_eq_none,
        Bool.and_eq_true, decide_eq_true_eq, List.any_eq_true,
        not_and, not_exists]
      constructor
      · intro apart
        refine ⟨ordinary,
          fun field present isField other otherPresent shared same => ?_⟩
        exact apart field present isField other otherPresent shared same
      · rintro ⟨-, apart⟩ field present isField other otherPresent shared same
        exact apart field present isField other otherPresent shared same

/-- No key is reserved when nothing is wrong with the keys of members. -/
theorem ordinary_of_faultless
    {members : List (Member PropertyKey Expr)}
    {keys : List PropertyKey}
    (faultless : declarationFault? ((members.map Member.kind).zip keys) = none)
    (lengths : keys.length = members.length) :
    ∀ key ∈ keys, key ≠ .constructor := by
  intro key present
  obtain ⟨index, bound, equal⟩ := List.mem_iff_getElem.1 present
  have inMembers : index < members.length := by omega
  have inZip : index < ((members.map Member.kind).zip keys).length := by
    rw [List.length_zip, List.length_map]
    omega
  have zipped : (members[index].kind, key) ∈
      (members.map Member.kind).zip keys :=
    List.mem_iff_getElem.2 ⟨index, inZip, by simp [equal]⟩
  exact ((declarationFault?_eq_none_iff _).1 faultless).1 _ zipped

/-- What an elaboration that ends well has done. -/
theorem elaborate_eq_ok
    {call : Caller}
    {holding : Holding}
    {limits : Limits}
    {hint : Option String}
    {draft : ClassDraft}
    {before after : State}
    {klass : ClassRef}
    (elaborated : elaborate call holding limits hint draft before =
      .ok klass after) :
    let members := ClassBody.inOrder draft.body.members
    let opened := before.heap.openClassScope draft.scope draft.name
    ∃ keys evaluated,
      evaluateKeys (call (holding.holdScope opened.1)) opened.1 limits 0
          (members.map Member.key) { before with heap := opened.2 } =
            .ok keys evaluated ∧
        declarationFault? ((members.map Member.kind).zip keys) = none ∧
        assembleClass opened.1 limits draft.name hint draft.body.constructor
          (members.zip keys) evaluated = .ok klass after := by
  intro members opened
  rw [elaborate] at elaborated
  obtain ⟨scope, start, allocated, elaborated⟩ :=
    RunM.bind_eq_ok_iff.1 elaborated
  cases allocated
  obtain ⟨keys, evaluated, evaluatedKeys, elaborated⟩ :=
    RunM.bind_eq_ok_iff.1 elaborated
  refine ⟨keys, evaluated, evaluatedKeys, ?_⟩
  cases fault : declarationFault? ((members.map Member.kind).zip keys) with
  | some cause =>
      rw [fault] at elaborated
      cases elaborated
  | none =>
      rw [fault] at elaborated
      exact ⟨rfl, elaborated⟩

/-- Every way of elaborating a class elaborates it, and then binds at most a
name. -/
theorem elaborateAs_eq_ok
    {call : Caller}
    {holding : Holding}
    {limits : Limits}
    {draft : ClassDraft}
    {binding : ClassBinding}
    {before after : State}
    {klass : ClassRef}
    (elaborated : elaborateAs call holding limits draft binding before =
      .ok klass after) :
    ∃ hint middle, elaborate call holding limits hint draft before =
      .ok klass middle ∧ (after = middle ∨ ∃ name, after =
        { middle with heap :=
          middle.heap.declare draft.scope name (.klass klass) }) := by
  cases binding with
  | expression => exact ⟨none, after, elaborated, .inl rfl⟩
  | hinted name => exact ⟨some name, after, elaborated, .inl rfl⟩
  | declaration =>
      rw [elaborateAs, declareClass] at elaborated
      cases named : draft.name with
      | none =>
          rw [named] at elaborated
          cases elaborated
      | some name =>
          rw [named] at elaborated
          obtain ⟨made, middle, first, rest⟩ := RunM.bind_eq_ok_iff.1 elaborated
          cases rest
          exact ⟨none, middle, first, .inr ⟨name, rfl⟩⟩

/-- As many keys are evaluated as there are members. -/
theorem length_evaluateKeys
    {call : Invoker}
    {scope : ScopeRef}
    {limits : Limits}
    {index : Nat}
    {written : List (MemberKey PropertyKey Expr)}
    {before after : State}
    {keys : List PropertyKey}
    (evaluated : evaluateKeys call scope limits index written before =
      .ok keys after) :
    keys.length = written.length := by
  induction written generalizing index before keys with
  | nil =>
      cases evaluated
      rfl
  | cons key rest hypothesis =>
      rw [evaluateKeys] at evaluated
      obtain ⟨first, middle, -, evaluated⟩ := RunM.bind_eq_ok_iff.1 evaluated
      obtain ⟨others, last, evaluatedRest, ended⟩ :=
        RunM.bind_eq_ok_iff.1 evaluated
      cases ended
      rw [List.length_cons, List.length_cons, hypothesis evaluatedRest]

/-- The class that an elaboration ends with, as it is in the heap. -/
theorem klass_elaborate
    {call : Caller}
    {holding : Holding}
    {limits : Limits}
    {hint : Option String}
    {draft : ClassDraft}
    {before after : State}
    {klass : ClassRef}
    (elaborated : elaborate call holding limits hint draft before =
      .ok klass after) :
    let members := ClassBody.inOrder draft.body.members
    let opened := before.heap.openClassScope draft.scope draft.name
    ∃ keys evaluated parts constructor,
      evaluateKeys (call (holding.holdScope opened.1)) opened.1 limits 0
          (members.map Member.key) { before with heap := opened.2 } =
            .ok keys evaluated ∧
        declarationFault? ((members.map Member.kind).zip keys) = none ∧
        List.Forall₂ (MemberPart.MadeBy after.heap opened.1 limits)
          (members.zip keys) parts ∧
        (parts.flatMap MemberPart.functions).Nodup ∧
        after.heap.klass klass =
          assembledClass opened.1 limits draft.name hint parts constructor := by
  intro members opened
  obtain ⟨keys, evaluated, evaluatedKeys, faultless, assembled⟩ :=
    elaborate_eq_ok elaborated
  obtain ⟨parts, middle, contributions, applied⟩ :=
    assembleClass_apply opened.1 limits
    draft.name hint draft.body.constructor (members.zip keys) evaluated
  let own := middle.newFunction (constructorFunction opened.1 limits
    (displayName draft.name hint) draft.body.constructor)
  let made := own.2.newClass
    (assembledClass opened.1 limits draft.name hint parts own.1)
  have extension :
      middle.Extends (made.2.bindSelf opened.1 draft.name made.1) :=
    (middle.extends_newFunction _).trans
      ((own.2.extends_newClass _).trans (made.2.extends_bindSelf _ _ _))
  have ends := applied.symm.trans assembled
  injection ends with result final
  refine ⟨keys, evaluated, parts, own.1, evaluatedKeys, faultless, ?_,
    contributions.nodup, ?_⟩
  · rw [← final]
    exact contributions.madeBy.imp fun source part partMade =>
      partMade.mono extension
  · rw [← final, ← result, (made.2.extends_bindSelf _ _ _).klass_eq _
      (own.2.holds_newClass _)]
    exact own.2.klass_newClass_self _

namespace Prototype

/-- A prototype is what the definitions of a class mean. -/
structure MeansDefinitions (prototype : Prototype)
    (definitions : List Definition) : Prop where
  /-- The link to the class comes first, then the keys as they are first
  defined. -/
  keys_eq : prototype.keys = .constructor ::
    (definitions.map Definition.key).eraseDups
  /-- No definition replaces the link to the class. -/
  link_eq : prototype.lookup .constructor = some .constructor
  /-- Every other key holds what it means by the definitions. -/
  lookup_eq : ∀ key, key ≠ .constructor ->
    prototype.lookup key = Definition.meaning? definitions key
  /-- Accessors can be configured; methods and the link can be written over as
  well. -/
  attributes_eq : ∀ slot ∈ prototype.values, slot.attributes =
    match slot.entry with
    | .accessor _ _ => ⟨false, false, true⟩
    | .constructor | .method _ => ⟨true, false, true⟩
  /-- An enumeration shows nothing of it. -/
  enumerableKeys_eq : prototype.enumerableKeys = []

/-- The prototype that takes definitions of ordinary keys is what they mean. -/
theorem meansDefinitions_ofDefinitions
    {definitions : List Definition}
    (ordinary : ∀ definition ∈ definitions, definition.key ≠ .constructor) :
    (ofDefinitions definitions).MeansDefinitions definitions where
  keys_eq := keys_ofDefinitions definitions ordinary
  link_eq := lookup_ofDefinitions_constructor definitions ordinary
  lookup_eq _ different := lookup_ofDefinitions definitions different
  attributes_eq _ present := attributes_ofDefinitions present
  enumerableKeys_eq := by
    rw [enumerableKeys, List.map_eq_nil_iff, List.filter_eq_nil_iff]
    rintro ⟨key, slot⟩ listed
    have stored : slot ∈ (ofDefinitions definitions).values :=
      List.mem_map_of_mem listed
    rw [attributes_ofDefinitions stored]
    cases slot.entry <;> exact Bool.false_ne_true

end Prototype

/--
Whenever a class is elaborated, its prototype is what the definitions of its
members mean. The definitions are those of the members that are no fields, by
position, each under its evaluated key and with a function of its own.
-/
theorem prototype_of_elaborateAs
    {call : Caller}
    {holding : Holding}
    {limits : Limits}
    {draft : ClassDraft}
    {binding : ClassBinding}
    {before after : State}
    {klass : ClassRef}
    (elaborated : elaborateAs call holding limits draft binding before =
      .ok klass after) :
    let opened := before.heap.openClassScope draft.scope draft.name
    ∃ members keys evaluated definitions,
      ClassBody.StablyOrders members draft.body.members ∧
        evaluateKeys (call (holding.holdScope opened.1)) opened.1 limits 0
          (members.map Member.key) { before with heap := opened.2 } =
            .ok keys evaluated ∧
        keys.length = members.length ∧
        List.Forall₂ (Definition.MadeBy after.heap opened.1 limits)
          ((members.zip keys).filter fun source => source.1.kind ≠ .field)
          definitions ∧
        (definitions.map Definition.function).Nodup ∧
        (after.heap.klass klass).prototype.MeansDefinitions definitions := by
  intro opened
  let members := ClassBody.inOrder draft.body.members
  obtain ⟨hint, middle, elaborated, bound⟩ := elaborateAs_eq_ok elaborated
  obtain ⟨keys, evaluated, parts, constructor, evaluatedKeys, faultless,
    madeBy, nodup, equal⟩ := klass_elaborate elaborated
  have lengths : keys.length = members.length := by
    rw [length_evaluateKeys evaluatedKeys, List.length_map]
  have extension : middle.heap.Extends after.heap := by
    rcases bound with rfl | ⟨name, rfl⟩
    · exact .refl _
    · exact Heap.extends_bind _ _ _ _
  have classes : after.heap.klass klass = middle.heap.klass klass := by
    rcases bound with rfl | ⟨name, rfl⟩ <;> rfl
  have definitionsMadeBy := MemberPart.definitions_madeBy
    (madeBy.imp fun source part made => made.mono extension)
  refine ⟨members, keys, evaluated, parts.filterMap MemberPart.definition?,
    ClassBody.stablyOrders_inOrder _, evaluatedKeys, lengths, definitionsMadeBy,
    MemberPart.nodup_definitions nodup, ?_⟩
  rw [classes, equal]
  apply Prototype.meansDefinitions_ofDefinitions
  intro definition present
  have declared : definition.key ∈ keys := by
    have among :
        definition.key ∈ (parts.filterMap MemberPart.definition?).map
          Definition.key :=
      List.mem_map_of_mem present
    rw [MemberPart.keys_definitions definitionsMadeBy] at among
    obtain ⟨source, inSources, equal⟩ := List.mem_map.1 among
    rw [← equal]
    exact (List.of_mem_zip (List.mem_filter.1 inSources).1).2
  exact ordinary_of_faultless faultless lengths definition.key declared

/-- A class with a method that a getter replaces, a setter that joins
it, and a field. -/
def mixedDraft : ClassDraft where
  name := none
  scope := ⟨0⟩
  body := {
    members := [
      ⟨.setter, .literal (.ofText "a"), false, none, ["value"], 3⟩,
      ⟨.method, .literal (.ofText "a"), false, none, [], 0⟩,
      ⟨.getter, .computed (.literal (.string "a")), false, none, [], 1⟩,
      ⟨.field, .literal (.ofText "f"), false, none, [], 1⟩,
      ⟨.method, .literal (.ofText "b"), true, none, [], 2⟩]
    constructor := none }

/-- The mixed class is elaborated, and its prototype is what its
definitions mean. -/
theorem prototype_of_elaborateAs_mixedDraft :
    let before := Program.initialState
    let opened := before.heap.openClassScope mixedDraft.scope mixedDraft.name
    ∃ klass after,
      elaborateAs (callWithin 1) .none .standard mixedDraft .expression before =
          .ok klass after ∧
        ∃ members keys evaluated definitions,
          ClassBody.StablyOrders members mixedDraft.body.members ∧
            evaluateKeys (callWithin 1 (Holding.none.holdScope opened.1))
              opened.1 .standard 0
              (members.map Member.key) { before with heap := opened.2 } =
                .ok keys evaluated ∧
            keys.length = members.length ∧
            List.Forall₂ (Definition.MadeBy after.heap opened.1 .standard)
              ((members.zip keys).filter fun source => source.1.kind ≠ .field)
              definitions ∧
            (definitions.map Definition.function).Nodup ∧
            (after.heap.klass klass).prototype.MeansDefinitions
              definitions := by
  have endsWell : RunM.endsWell
      (elaborateAs (callWithin 1) .none .standard mixedDraft .expression)
      Program.initialState = true := by decide +kernel
  obtain ⟨klass, after, elaborated⟩ := RunM.exists_of_endsWell endsWell
  exact ⟨klass, after, elaborated, prototype_of_elaborateAs elaborated⟩

end ClassLowering
