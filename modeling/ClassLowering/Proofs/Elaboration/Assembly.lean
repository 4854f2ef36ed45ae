import ClassLowering.Proofs.Elaboration.Meaning
import ClassLowering.Proofs.Elaboration.Members

/-!
# Putting a class together

The members of a class take effect in the order of their positions. Those that
are no fields make its definitions, the others its fields, each in this order.
The class cell is made from them once the keys are known to be sound, and
nothing else changes but the meaning of the internal name.
-/

namespace ClassLowering

namespace ClassBody

variable {κ β : Type}

/-- Inserting a member adds it. -/
theorem insertByPosition_perm
    (member : Member κ β)
    (members : List (Member κ β)) :
    (insertByPosition member members).Perm (member :: members) := by
  induction members with
  | nil => exact .refl _
  | cons first rest hypothesis =>
      rw [insertByPosition]
      split
      · exact .refl _
      · exact (hypothesis.cons first).trans (.swap member first rest)

/-- Inserting a member keeps the order of positions. -/
theorem pairwise_insertByPosition
    (member : Member κ β)
    {members : List (Member κ β)}
    (ordered : members.Pairwise fun left right =>
      left.position ≤ right.position) :
    (insertByPosition member members).Pairwise
      fun left right => left.position ≤ right.position := by
  induction members with
  | nil => simp [insertByPosition]
  | cons first rest hypothesis =>
      obtain ⟨least, restOrdered⟩ := List.pairwise_cons.1 ordered
      rw [insertByPosition]
      split
      next before =>
        refine List.pairwise_cons.2 ⟨?_, ordered⟩
        intro other present
        rcases List.mem_cons.1 present with rfl | inRest
        · exact before
        · exact UInt32.le_trans before (least other inRest)
      next behind =>
        refine List.pairwise_cons.2 ⟨?_, hypothesis restOrdered⟩
        intro other present
        rcases List.mem_cons.1
            ((insertByPosition_perm member rest).subset present) with
          rfl | inRest
        · exact UInt32.le_of_lt (UInt32.not_le.1 behind)
        · exact least other inRest

/-- Inserting a member puts it in front of the members of its position. -/
theorem filter_insertByPosition
    (member : Member κ β)
    (members : List (Member κ β))
    (position : Position) :
    (insertByPosition member members).filter
      (fun other => other.position = position) =
      (member :: members).filter fun other => other.position = position := by
  induction members with
  | nil => rfl
  | cons first rest hypothesis =>
      rw [insertByPosition]
      split
      next => rfl
      next behind =>
        rw [List.filter_cons, hypothesis]
        by_cases here : member.position = position
        · have elsewhere : first.position ≠ position := by
            rintro rfl
            exact behind (here ▸ UInt32.le_refl _)
          simp [here, elsewhere]
        · simp [List.filter_cons, here]

/-- Ordering members by position loses and adds none. -/
theorem inOrder_perm
    (members : List (Member κ β)) :
    (inOrder members).Perm members := by
  induction members with
  | nil => exact .refl _
  | cons member rest hypothesis =>
      exact (insertByPosition_perm member (inOrder rest)).trans
        (hypothesis.cons member)

/-- Positions do not decrease in order. -/
theorem pairwise_inOrder (members : List (Member κ β)) :
    (inOrder members).Pairwise fun left right =>
      left.position ≤ right.position := by
  induction members with
  | nil => exact .nil
  | cons member rest hypothesis =>
      exact pairwise_insertByPosition member hypothesis

/-- Members of one position keep the order in which they are written. -/
theorem filter_inOrder (members : List (Member κ β)) (position : Position) :
    (inOrder members).filter (fun other => other.position = position) =
      members.filter fun other => other.position = position := by
  induction members with
  | nil => rfl
  | cons member rest hypothesis =>
      rw [inOrder, filter_insertByPosition, List.filter_cons,
        List.filter_cons, hypothesis]

/-- A list has the members of another one by position, and keeps their
order where it can. -/
structure StablyOrders (ordered members : List (Member κ β)) : Prop where
  perm : ordered.Perm members
  ascending : ordered.Pairwise fun left right => left.position ≤ right.position
  stable : ∀ position : Position,
    ordered.filter (fun other => other.position = position) =
    members.filter fun other => other.position = position

/-- Members take effect in the stable order of their positions. -/
theorem stablyOrders_inOrder (members : List (Member κ β)) :
    StablyOrders (inOrder members) members :=
  ⟨inOrder_perm members, pairwise_inOrder members, filter_inOrder members⟩

end ClassBody

namespace MemberPart

variable {heap : Heap} {scope : ScopeRef} {limits : Limits}

@[simp] theorem field?_field (declaration : FieldDeclaration) :
    (MemberPart.field declaration).field? = some declaration := rfl

@[simp] theorem definition?_definition (made : Definition) :
    (MemberPart.definition made).definition? = some made := rfl

/-- The definitions among the parts are those of the members that are no
fields. -/
theorem definitions_madeBy
    {sources : List (Member PropertyKey Expr × PropertyKey)}
    {parts : List MemberPart}
    (madeBy : List.Forall₂ (MadeBy heap scope limits) sources parts) :
    List.Forall₂ (Definition.MadeBy heap scope limits)
      (sources.filter fun source => source.1.kind ≠ .field)
      (parts.filterMap definition?) := by
  induction madeBy with
  | nil => exact .nil
  | @cons source part sources parts made rest hypothesis =>
      cases part with
      | field declaration =>
          have field : source.1.kind = .field :=
            FieldDeclaration.MadeBy.kind_eq made
          rw [List.filterMap_cons_none rfl,
            List.filter_cons_of_neg (by simp [field])]
          exact hypothesis
      | definition own =>
          have shared : source.1.kind ≠ .field := by
            intro field
            have plays := Definition.MadeBy.role_eq made
            simp [field, MemberKind.role?] at plays
          rw [List.filterMap_cons_some (definition?_definition own),
            List.filter_cons_of_pos (by simp [shared])]
          exact .cons made hypothesis

/-- The fields among the parts are those of the members that are fields. -/
theorem fields_madeBy
    {sources : List (Member PropertyKey Expr × PropertyKey)}
    {parts : List MemberPart}
    (madeBy : List.Forall₂ (MadeBy heap scope limits) sources parts) :
    List.Forall₂ (FieldDeclaration.MadeBy heap scope limits)
      (sources.filter fun source => source.1.kind = .field)
      (parts.filterMap field?) := by
  induction madeBy with
  | nil => exact .nil
  | @cons source part sources parts made rest hypothesis =>
      cases part with
      | field declaration =>
          have field : source.1.kind = .field :=
            FieldDeclaration.MadeBy.kind_eq made
          rw [List.filterMap_cons_some (field?_field declaration),
            List.filter_cons_of_pos (by simp [field])]
          exact .cons made hypothesis
      | definition own =>
          have shared : source.1.kind ≠ .field := by
            intro field
            have plays := Definition.MadeBy.role_eq made
            simp [field, MemberKind.role?] at plays
          rw [List.filterMap_cons_none rfl,
            List.filter_cons_of_neg (by simp [shared])]
          exact hypothesis

/-- Definitions have the evaluated keys of their members. -/
theorem keys_definitions
    {sources : List (Member PropertyKey Expr × PropertyKey)}
    {definitions : List Definition}
    (madeBy : List.Forall₂ (Definition.MadeBy heap scope limits) sources
      definitions) :
    definitions.map Definition.key = sources.map Prod.snd := by
  induction madeBy with
  | nil => rfl
  | cons made _ hypothesis =>
      rw [List.map_cons, List.map_cons, made.key_eq, hypothesis]

/-- Different definitions run different functions when all functions of
the parts differ. -/
theorem nodup_definitions
    {parts : List MemberPart}
    (nodup : (parts.flatMap functions).Nodup) :
    ((parts.filterMap definition?).map Definition.function).Nodup := by
  refine List.Sublist.nodup ?_ nodup
  clear nodup
  induction parts with
  | nil => exact .slnil
  | cons part rest hypothesis =>
      cases part with
      | field declaration =>
          rw [List.filterMap_cons_none rfl, List.flatMap_cons]
          exact hypothesis.trans (List.sublist_append_right _ _)
      | definition own =>
          rw [List.filterMap_cons_some (definition?_definition own),
            List.flatMap_cons, List.map_cons]
          exact hypothesis.cons_cons own.function

end MemberPart

/-- The constructor function of a class. A missing procedure does nothing. -/
def constructorFunction (scope : ScopeRef) (limits : Limits) (name : String)
    (constructor : Option (ConstructorPart Expr)) : FunctionCell where
  name := name
  kind := .constructor
  params := (constructor.map ConstructorPart.params).getD []
  body := (constructor.bind ConstructorPart.body).getD .nothing
  scope := some scope
  limits := limits

/-- The class that is put together from parts and a constructor function. -/
def assembledClass (scope : ScopeRef) (limits : Limits)
    (internalName hint : Option String)
    (parts : List MemberPart) (constructor : FunctionRef) : ClassCell where
  name := displayName internalName hint
  internalName := internalName
  constructor := constructor
  fields := parts.filterMap MemberPart.field?
  prototype := .ofDefinitions (parts.filterMap MemberPart.definition?)
  scope := scope
  limits := limits

/-- The class is made from the parts of its members, and then its internal
name means it. -/
theorem assembleClass_apply
    (scope : ScopeRef)
    (limits : Limits)
    (internalName hint : Option String)
    (constructor : Option (ConstructorPart Expr))
    (sources : List (Member PropertyKey Expr × PropertyKey))
    (state : State) :
    ∃ parts middle,
      Contributions scope limits sources state.heap parts middle ∧
        let own := middle.newFunction
          (constructorFunction scope limits
            (displayName internalName hint) constructor)
        let made :=
          own.2.newClass
            (assembledClass scope limits internalName hint parts own.1)
        assembleClass scope limits internalName hint constructor sources state =
          .ok made.1
            { state with heap :=
              made.2.bindSelf scope internalName made.1 } := by
  obtain ⟨parts, middle, elaborated, contributions⟩ :=
    elaborateMembers_apply scope limits sources state
  refine ⟨parts, middle, contributions, ?_⟩
  rw [assembleClass, RunM.bind_of_ok elaborated]
  rfl

/-- An elaboration evaluates keys, and puts the class together if there is no
fault in them. -/
theorem elaborate_apply
    (call : Caller)
    (holding : Holding)
    (limits : Limits)
    (hint : Option String)
    (draft : ClassDraft)
    (before : State) :
    let members := ClassBody.inOrder draft.body.members
    let opening := before.heap.openClassScope draft.scope draft.name
    elaborate call holding limits hint draft before =
      match evaluateKeys (call (holding.holdScope opening.1)) opening.1 limits 0
          (members.map Member.key) { before with heap := opening.2 } with
      | .error interruption after => .error interruption after
      | .ok keys after =>
          match declarationFault? ((members.map Member.kind).zip keys) with
          | some cause => .error (.fault cause) after
          | none => assembleClass opening.1 limits draft.name hint
              draft.body.constructor (members.zip keys) after := by
  intro members opening
  rw [elaborate, RunM.bind_of_ok (RunM.allocate_apply _ _)]
  cases evaluates :
      evaluateKeys (call (holding.holdScope opening.1)) opening.1 limits 0
      (members.map Member.key) { before with heap := opening.2 } with
  | error interruption after => exact RunM.bind_of_error evaluates
  | ok keys after =>
      refine (RunM.bind_of_ok evaluates).trans ?_
      dsimp only
      cases declarationFault? ((members.map Member.kind).zip keys) <;> rfl

namespace ClassBinding

/-- The name for messages that a way of elaborating a class hands on. -/
def hint? : ClassBinding -> Option String
  | .hinted name => some name
  | _ => none

/-- What a way of elaborating a class does with the class. -/
def settle (binding : ClassBinding) (draft : ClassDraft) (klass : ClassRef)
    (heap : Heap) : Heap :=
  match binding, draft.name with
  | .declaration, some name => heap.declare draft.scope name (.klass klass)
  | _, _ => heap

/-- What is done with a class extends the heap. -/
theorem extends_settle
    (binding : ClassBinding)
    (draft : ClassDraft)
    (klass : ClassRef)
    (heap : Heap) :
    heap.Extends (binding.settle draft klass heap) := by
  unfold settle
  split
  · exact Heap.extends_bind _ _ _ _
  · exact .refl heap

end ClassBinding

/-- Every way of elaborating a class does so, and then does something
with the class. -/
theorem elaborateAs_apply
    {draft : ClassDraft}
    {binding : ClassBinding}
    (call : Caller)
    (holding : Holding)
    (limits : Limits)
    (before : State)
    (named : binding = .declaration -> draft.name.isSome = true) :
    elaborateAs call holding limits draft binding before =
      match elaborate call holding limits binding.hint? draft before with
      | .error interruption after => .error interruption after
      | .ok klass after => .ok klass
          { after with heap := binding.settle draft klass after.heap } := by
  cases binding with
  | expression =>
      simp only [elaborateAs, ClassBinding.settle, ClassBinding.hint?]
      cases elaborate call holding limits none draft before <;> rfl
  | hinted name =>
      simp only [elaborateAs, ClassBinding.settle, ClassBinding.hint?]
      cases elaborate call holding limits (some name) draft before <;> rfl
  | declaration =>
      obtain ⟨name, isName⟩ := Option.isSome_iff_exists.1 (named rfl)
      simp only [elaborateAs, declareClass, ClassBinding.settle,
        ClassBinding.hint?, isName]
      cases ended : elaborate call holding limits none draft before with
      | error interruption after => exact RunM.bind_of_error ended
      | ok klass after => exact RunM.bind_of_ok ended

end ClassLowering
