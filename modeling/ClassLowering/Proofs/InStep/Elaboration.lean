import ClassLowering.Proofs.Elaboration.Soundness
import ClassLowering.Proofs.InStep.Parts
import ClassLowering.Proofs.InStep.Properties

/-!
# Elaborations in step

Two classes that are written alike are elaborated in step. Both get the same
reference, and bodies may get hold of all functions of the class, but for
its constructor.
-/

namespace ClassLowering

section Forms

variable {σ κ β : Type} {body : β -> β -> Prop}

/-- A member is written like another one when it is the same but for bodies. -/
theorem Member.Like.eq
    {member other : Member κ β}
    (like : member.Like body other) :
    other = { member with key := other.key, body := other.body } ∧
      member.key.Like body other.key ∧
        Option.Rel body member.body other.body := by
  obtain ⟨kind, isGenerator, params, position, keys, bodies⟩ := like
  exact ⟨rfl, keys, bodies⟩

/-- Members that are written alike find the same places. -/
theorem forall₂_insertByPosition
    {member other : Member κ β}
    {members others : List (Member κ β)}
    (first : member.Like body other)
    (like : List.Forall₂ (Member.Like body) members others) :
    List.Forall₂ (Member.Like body) (ClassBody.insertByPosition member members)
      (ClassBody.insertByPosition other others) := by
  induction like with
  | nil => exact .cons first .nil
  | @cons next further rest last nextLike restLike hypothesis =>
      have position : other.position = member.position := by rw [first.eq.1]
      have nextPosition : further.position = next.position := by
        rw [nextLike.eq.1]
      rw [ClassBody.insertByPosition, ClassBody.insertByPosition, position,
        nextPosition]
      split
      · exact .cons first (.cons nextLike restLike)
      · exact .cons nextLike hypothesis

/-- Members that are written alike are so in order. -/
theorem forall₂_inOrder
    {members others : List (Member κ β)}
    (like : List.Forall₂ (Member.Like body) members others) :
    List.Forall₂ (Member.Like body) (ClassBody.inOrder members)
      (ClassBody.inOrder others) := by
  induction like with
  | nil => exact .nil
  | cons first _ hypothesis => exact forall₂_insertByPosition first hypothesis

end Forms

/-- Bodies may get hold of the functions that a member contributes. -/
def MemberPart.Shows (visible : Value -> Prop) : MemberPart -> Prop
  | .field declared =>
      ∀ initial ∈ declared.initializer?, visible (.function initial)
  | .definition made => visible (.function made.function)

/-- Bodies may get hold of the functions of a class when they may for
each of its parts. -/
theorem shows_of_parts
    {visible : Value -> Prop}
    {cell : ClassCell}
    {parts : List MemberPart}
    (shows : ∀ part ∈ parts, part.Shows visible)
    (fields : cell.fields = parts.filterMap MemberPart.field?)
    (prototype : cell.prototype =
      .ofDefinitions (parts.filterMap MemberPart.definition?)) :
    cell.Shows visible where
  initializer field declared := by
    rw [fields] at declared
    obtain ⟨part, present, same⟩ := List.mem_filterMap.1 declared
    cases part with
    | field own =>
        cases same
        exact shows _ present
    | definition made => cases same
  shared function held := by
    rw [prototype] at held
    obtain ⟨made, defined, rfl⟩ :=
      List.mem_map.1 (Prototype.functions_ofDefinitions held)
    obtain ⟨part, present, same⟩ := List.mem_filterMap.1 defined
    cases part with
    | field own => cases same
    | definition own =>
        cases same
        exact shows _ present

/-- Open the scope of a class and evaluate the keys of its members in it. -/
def openKeys (call : Caller) (holding : Holding) (limits : Limits)
    (draft : ClassDraft) :
    RunM (ScopeRef × List PropertyKey) := do
  let scope ← RunM.allocate (·.openClassScope draft.scope draft.name)
  let keys ← evaluateKeys (call (holding.holdScope scope)) scope limits 0
    ((ClassBody.inOrder draft.body.members).map Member.key)
  return (scope, keys)

/-- A class is elaborated from its scope and its keys. -/
theorem elaborate_eq_openKeys_bind
    (call : Caller)
    (holding : Holding)
    (limits : Limits)
    (hint : Option String)
    (draft : ClassDraft) :
    elaborate call holding limits hint draft = (do
      let (scope, keys) ← openKeys call holding limits draft
      let members := ClassBody.inOrder draft.body.members
      match declarationFault? ((members.map Member.kind).zip keys) with
      | some cause => RunM.fail cause
      | none =>
          assembleClass scope limits draft.name hint draft.body.constructor
            (members.zip keys)) := by
  unfold elaborate openKeys
  rw [bind_assoc]
  refine bind_congr fun scope => ?_
  rw [bind_assoc]
  exact bind_congr fun keys => rfl

section Elaboration

variable {likeness : Likeness} {coupling : Coupling likeness} {given : Prop}
variable {limits further : Limits}

/-- Evaluating the key of a member, where bodies may get hold of everything. -/
theorem inStep_evaluateKey
    {call other : Invoker}
    {key last : MemberKey PropertyKey Expr}
    (seen : given -> ∀ value, likeness.visible value)
    (calls : coupling.Calls call other)
    (scope : ScopeRef)
    (related : given -> likeness.limits limits further)
    (like : given -> key.Like likeness.body last) :
    coupling.InStep given (evaluateKey call scope limits key)
      (evaluateKey other scope further last) (Agree fun _ => True) := by
  cases key with
  | literal key =>
      refine coupling.replace (.pure fun _ => trivial) fun facts => ?_
      cases like facts
      rfl
  | computed body =>
      obtain ⟨otherBody, alike⟩ := MemberKey.exists_computed like
      refine coupling.replace ?_ fun facts => congrArg _ (alike facts).1
      refine .bind (coupling.newFunction fun facts =>
        ⟨rfl, rfl, rfl, rfl, (alike facts).2, related facts⟩) fun function => ?_
      refine .bind (calls.inStep (fun facts => seen facts.1 _)
        (fun _ => likeness.visible_undefined) fun _ => .nil) fun value => ?_
      exact inStep_toKey calls value 1

/-- Opening the scope of a class and evaluating its keys, where bodies may
get hold of all. -/
theorem inStep_openKeys
    {call other : Caller}
    {draft last : ClassDraft}
    (seen : given -> ∀ value, likeness.visible value)
    (calls : ∀ holding, coupling.Calls (call holding) (other holding))
    (holding : Holding)
    (related : given -> likeness.limits limits further)
    (like : given -> draft.Like likeness.body last) :
    coupling.InStep given (openKeys call holding limits draft)
      (openKeys other holding further last) (Agree fun _ => True) := by
  obtain ⟨name, ⟨members, constructor⟩, outer⟩ := draft
  obtain ⟨others, otherConstructor, alike⟩ := Blueprint.exists_parts like
  refine coupling.replace ?_ fun facts => congrArg _ (alike facts).1
  obtain ⟨lastKeys, sameKeys, likeKeys⟩ := forall₂_of_imp fun facts : given =>
    show List.Forall₂ (MemberKey.Like likeness.body)
        ((ClassBody.inOrder members).map Member.key)
        ((ClassBody.inOrder others).map Member.key) from
      List.forall₂_map_left_iff.2 (List.forall₂_map_right_iff.2
        ((forall₂_inOrder (alike facts).2.1).imp fun _ _ like => like.eq.2.1))
  refine .bind
    (.allocate' (fun heap => ⟨heap.extends_openClassScope outer name, ?_⟩)
      fun _ _ _ like => like.openClassScope outer name) fun scope => ?_
  · cases name <;> rfl
  have evaluates : coupling.InStep (given ∧ True)
      (evaluateKeys (call (holding.holdScope scope)) scope limits 0
        ((ClassBody.inOrder members).map Member.key))
      (evaluateKeys (other (holding.holdScope scope)) scope further 0
        ((ClassBody.inOrder others).map Member.key)) (Agree fun _ => True) := by
    refine coupling.replace (coupling.keys ?_) fun facts =>
      congrArg (evaluateKeys _ scope further 0) (sameKeys facts.1)
    refine likeKeys.imp fun key last same => ?_
    exact inStep_evaluateKey (fun facts => seen facts.1) (calls _) scope
      (fun facts => related facts.1) fun facts => same facts.1
  exact .bind evaluates fun keys => .pure fun _ => trivial

/-- Two callers run bodies in step whatever is held, and so they evaluate the
keys of classes. -/
structure Coupling.Hosts (coupling : Coupling likeness)
    (call other : Caller) : Prop where
  serves (holding : Holding) : coupling.Serves (call holding) (other holding)
  keys {given : Prop} {limits further : Limits} {draft last : ClassDraft}
      (holding : Holding) :
    (given -> likeness.limits limits further) ->
      (given -> draft.Like likeness.body last) ->
      coupling.InStep given (openKeys call holding limits draft)
        (openKeys other holding further last) (Agree fun _ => True)

/-- Where bodies may get hold of everything, callers that run bodies in step
evaluate keys so. -/
theorem Coupling.hosts_of_calls
    {call other : Caller}
    (seen : ∀ value, likeness.visible value)
    (calls : ∀ holding, coupling.Calls (call holding) (other holding)) :
    coupling.Hosts call other where
  serves holding :=
    ⟨calls holding, fun klass args depth =>
      inStep_construct (fun _ => seen) (calls holding) klass args depth⟩
  keys holding related like :=
    inStep_openKeys (fun _ => seen) calls holding related like

/-- Making the function of a member. -/
theorem inStep_elaborateMember
    {member last : Member PropertyKey Expr}
    (scope : ScopeRef)
    (key : PropertyKey)
    (related : given -> likeness.limits limits further)
    (like : given -> member.Like likeness.body last) :
    coupling.InStep given (elaborateMember scope limits member key)
      (elaborateMember scope further last key)
      (Agree fun part => part.Shows likeness.visible) := by
  have function (kind : FunctionKind) (name : String) (params : List String)
      {body otherBody : Expr} (handedOut : kind.isWithheld = false)
      (bodies : given -> likeness.body body otherBody) :
      coupling.InStep given
        (RunM.allocate
          (·.newFunction ⟨name, kind, params, body, some scope, limits⟩))
        (RunM.allocate
          (·.newFunction ⟨name, kind, params, otherBody, some scope, further⟩))
        (Agree fun function => likeness.visible (.function function)) := by
    refine .weaken (coupling.newFunction fun facts => ?_) fun _ _ seen =>
      seen.1 handedOut
    exact ⟨rfl, rfl, rfl, rfl, bodies facts, related facts⟩
  obtain ⟨kind, ownKey, isGenerator, body, params, position⟩ := member
  refine coupling.replace ?_ fun facts =>
    congrArg (fun member => elaborateMember scope further member key)
        (like facts).eq.1
  have bodies : given -> Option.Rel likeness.body body last.body := fun facts =>
    (like facts).eq.2.2
  generalize last.body = otherBody at bodies
  have procedures :
      given -> likeness.body (body.getD .nothing)
        (otherBody.getD .nothing) := by
    intro facts
    cases bodies facts with
    | none => exact likeness.nothing
    | some related => exact related
  cases kind with
  | field =>
      cases body with
      | none =>
          refine coupling.replace (.pure fun _ => nofun) fun facts => ?_
          cases bodies facts
          rfl
      | some initial =>
          obtain ⟨otherInitial, alike⟩ :=
              exists_of_imp initial fun facts : given =>
            show ∃ otherInitial, otherBody = some otherInitial ∧
                likeness.body initial otherInitial by
              cases bodies facts with
              | some related => exact ⟨_, rfl, related⟩
          refine coupling.replace ?_ fun facts => by rw [(alike facts).1]
          refine .bind (function .fieldInitializer _ _ rfl fun facts =>
            (alike facts).2) fun ref => .pure fun facts => ?_
          rintro initial ⟨⟩
          exact facts.2
  | method =>
      refine .bind
        (function (if isGenerator then .generator else .method) _ _
          ?_ procedures)
        fun ref => .pure And.right
      split <;> rfl
  | getter =>
      exact .bind (function .getter _ _ rfl procedures) fun ref =>
        .pure And.right
  | setter =>
      exact .bind (function .setter _ _ rfl procedures) fun ref =>
        .pure And.right

/-- Making the functions of members. -/
theorem inStep_elaborateMembers
    {members others : List (Member PropertyKey Expr)}
    (scope : ScopeRef)
    (keys : List PropertyKey)
    (related : given -> likeness.limits limits further)
    (like : given -> List.Forall₂ (Member.Like likeness.body) members others) :
    coupling.InStep given (elaborateMembers scope limits (members.zip keys))
      (elaborateMembers scope further (others.zip keys))
      (Agree fun parts => ∀ part ∈ parts, part.Shows likeness.visible) := by
  induction members generalizing given others keys with
  | nil =>
      refine coupling.replace (.pure fun _ => nofun) fun facts => ?_
      cases like facts
      rfl
  | cons member rest hypothesis =>
      obtain ⟨last, remaining, alike⟩ := exists_cons_of_forall₂ like
      refine coupling.replace ?_ fun facts =>
        congrArg (fun others => elaborateMembers scope further
          (List.zip others keys)) (alike facts).1
      cases keys with
      | nil => exact .pure fun _ => nofun
      | cons key keys =>
          refine .bind (inStep_elaborateMember scope key related fun facts =>
            (alike facts).2.1) fun part => ?_
          refine .bind (hypothesis keys (fun facts => related facts.1)
            fun facts => (alike facts.1).2.2) fun parts => .pure fun facts => ?_
          exact List.forall_mem_cons.2 ⟨facts.1.2, facts.2⟩

/-- The bodies of designated constructors that are written alike are alike. -/
theorem ConstructorPart.Like.procedure
    {constructor other : Option (ConstructorPart Expr)}
    (like : Option.Rel (ConstructorPart.Like likeness.body) constructor other) :
    (other.map ConstructorPart.params).getD [] =
      (constructor.map ConstructorPart.params).getD [] ∧
      likeness.body ((constructor.bind ConstructorPart.body).getD .nothing)
        ((other.bind ConstructorPart.body).getD .nothing) := by
  cases like with
  | none => exact ⟨rfl, likeness.nothing⟩
  | some parts =>
      obtain ⟨params, position, procedures⟩ := parts
      cases procedures with
      | none => exact ⟨rfl, likeness.nothing⟩
      | some related => exact ⟨rfl, related⟩

/-- Putting a class together. -/
theorem inStep_assembleClass
    {constructor last : Option (ConstructorPart Expr)}
    {members others : List (Member PropertyKey Expr)}
    (scope : ScopeRef)
    (internalName hint : Option String)
    (keys : List PropertyKey)
    (related : given -> likeness.limits limits further)
    (procedures : given -> Option.Rel
      (ConstructorPart.Like likeness.body) constructor last)
    (like : given -> List.Forall₂ (Member.Like likeness.body) members others) :
    coupling.InStep given
      (assembleClass scope limits internalName hint constructor
        (members.zip keys))
      (assembleClass scope further internalName hint last (others.zip keys))
      (Agree fun _ => True) := by
  refine .bind (inStep_elaborateMembers scope keys related like) fun parts => ?_
  refine .bind (coupling.newFunction fun facts => ?_) fun function => ?_
  · have alike := ConstructorPart.Like.procedure (procedures facts.1)
    exact ⟨rfl, rfl, alike.1, rfl, alike.2, related facts.1⟩
  refine .bind (.allocate' (fun heap => ⟨heap.extends_newClass _, rfl⟩)
    fun facts _ _ like => ?_) fun klass => ?_
  · exact like.newClass ⟨rfl, rfl, rfl, rfl, rfl, rfl, related facts.1.1⟩
      (shows_of_parts facts.1.2 rfl rfl) (facts.2.2 rfl)
  refine .bind
    (.changeHeap (fun heap =>
      ⟨heap.extends_bindSelf scope internalName klass, ?_⟩)
      fun _ _ _ like => like.bindSelf scope internalName klass) fun _ =>
      .pure fun _ => trivial
  cases internalName <;> rfl

/-- What is wrong with keys is never wrapped. -/
theorem isWrapped_of_declarationFault?
    {members : List (MemberKind × PropertyKey)}
    {cause : Failure}
    (faulty : declarationFault? members = some cause) :
    cause.isWrapped = false := by
  unfold declarationFault? at faulty
  split at faulty
  · cases faulty
    rfl
  · obtain ⟨key, -, rfl⟩ := Option.map_eq_some_iff.1 faulty
    rfl

/-- Elaborating a class. -/
theorem inStep_elaborate
    {call other : Caller}
    {draft last : ClassDraft}
    (hosts : coupling.Hosts call other)
    (holding : Holding)
    (hint : Option String)
    (related : given -> likeness.limits limits further)
    (like : given -> draft.Like likeness.body last) :
    coupling.InStep given (elaborate call holding limits hint draft)
      (elaborate other holding further hint last) (Agree fun _ => True) := by
  obtain ⟨name, ⟨members, constructor⟩, outer⟩ := draft
  obtain ⟨others, otherConstructor, alike⟩ := Blueprint.exists_parts like
  have ordered (facts : given) := forall₂_inOrder (alike facts).2.1
  have kinds (facts : given) : (ClassBody.inOrder others).map Member.kind =
      (ClassBody.inOrder members).map Member.kind := by
    refine (Eq.symm ?_)
    rw [← List.forall₂_eq_eq_eq, List.forall₂_map_left_iff,
      List.forall₂_map_right_iff]
    exact (ordered facts).imp fun _ _ like => by rw [like.eq.1]
  refine coupling.replace ?_ fun facts => congrArg _ (alike facts).1
  rw [elaborate_eq_openKeys_bind, elaborate_eq_openKeys_bind]
  refine .bind (hosts.keys holding related fun facts =>
    (alike facts).1 ▸ like facts) fun opened => ?_
  obtain ⟨scope, keys⟩ := opened
  dsimp only
  refine coupling.replace ?_ fun facts => by rw [kinds facts.1]
  cases faulty :
    declarationFault? (((ClassBody.inOrder members).map Member.kind).zip keys)
      with
  | some cause => exact .fail cause (isWrapped_of_declarationFault? faulty)
  | none =>
      exact inStep_assembleClass scope name hint keys
        (fun facts => related facts.1)
        (fun facts => (alike facts.1).2.2) fun facts => ordered facts.1

/-- Elaborating a class and declaring it. -/
theorem inStep_declareClass
    {call other : Caller}
    {draft last : ClassDraft}
    (hosts : coupling.Hosts call other)
    (holding : Holding)
    (related : given -> likeness.limits limits further)
    (like : given -> draft.Like likeness.body last) :
    coupling.InStep given (declareClass call holding limits draft)
      (declareClass other holding further last) (Agree fun _ => True) := by
  have same (facts : given) : last.name = draft.name ∧
      last.scope = draft.scope := by
    cases like facts
    exact ⟨rfl, rfl⟩
  have declares (name : String) : coupling.InStep given
      (do
        let klass ← elaborate call holding limits none draft
        RunM.changeHeap (·.declare draft.scope name (.klass klass))
        return klass)
      (do
        let klass ← elaborate other holding further none last
        RunM.changeHeap (·.declare draft.scope name (.klass klass))
        return klass) (Agree fun _ => True) := by
    refine .bind (inStep_elaborate hosts holding none related like)
      fun klass => ?_
    refine .bind
      (.changeHeap (fun heap => ⟨heap.extends_bind draft.scope name _, rfl⟩)
        fun _ _ _ like => ?_) fun _ => .pure fun _ => trivial
    refine like.bind draft.scope name fun value held => ?_
    cases held
    exact likeness.visible_of_not_function _ nofun
  unfold declareClass
  refine coupling.replace ?_ fun facts => by rw [(same facts).1, (same facts).2]
  cases draft.name with
  | none => exact .failType _
  | some name => exact declares name

/-- Elaborating a class in any of the three ways. -/
theorem inStep_elaborateAs
    {call other : Caller}
    {draft last : ClassDraft}
    (hosts : coupling.Hosts call other)
    (holding : Holding)
    (binding : ClassBinding)
    (related : given -> likeness.limits limits further)
    (like : given -> draft.Like likeness.body last) :
    coupling.InStep given (elaborateAs call holding limits draft binding)
      (elaborateAs other holding further last binding)
      (Agree fun _ => True) := by
  cases binding with
  | expression => exact inStep_elaborate hosts holding none related like
  | hinted name => exact inStep_elaborate hosts holding (some name) related like
  | declaration => exact inStep_declareClass hosts holding related like

end Elaboration

end ClassLowering
