import ClassLowering.Proofs.Elaboration.KeyTables
import ClassLowering.Proofs.Elaboration.Prototype

/-!
# The outcome of an elaboration

Once the keys of a class are evaluated, nothing but kinds and keys decides
whether the class is built. A reserved key outweighs every conflict, wherever it
stands, and the first one is reported with its index. Without one, the first
field whose key is shared is reported. A class that is built has the fields of
its members, in their order and with all repetitions.

Keys are told apart by what they are: a text by itself, a symbol by its number.
How a symbol is described does not matter.
-/

namespace ClassLowering

/-- A member that is no field has the text, or the number of the symbol, of a
key. -/
def DeclaresShared (declared : List (MemberKind × PropertyKey))
    (key : PropertyKey) : Prop :=
  ∃ member ∈ declared, member.1 ≠ .field ∧ member.2.identity = key.identity

/-- No key is reserved. -/
def NoneReserved (declared : List (MemberKind × PropertyKey)) : Prop :=
  ∀ member ∈ declared, member.2 ≠ .constructor

/-- No field has the text, or the number of the symbol, of a member of another
kind. -/
def FieldsApart (declared : List (MemberKind × PropertyKey)) : Prop :=
  ∀ field ∈ declared, field.1 = .field -> ¬ DeclaresShared declared field.2

/-- The verdict on members of some kinds and keys: the fault in them, if there
is one. -/
inductive KeyVerdict
    (declared : List (MemberKind × PropertyKey)) : Option Failure -> Prop
  /-- A key is reserved, and none before it is. -/
  | reserved {earlier later : List (MemberKind × PropertyKey)}
      {kind : MemberKind} :
      declared = earlier ++ (kind, .constructor) :: later ->
        NoneReserved earlier ->
        KeyVerdict declared (some (.reservedConstructorKey earlier.length))
  /-- No key is reserved. The key of a field is shared, and that of no
  field before it is. -/
  | conflict {earlier later : List (MemberKind × PropertyKey)}
      {key : PropertyKey} :
      NoneReserved declared -> declared = earlier ++ (.field, key) :: later ->
        DeclaresShared declared key ->
        (∀ field ∈ earlier, field.1 = .field ->
          ¬ DeclaresShared declared field.2) ->
        KeyVerdict declared (some (.memberConflict key))
  /-- No key is reserved, and none of a field is shared. -/
  | faultless : NoneReserved declared -> FieldsApart declared ->
      KeyVerdict declared none

namespace KeyVerdict

variable {declared : List (MemberKind × PropertyKey)} {fault : Option Failure}

/-- There is no fault just if no key is reserved and none of a field is
shared. -/
theorem eq_none_iff (verdict : KeyVerdict declared fault) :
    fault = none ↔ NoneReserved declared ∧ FieldsApart declared := by
  cases verdict with
  | reserved split first =>
      refine ⟨nofun, fun ⟨ordinary, _⟩ => ?_⟩
      exact absurd rfl
        (ordinary _ (split ▸ List.mem_append_right _ List.mem_cons_self))
  | conflict ordinary split shared first =>
      refine ⟨nofun, fun ⟨_, apart⟩ => ?_⟩
      exact absurd shared
        (apart _ (split ▸ List.mem_append_right _ List.mem_cons_self) rfl)
  | faultless ordinary apart => exact ⟨fun _ => ⟨ordinary, apart⟩, fun _ => rfl⟩

end KeyVerdict

/-- The index of a reserved key is the number of members before the first
one that has it. -/
theorem exists_split_of_reservedIndex?
    {declared : List (MemberKind × PropertyKey)}
    {index : Nat}
    (reserved : reservedIndex? (declared.map Prod.snd) = some index) :
    ∃ earlier kind later, declared = earlier ++ (kind, .constructor) :: later ∧
      NoneReserved earlier ∧ earlier.length = index := by
  induction declared generalizing index with
  | nil => cases reserved
  | cons member rest hypothesis =>
      rw [List.map_cons, reservedIndex?, List.findIdx?_cons] at reserved
      split at reserved
      next isReserved =>
        cases reserved
        refine ⟨[], member.1, rest, by
          rw [← PropertyKey.beq_constructor_iff.1 isReserved]
          rfl, ?_, rfl⟩
        exact fun _ present => absurd present List.not_mem_nil
      next ordinary =>
        obtain ⟨place, isPlace, rfl⟩ := Option.map_eq_some_iff.1 reserved
        obtain ⟨earlier, kind, later, rfl, others, rfl⟩ := hypothesis isPlace
        refine ⟨member :: earlier, kind, later, rfl,
          List.forall_mem_cons.2 ⟨?_, others⟩, rfl⟩
        rwa [PropertyKey.beq_constructor_iff] at ordinary

/-- No member has a reserved key when there is no index of one. -/
theorem noneReserved_of_reservedIndex?
    {declared : List (MemberKind × PropertyKey)}
    (ordinary : reservedIndex? (declared.map Prod.snd) = none) :
    NoneReserved declared := by
  rw [reservedIndex?, List.findIdx?_eq_none_iff] at ordinary
  intro member present isReserved
  have unreserved := ordinary member.2 (List.mem_map_of_mem present)
  rw [isReserved, BEq.rfl] at unreserved
  cases unreserved

/-- The check of the keys comes to the verdict on them. -/
theorem keyVerdict_declarationFault?
    (declared : List (MemberKind × PropertyKey)) :
    KeyVerdict declared (declarationFault? declared) := by
  rw [declarationFault?]
  cases reserved : reservedIndex? (declared.map Prod.snd) with
  | some index =>
      obtain ⟨earlier, kind, later, split, first, rfl⟩ :=
        exists_split_of_reservedIndex? reserved
      exact .reserved split first
  | none =>
      have ordinary := noneReserved_of_reservedIndex? reserved
      have isConflict : ∀ field : MemberKind × PropertyKey,
          (field.1 = .field && declared.any fun other =>
            other.1 ≠ .field && other.2 == field.2) =
            true ↔ field.1 = .field ∧ DeclaresShared declared field.2 := by
        intro field
        simp [DeclaresShared, PropertyKey.beq_iff_identity_eq]
      cases conflicting : conflictingKey? declared with
      | none =>
          rw [conflictingKey?, Option.map_eq_none_iff,
            List.find?_eq_none] at conflicting
          refine .faultless ordinary fun field present isField shared => ?_
          exact conflicting field present
            ((isConflict field).2 ⟨isField, shared⟩)
      | some key =>
          rw [conflictingKey?, Option.map_eq_some_iff] at conflicting
          obtain ⟨⟨kind, own⟩, found, rfl⟩ := conflicting
          obtain ⟨conflicts, earlier, later, split, first⟩ :=
            List.find?_eq_some_iff_append.1 found
          obtain ⟨rfl, shared⟩ := (isConflict (kind, own)).1 conflicts
          refine .conflict ordinary split shared
            fun field present isField isShared => ?_
          have refused := first field present
          rw [(isConflict field).2 ⟨isField, isShared⟩] at refused
          cases refused

/-- The kinds of members, each with the key that was evaluated for it. -/
def declaredKeys (members : List (Member PropertyKey Expr))
    (keys : List PropertyKey) :
    List (MemberKind × PropertyKey) :=
  (members.map Member.kind).zip keys

/--
How an elaboration ends whose members have the keys: with the fault that the
verdict on them names, in the state in which the keys were evaluated, or with a
class that has their fields.
-/
structure EndsByKeys (ordered : List (Member PropertyKey Expr))
    (keys : List PropertyKey)
    (scope : ScopeRef) (limits : Limits) (settled : State)
    (ended : EStateM.Result Interruption State ClassRef)
    (fault : Option Failure) : Prop where
  verdict : KeyVerdict (declaredKeys ordered keys) fault
  /-- A pass over the members finds the same fault, however its tables are
  arranged. -/
  arranged : ∀ arrange : List (PropertyKey × Nat) -> List (PropertyKey × Nat),
    (∀ listing, (arrange listing).Perm listing) ->
      tabledFault? arrange (declaredKeys ordered keys) = fault
  refuses : ∀ cause, fault = some cause -> ended = .error (.fault cause) settled
  /-- A class that is built has the fields of its members, in order and
  with repetitions. -/
  builds : fault = none -> ∃ klass after, ended = .ok klass after ∧
    List.Forall₂ (FieldDeclaration.MadeBy after.heap scope limits)
      ((ordered.zip keys).filter fun source => source.1.kind = .field)
      (after.heap.klass klass).fields

/-- A class is built just if the keys of its members are in order. -/
theorem EndsByKeys.builds_iff
    {ordered : List (Member PropertyKey Expr)}
    {keys : List PropertyKey}
    {scope : ScopeRef}
    {limits : Limits}
    {settled : State}
    {ended : EStateM.Result Interruption State ClassRef}
    {fault : Option Failure}
    (ends : EndsByKeys ordered keys scope limits settled ended fault) :
    (∃ klass after, ended = .ok klass after) ↔
      NoneReserved (declaredKeys ordered keys) ∧
        FieldsApart (declaredKeys ordered keys) := by
  rw [← ends.verdict.eq_none_iff]
  constructor
  · rintro ⟨klass, after, built⟩
    cases fault with
    | none => rfl
    | some cause =>
        rw [ends.refuses cause rfl] at built
        cases built
  · intro faultless
    obtain ⟨klass, after, built, -⟩ := ends.builds faultless
    exact ⟨klass, after, built⟩

section EvaluatedKeys

variable {draft : ClassDraft} {binding : ClassBinding} {call : Caller}
  {holding : Holding}
variable {limits : Limits} {before settled : State} {keys : List PropertyKey}

/-- A class is elaborated when nothing is wrong with its keys, and has the
fields of its members. -/
theorem fields_elaborateAs
    (named : binding = .declaration -> draft.name.isSome = true) :
    let ordered := ClassBody.inOrder draft.body.members
    let opening := before.heap.openClassScope draft.scope draft.name
    evaluateKeys (call (holding.holdScope opening.1)) opening.1 limits 0
        (ordered.map Member.key) { before with heap := opening.2 } =
          .ok keys settled ->
      declarationFault? (declaredKeys ordered keys) = none ->
      ∃ klass after, elaborateAs call holding limits draft binding before =
        .ok klass after ∧
        List.Forall₂ (FieldDeclaration.MadeBy after.heap opening.1 limits)
          ((ordered.zip keys).filter fun source => source.1.kind = .field)
          (after.heap.klass klass).fields := by
  intro ordered opening evaluated faultless
  have elaborates : ∃ klass middle,
      elaborate call holding limits binding.hint? draft before =
        .ok klass middle := by
    rw [declaredKeys] at faultless
    rw [elaborate_apply, evaluated]
    dsimp only
    rw [faultless]
    obtain ⟨parts, middle, -, assembled⟩ :=
      assembleClass_apply opening.1 limits draft.name
      binding.hint? draft.body.constructor (ordered.zip keys) settled
    exact ⟨_, _, assembled⟩
  obtain ⟨klass, middle, elaborated⟩ := elaborates
  refine ⟨klass, { middle with heap := binding.settle draft klass middle.heap },
    ?_, ?_⟩
  · rw [elaborateAs_apply call holding limits before named, elaborated]
  · obtain ⟨keys', settled', parts, constructor, evaluated', -, madeBy,
        -, equal⟩ :=
      klass_elaborate elaborated
    cases evaluated.symm.trans evaluated'
    have classes : (binding.settle draft klass middle.heap).klass klass =
        middle.heap.klass klass := by
      unfold ClassBinding.settle
      split <;> rfl
    rw [classes, equal]
    exact MemberPart.fields_madeBy (madeBy.imp fun source part made =>
      made.mono (binding.extends_settle draft klass middle.heap))

/--
Once the keys of a class are evaluated, in the stable order of positions, the
class is built just if no key is reserved and no field shares its key with a
member of another kind. If not, the first reserved key is reported, else the
first field with a shared key.
-/
theorem outcome_of_evaluateKeys
    (named : binding = .declaration -> draft.name.isSome = true) :
    let ordered := ClassBody.inOrder draft.body.members
    let opening := before.heap.openClassScope draft.scope draft.name
    let ended := elaborateAs call holding limits draft binding before
    evaluateKeys (call (holding.holdScope opening.1)) opening.1 limits 0
        (ordered.map Member.key) { before with heap := opening.2 } =
          .ok keys settled ->
      ClassBody.StablyOrders ordered draft.body.members ∧
        keys.length = ordered.length ∧
        (∃ fault, EndsByKeys ordered keys opening.1 limits settled
          ended fault) ∧
        ((∃ klass after, ended = .ok klass after) ↔
          NoneReserved (declaredKeys ordered keys) ∧
            FieldsApart (declaredKeys ordered keys)) := by
  intro ordered opening ended evaluated
  have ends : EndsByKeys ordered keys opening.1 limits settled ended
      (declarationFault? (declaredKeys ordered keys)) := by
    refine ⟨keyVerdict_declarationFault? _, fun arrange arranges =>
      tabledFault?_eq_declarationFault? arranges _, fun cause fault => ?_,
      fields_elaborateAs named evaluated⟩
    rw [declaredKeys] at fault
    rw [show ended = _ from elaborateAs_apply call holding limits before named,
      elaborate_apply, evaluated]
    dsimp only
    rw [fault]
  refine ⟨ClassBody.stablyOrders_inOrder _, ?_, ⟨_, ends⟩, ends.builds_iff⟩
  rw [length_evaluateKeys evaluated, List.length_map]

end EvaluatedKeys

/--
A class with a conflict between members that are not next to each other, and
behind it the computed key `constructor`. Another conflict is written first
and placed last.
-/
def conflictingDraft : ClassDraft where
  name := some "Conflicting"
  scope := ⟨0⟩
  body := {
    members := [
      ⟨.field, .literal (.ofText "late"), false, none, [], 5⟩,
      ⟨.field, .literal (.ofText "early"), false, none, [], 0⟩,
      ⟨.method, .literal (.ofText "late"), false, none, [], 1⟩,
      ⟨.getter, .literal (.ofText "early"), false, none, [], 2⟩,
      ⟨.field, .computed (.literal (.string "constructor")), false,
        none, [], 3⟩]
    constructor := none }

/-- The class is refused for its reserved key, although a conflict
stands before it. -/
theorem outcome_of_evaluateKeys_conflictingDraft :
    let before := Program.initialState
    let ordered := ClassBody.inOrder conflictingDraft.body.members
    let opening := before.heap.openClassScope conflictingDraft.scope
      conflictingDraft.name
    let ended := elaborateAs (callWithin 1) .none .standard conflictingDraft
      .declaration before
    ∃ keys settled,
      (ClassBinding.declaration = .declaration ->
        conflictingDraft.name.isSome = true) ∧
        evaluateKeys (callWithin 1 (Holding.none.holdScope opening.1))
          opening.1 .standard 0
          (ordered.map Member.key) { before with heap := opening.2 } =
            .ok keys settled ∧
        ended = .error (.fault (.reservedConstructorKey 3)) settled ∧
        ∃ fault, EndsByKeys ordered keys opening.1 .standard settled
          ended fault := by
  intro before ordered opening ended
  have endsWell : RunM.endsWell
      (evaluateKeys (callWithin 1 (Holding.none.holdScope opening.1))
        opening.1 .standard 0
        (ordered.map Member.key)) { before with heap :=
          opening.2 } = true := by decide +kernel
  have interrupted : RunM.interruption?
      (elaborateAs (callWithin 1) .none .standard conflictingDraft .declaration)
      before =
        some (.fault (.reservedConstructorKey 3)) := by decide +kernel
  obtain ⟨keys, settled, evaluated⟩ := RunM.exists_of_endsWell endsWell
  obtain ⟨after, refused⟩ := RunM.exists_of_interruption? interrupted
  have named : ClassBinding.declaration = .declaration ->
      conflictingDraft.name.isSome = true :=
    fun _ => rfl
  obtain ⟨-, -, ⟨fault, ends⟩, -⟩ := outcome_of_evaluateKeys named evaluated
  refine ⟨keys, settled, named, evaluated, ?_, fault, ends⟩
  cases fault with
  | none =>
      obtain ⟨klass, built, isBuilt, -⟩ := ends.builds rfl
      cases isBuilt.symm.trans refused
  | some cause =>
      have refuses := ends.refuses cause rfl
      cases refuses.symm.trans refused
      exact refuses

end ClassLowering
