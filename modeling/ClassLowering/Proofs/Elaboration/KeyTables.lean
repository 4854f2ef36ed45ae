import ClassLowering.Semantics.Elaboration

/-!
# Tables of declared keys

Keys can be checked in one pass. The pass keeps the keys of fields, each with
the index of its first member, and the keys of all other members; it stops at a
reserved key. What a table holds is listed in no particular order, so the
conflicts that it shows are put in order of their indices before the first of
them is reported.

The pass and its tables are another way to find what is wrong with the keys of a
class. What they find depends on no order but that of the members.
-/

namespace ClassLowering

/-- The keys of some members: those of fields, with indices, and those of
other members. -/
structure KeyTables where
  /-- The keys of fields, each with the index of its first member. -/
  fields : OrderedMap PropertyKey Nat
  shared : List PropertyKey

namespace KeyTables

/-- The tables of no members. -/
def empty : KeyTables := ⟨∅, []⟩

/-- Enter the key of one more member. A field whose key is known keeps its
index. -/
def enter (tables : KeyTables) (index : Nat)
    (member : MemberKind × PropertyKey) : KeyTables :=
  if member.1 = .field then
    if tables.fields.contains member.2 then tables
    else { tables with fields := tables.fields.insert member.2 index }
  else { tables with shared := member.2 :: tables.shared }

/-- Enter the keys of members in order. The index of a reserved key is an
error. -/
def enterAll (tables : KeyTables) (index : Nat) :
    List (MemberKind × PropertyKey) -> Except Nat KeyTables
  | [] => .ok tables
  | member :: rest =>
      if member.2 == .constructor then .error index
      else (tables.enter index member).enterAll (index + 1) rest

/-- The fields of a listing whose keys are shared, in order of their indices. -/
def conflicts (tables : KeyTables) (listing : List (PropertyKey × Nat)) :
    List (PropertyKey × Nat) :=
  (listing.filter fun field => tables.shared.contains field.1).mergeSort
      fun left right =>
    left.2 ≤ right.2

/-- The first field among some members whose key counts as a key, with its
place and own key. -/
def IsFirstField (members : List (MemberKind × PropertyKey)) (key : PropertyKey)
    (index : Nat) :
    Prop :=
  members[index]? = some (.field, key) ∧
    ∀ earlier other, earlier < index ->
      members[earlier]? = some (.field, other) -> ¬other == key

/-- Tables hold the keys of the members that were seen. -/
structure Holds (tables : KeyTables)
    (seen : List (MemberKind × PropertyKey)) : Prop where
  /-- A field has the index of the first field with its key. -/
  fields : ∀ key index, (key, index) ∈ tables.fields.entries ↔
    IsFirstField seen key index
  /-- Every field has its key among the keys of fields. -/
  known : ∀ key, (.field, key) ∈ seen -> key ∈ tables.fields
  shared : ∀ key, tables.shared.contains key = true ↔
    ∃ member ∈ seen, member.1 ≠ .field ∧ member.2 == key

/-- The tables of no members hold nothing. -/
theorem holds_empty : empty.Holds [] where
  fields _ _ := by simp [empty, IsFirstField, OrderedMap.entries_empty]
  known _ present := absurd present List.not_mem_nil
  shared _ := by simp [empty]

/-- A first field stays so when more members are seen, and the last of these
is no other one. -/
theorem isFirstField_concat_iff
    {seen : List (MemberKind × PropertyKey)}
    {last : MemberKind × PropertyKey}
    {key : PropertyKey}
    {index : Nat} :
    IsFirstField (seen ++ [last]) key index ↔ IsFirstField seen key index ∨
      index = seen.length ∧ last = (.field, key) ∧
        ∀ other, (.field, other) ∈ seen -> ¬other == key := by
  unfold IsFirstField
  rcases Nat.lt_trichotomy index seen.length with inside | rfl | outside
  · have before {earlier : Nat} (small : earlier < index) :
        (seen ++ [last])[earlier]? = seen[earlier]? :=
      List.getElem?_append_left (Nat.lt_trans small inside)
    rw [List.getElem?_append_left inside, or_iff_left fun place =>
      Nat.ne_of_lt inside place.1]
    refine and_congr_right fun _ => forall_congr' fun earlier =>
        forall_congr' fun other =>
      forall_congr' fun small => ?_
    rw [before small]
  · rw [List.getElem?_concat_length, List.getElem?_eq_none (Nat.le_refl _),
      or_iff_right fun found => nomatch found.1]
    simp only [true_and, Option.some.injEq]
    refine and_congr_right fun _ => ⟨fun apart other present => ?_,
      fun apart earlier other small found => ?_⟩
    · obtain ⟨earlier, small, found⟩ := List.getElem_of_mem present
      refine apart earlier other small ?_
      rw [List.getElem?_append_left small,
        List.getElem?_eq_getElem small, found]
    · rw [List.getElem?_append_left small] at found
      exact apart other (List.mem_of_getElem? found)
  · have nothing : (seen ++ [last])[index]? = none :=
      List.getElem?_eq_none (by simpa using Nat.succ_le_of_lt outside)
    rw [nothing, List.getElem?_eq_none (Nat.le_of_lt outside)]
    simp [Nat.ne_of_gt outside]

/-- Tables go on to hold what was seen when a field is entered. -/
theorem Holds.enter_field
    {tables : KeyTables}
    {seen : List (MemberKind × PropertyKey)}
    (holds : tables.Holds seen)
    (own : PropertyKey) :
    (tables.enter seen.length (.field, own)).Holds
      (seen ++ [(.field, own)]) := by
  have shared (key : PropertyKey) : tables.shared.contains key = true ↔
      ∃ member ∈ seen ++ [(MemberKind.field, own)], member.1 ≠ .field ∧
        member.2 == key := by
    rw [holds.shared key]
    simp
  rw [KeyTables.enter, if_pos rfl]
  split
  next present =>
    refine ⟨fun key index => ?_, fun key isSeen => ?_, shared⟩
    · rw [holds.fields, isFirstField_concat_iff, or_iff_left]
      rintro ⟨-, same, apart⟩
      cases same
      -- The key is known, so a field before has it.
      obtain ⟨index, found⟩ := (OrderedMap.mem_iff_find? _ _).1 present
      obtain ⟨stored, listed, isKey⟩ := OrderedMap.find?_eq_some_iff.1 found
      exact apart stored
        (List.mem_of_getElem? ((holds.fields stored index).1 listed).1) isKey
    · rcases List.mem_append.1 isSeen with before | isLast
      · exact holds.known key before
      · cases List.mem_singleton.1 isLast
        exact present
  next absent =>
    refine ⟨fun key index => ?_, fun key isSeen => ?_, shared⟩
    · rw [OrderedMap.entries_insert_of_not_mem absent, List.mem_append,
        List.mem_singleton, holds.fields, isFirstField_concat_iff,
        Prod.mk.injEq]
      refine or_congr_right ⟨?_, ?_⟩
      · rintro ⟨rfl, rfl⟩
        exact ⟨rfl, rfl, fun other isSeen same =>
          absent ((OrderedMap.mem_congr same).1 (holds.known other isSeen))⟩
      · rintro ⟨rfl, same, -⟩
        cases same
        exact ⟨rfl, rfl⟩
    · rw [OrderedMap.mem_insert]
      rcases List.mem_append.1 isSeen with before | isLast
      · exact .inr (holds.known key before)
      · cases List.mem_singleton.1 isLast
        exact .inl BEq.rfl

/-- Tables go on to hold what was seen when another member is entered. -/
theorem Holds.enter_shared
    {tables : KeyTables}
    {seen : List (MemberKind × PropertyKey)}
    {kind : MemberKind}
    (holds : tables.Holds seen)
    (own : PropertyKey)
    (noField : kind ≠ .field) :
    (tables.enter seen.length (kind, own)).Holds (seen ++ [(kind, own)]) := by
  rw [KeyTables.enter, if_neg noField]
  refine ⟨fun key index => ?_, fun key isSeen => ?_, fun key => ?_⟩
  · rw [isFirstField_concat_iff, or_iff_left]
    · exact holds.fields key index
    · rintro ⟨-, same, -⟩
      exact noField (congrArg Prod.fst same)
  · rcases List.mem_append.1 isSeen with before | isLast
    · exact holds.known key before
    · exact absurd (congrArg Prod.fst (List.mem_singleton.1 isLast)).symm
        noField
  · rw [List.contains_cons, Bool.or_eq_true, holds.shared key,
      BEq.comm (a := key)]
    simp [noField, or_and_right, exists_or, or_comm]

/-- Tables go on to hold what was seen when one more member is entered. -/
theorem Holds.enter
    {tables : KeyTables}
    {seen : List (MemberKind × PropertyKey)}
    (holds : tables.Holds seen)
    (member : MemberKind × PropertyKey) :
    (tables.enter seen.length member).Holds (seen ++ [member]) := by
  obtain ⟨kind, own⟩ := member
  by_cases isField : kind = .field
  · subst isField
    exact holds.enter_field own
  · exact holds.enter_shared own isField

/-- The pass ends with the tables of all members, or at the first reserved
key. -/
theorem Holds.enterAll
    {tables : KeyTables}
    {seen : List (MemberKind × PropertyKey)}
    (holds : tables.Holds seen)
    (rest : List (MemberKind × PropertyKey)) :
    match reservedIndex? (rest.map Prod.snd) with
    | some index =>
        tables.enterAll seen.length rest = .error (seen.length + index)
    | none =>
        ∃ last, tables.enterAll seen.length rest = .ok last ∧
          last.Holds (seen ++ rest) := by
  induction rest generalizing tables seen with
  | nil => exact ⟨tables, rfl, by rwa [List.append_nil]⟩
  | cons member rest hypothesis =>
      rw [List.map_cons, reservedIndex?, List.findIdx?_cons, KeyTables.enterAll]
      by_cases reserved : member.2 == .constructor
      · simp [reserved]
      · have others := hypothesis (holds.enter member)
        rw [List.length_append, List.length_singleton, List.append_assoc,
          List.singleton_append, reservedIndex?] at others
        rw [Bool.not_eq_true] at reserved
        simp only [reserved, Bool.false_eq_true, if_false]
        split
        next found =>
          obtain ⟨index, isIndex, rfl⟩ := Option.map_eq_some_iff.1 found
          rw [isIndex] at others
          rw [others, Nat.add_assoc, Nat.add_comm 1]
        next found =>
          rw [Option.map_eq_none_iff] at found
          rwa [found] at others

/-- Every conflict is the first field of its key, which is shared. -/
theorem Holds.mem_conflicts_iff
    {tables : KeyTables}
    {members : List (MemberKind × PropertyKey)}
    {listing : List (PropertyKey × Nat)}
    (holds : tables.Holds members)
    (listed : listing.Perm tables.fields.entries)
    (key : PropertyKey)
    (index : Nat) :
    (key, index) ∈ tables.conflicts listing ↔
      IsFirstField members key index ∧
        ∃ other ∈ members, other.1 ≠ .field ∧ other.2 == key := by
  rw [conflicts, (List.mergeSort_perm _ _).mem_iff, List.mem_filter,
    listed.mem_iff, holds.fields key, holds.shared key]

/-- The first conflict has the least index of all. -/
theorem index_le_of_head?_conflicts
    {tables : KeyTables}
    {listing : List (PropertyKey × Nat)}
    {first other : PropertyKey × Nat}
    (isFirst : (tables.conflicts listing).head? = some first)
    (present : other ∈ tables.conflicts listing) :
    first.2 ≤ other.2 := by
  have sorted : (tables.conflicts listing).Pairwise fun left right =>
      left.2 ≤ right.2 := by
    refine (List.pairwise_mergeSort ?_ ?_ _).imp of_decide_eq_true
    · simpa using fun _ _ _ _ _ _ => Nat.le_trans
    · simpa using fun _ _ _ _ => Nat.le_total _ _
  obtain ⟨rest, equal⟩ := List.head?_eq_some_iff.1 isFirst
  rw [equal] at sorted present
  rcases List.mem_cons.1 present with rfl | inRest
  · exact Nat.le_refl _
  · exact (List.pairwise_cons.1 sorted).1 other inRest

/-- The first conflict is that of the first field whose key another
member shares. -/
theorem Holds.head?_conflicts
    {tables : KeyTables}
    {members : List (MemberKind × PropertyKey)}
    {listing : List (PropertyKey × Nat)}
    (holds : tables.Holds members)
    (listed : listing.Perm tables.fields.entries) :
    (tables.conflicts listing).head?.map Prod.fst =
      conflictingKey? members := by
  have mem_iff := holds.mem_conflicts_iff listed
  -- A conflict is a field of the list at its index, and so one of those that
  -- are looked for.
  cases isConflict : conflictingKey? members with
  | none =>
      rw [conflictingKey?, Option.map_eq_none_iff,
        List.find?_eq_none] at isConflict
      rw [Option.map_eq_none_iff, List.head?_eq_none_iff,
        List.eq_nil_iff_forall_not_mem]
      rintro ⟨key, index⟩ present
      obtain ⟨⟨isField, -⟩, shared⟩ := (mem_iff key index).1 present
      refine isConflict _ (List.mem_of_getElem? isField) ?_
      simpa using shared
  | some key =>
      rw [conflictingKey?, Option.map_eq_some_iff] at isConflict
      obtain ⟨⟨kind, own⟩, found, rfl⟩ := isConflict
      obtain ⟨isConflict, index, bound, equal, isFirst⟩ :=
        List.find?_eq_some_iff_getElem.1 found
      obtain ⟨rfl, shared⟩ : kind = .field ∧
          ∃ other ∈ members, other.1 ≠ .field ∧ other.2 == own := by
            simpa using isConflict
      have least : ∀ key earlier, earlier < index ->
          members[earlier]? = some (.field, key) ->
          ¬ ∃ other ∈ members, other.1 ≠ .field ∧ other.2 == key := by
        intro key earlier before found
        obtain ⟨_, isField⟩ := List.getElem?_eq_some_iff.1 found
        simpa [isField] using isFirst earlier before
      have present : (own, index) ∈ tables.conflicts listing := by
        refine (mem_iff own index).2
          ⟨⟨?_, fun earlier other before isField same => ?_⟩, shared⟩
        · rw [List.getElem?_eq_getElem bound, equal]
        · obtain ⟨member, inMembers, noField, isOwn⟩ := shared
          exact least other earlier before isField
            ⟨member, inMembers, noField, BEq.trans isOwn (BEq.symm same)⟩
      cases isHead : (tables.conflicts listing).head? with
      | none => simp [List.head?_eq_none_iff.1 isHead] at present
      | some first =>
          obtain ⟨other, place⟩ := first
          have upper : place ≤ index :=
            index_le_of_head?_conflicts isHead present
          obtain ⟨⟨isField, -⟩, otherShared⟩ :=
            (mem_iff other place).1 (List.mem_of_head? isHead)
          rcases Nat.lt_or_eq_of_le upper with before | rfl
          · exact absurd otherShared (least other place before isField)
          · rw [List.getElem?_eq_getElem bound, equal] at isField
            cases isField
            rfl

end KeyTables

/-- What a pass over the keys of members finds, when tables are listed in
some arrangement. -/
def tabledFault?
    (arrange : List (PropertyKey × Nat) -> List (PropertyKey × Nat))
    (members : List (MemberKind × PropertyKey)) : Option Failure :=
  match KeyTables.empty.enterAll 0 members with
  | .error index => some (.reservedConstructorKey index)
  | .ok tables =>
      (tables.conflicts (arrange tables.fields.entries)).head?.map fun field =>
        .memberConflict field.1

/-- The pass finds what is wrong with the keys, in whatever way its
tables are arranged. -/
theorem tabledFault?_eq_declarationFault?
    {arrange : List (PropertyKey × Nat) -> List (PropertyKey × Nat)}
    (arranges : ∀ listing, (arrange listing).Perm listing)
    (members : List (MemberKind × PropertyKey)) :
    tabledFault? arrange members = declarationFault? members := by
  have passes := KeyTables.holds_empty.enterAll members
  simp only [List.length_nil, Nat.zero_add, List.nil_append] at passes
  rw [tabledFault?, declarationFault?]
  cases reserved : reservedIndex? (members.map Prod.snd) with
  | some index =>
      rw [reserved] at passes
      rw [passes]
  | none =>
      rw [reserved] at passes
      obtain ⟨tables, ended, holds⟩ := passes
      rw [ended]
      dsimp only
      rw [← holds.head?_conflicts (arranges tables.fields.entries),
        Option.map_map]
      rfl

end ClassLowering
