import Mathlib.Algebra.Group.Nat.Defs
import Mathlib.Data.List.Nodup
import ClassLowering.Outline.Document
import ClassLowering.Outline.FunctionForm
import ClassLowering.Proofs.Elaboration.Assembly
import ClassLowering.Proofs.Elaboration.Keys
import ClassLowering.Session.Program

/-!
# Positions

An elaboration puts the members of a class in the order of their positions
first, and then looks neither at their positions nor at the order in which they
were listed. Two classes whose members are the same in this order are elaborated
alike, from every state and to the same end: the bodies of keys run in the same
order, the same fault is reported, or the same class comes into being.

So members whose positions are all different may be listed in any order. A class
that is written entry by entry has its members in the order of the entries,
wherever constructors stand among them, and of these the last one counts. But
this is so only while there are fewer entries than positions. The count of
entries wraps around, and constructors move it on like members, so what is
written behind the last position takes effect before what was written first.
-/

namespace ClassLowering

namespace ClassBody

variable {κ β : Type}

/-- Members that are in the order of their positions stay as they are. -/
theorem inOrder_of_pairwise
    {members : List (Member κ β)}
    (ascending : members.Pairwise fun left right =>
      left.position ≤ right.position) :
    inOrder members = members := by
  induction members with
  | nil => rfl
  | cons member rest hypothesis =>
      obtain ⟨least, restAscending⟩ := List.pairwise_cons.1 ascending
      rw [inOrder, hypothesis restAscending]
      cases rest with
      | nil => rfl
      | cons first others =>
          rw [insertByPosition, if_pos (least first List.mem_cons_self)]

/-- Members with different positions are put in one order, however they are
listed. -/
theorem inOrder_eq_of_perm
    {members others : List (Member κ β)}
    (perm : others.Perm members)
    (distinct : (members.map Member.position).Nodup) :
    inOrder others = inOrder members := by
  refine List.Perm.eq_of_pairwise ?_ (pairwise_inOrder others)
    (pairwise_inOrder members)
    ((inOrder_perm others).trans (perm.trans (inOrder_perm members).symm))
  intro left right isLeft isRight before behind
  have leftPresent : left ∈ members :=
    perm.subset ((inOrder_perm others).subset isLeft)
  have rightPresent : right ∈ members := (inOrder_perm members).subset isRight
  exact List.inj_on_of_nodup_map distinct leftPresent rightPresent
    (UInt32.le_antisymm before behind)

end ClassBody

/-- A member without its place. -/
def Member.displaced {κ β : Type} (member : Member κ β) : Member κ β :=
  { member with position := 0 }

/-- A constructor without its place. -/
def ConstructorPart.displaced {β : Type}
    (part : ConstructorPart β) : ConstructorPart β :=
  { part with position := 0 }

/-- An elaboration of members that are in order already. -/
def elaborateInOrder (call : Caller) (holding : Holding) (limits : Limits)
    (name hint : Option String) (home : ScopeRef)
    (constructor : Option (ConstructorPart Expr))
    (members : List (Member PropertyKey Expr)) : RunM ClassRef := do
  let scope ← RunM.allocate (·.openClassScope home name)
  let keys ← evaluateKeys (call (holding.holdScope scope)) scope limits 0
    (members.map Member.key)
  match declarationFault? ((members.map Member.kind).zip keys) with
  | some cause => RunM.fail cause
  | none => assembleClass scope limits name hint constructor (members.zip keys)

section Displacement

variable (call : Caller) (holding : Holding) (limits : Limits)
  (name hint : Option String)
  (scope : ScopeRef) (constructor : Option (ConstructorPart Expr))

/-- The parts of members are made without a look at their places. -/
theorem elaborateMembers_displaced
    (sources : List (Member PropertyKey Expr × PropertyKey)) :
    elaborateMembers scope limits (sources.map (Prod.map Member.displaced id)) =
      elaborateMembers scope limits sources := by
  induction sources with
  | nil => rfl
  | cons source rest hypothesis =>
      rw [List.map_cons, elaborateMembers, elaborateMembers, hypothesis]
      rfl

/-- A class is put together without a look at the places of its members and
its constructor. -/
theorem assembleClass_displaced
    (sources : List (Member PropertyKey Expr × PropertyKey)) :
    assembleClass scope limits name hint
        (constructor.map ConstructorPart.displaced)
        (sources.map (Prod.map Member.displaced id)) =
      assembleClass scope limits name hint constructor sources := by
  rw [assembleClass, assembleClass, elaborateMembers_displaced]
  cases constructor <;> rfl

/-- Once members are in order, their places do not matter, and that of the
constructor never. -/
theorem elaborateInOrder_displaced (members : List (Member PropertyKey Expr)) :
    elaborateInOrder call holding limits name hint scope
        (constructor.map ConstructorPart.displaced)
        (members.map Member.displaced) =
      elaborateInOrder call holding limits name hint scope constructor
        members := by
  have keys : (members.map Member.displaced).map Member.key =
      members.map Member.key := by
    rw [List.map_map]
    rfl
  have kinds : (members.map Member.displaced).map Member.kind =
      members.map Member.kind := by
    rw [List.map_map]
    rfl
  have sources : ∀ keys : List PropertyKey,
      (members.map Member.displaced).zip keys =
      (members.zip keys).map (Prod.map Member.displaced id) := by
    intro keys
    rw [← List.zip_map, List.map_id]
  rw [elaborateInOrder, elaborateInOrder, keys, kinds]
  simp only [sources, assembleClass_displaced]

end Displacement

/-- Two classes have the same members in order, whatever their places are. -/
structure ClassDraft.OrdersLike (draft other : ClassDraft) : Prop where
  name_eq : other.name = draft.name
  scope_eq : other.scope = draft.scope
  constructor_eq : other.body.constructor.map ConstructorPart.displaced =
    draft.body.constructor.map ConstructorPart.displaced
  members_eq : (ClassBody.inOrder other.body.members).map Member.displaced =
    (ClassBody.inOrder draft.body.members).map Member.displaced

/-- How two classes are elaborated alike. -/
structure ClassDraft.ElaboratesLike (draft other : ClassDraft) : Prop where
  /-- Their keys are evaluated by the same requests in the same states, with
  the same answers. -/
  keysEvaluate_iff : ∀ call scope limits before requests ended,
    KeysEvaluate call scope limits 0
        ((ClassBody.inOrder other.body.members).map Member.key) before
        requests ended ↔
      KeysEvaluate call scope limits 0
        ((ClassBody.inOrder draft.body.members).map Member.key) before
        requests ended
  /-- They end alike in the same state: with the same fault, or with the same
  class. -/
  elaborateAs_eq : ∀ call holding limits binding before,
    elaborateAs call holding limits other binding before =
      elaborateAs call holding limits draft binding before
  /-- What comes into being has the same entries and fields, and is
  written alike. -/
  described : ∀ call holding limits binding before klass after
    otherKlass otherAfter,
    elaborateAs call holding limits draft binding before = .ok klass after ->
      elaborateAs call holding limits other binding before =
        .ok otherKlass otherAfter ->
        (otherAfter.heap.klass otherKlass).prototype =
          (after.heap.klass klass).prototype ∧
          (otherAfter.heap.klass otherKlass).fields =
            (after.heap.klass klass).fields ∧
          (otherAfter.heap.classOutline otherKlass).document =
            (after.heap.classOutline klass).document ∧
          (otherAfter.heap.classOutline otherKlass).functionForm =
            (after.heap.classOutline klass).functionForm

namespace ClassDraft.OrdersLike

variable {draft other : ClassDraft}

/-- Classes with the same members in order are elaborated in the same way. -/
theorem elaborate_eq
    (orders : draft.OrdersLike other)
    (call : Caller)
    (holding : Holding)
    (limits : Limits)
    (hint : Option String) :
    elaborate call holding limits hint other =
      elaborate call holding limits hint draft := by
  have inOrder : ∀ draft : ClassDraft,
      elaborate call holding limits hint draft =
      elaborateInOrder call holding limits draft.name hint draft.scope
        draft.body.constructor
        (ClassBody.inOrder draft.body.members) := fun _ => rfl
  rw [inOrder other, inOrder draft, ← elaborateInOrder_displaced,
    orders.name_eq, orders.scope_eq, orders.constructor_eq, orders.members_eq,
    elaborateInOrder_displaced]

/-- Every way of elaborating classes with the same members in order is the
same. -/
theorem elaborateAs_eq
    (orders : draft.OrdersLike other)
    (call : Caller)
    (holding : Holding)
    (limits : Limits)
    (binding : ClassBinding) :
    elaborateAs call holding limits other binding =
      elaborateAs call holding limits draft binding := by
  cases binding with
  | expression => exact orders.elaborate_eq call holding limits none
  | hinted name => exact orders.elaborate_eq call holding limits (some name)
  | declaration =>
      simp only [elaborateAs, declareClass, orders.name_eq, orders.scope_eq,
        orders.elaborate_eq call holding limits none]

/-- Classes with the same members in order are elaborated alike. -/
theorem elaboratesLike
    (orders : draft.OrdersLike other) :
    draft.ElaboratesLike other where
  keysEvaluate_iff call scope limits before requests ended := by
    have keys : ∀ members : List (Member PropertyKey Expr),
        members.map Member.key = (members.map Member.displaced).map
          Member.key := by
      intro members
      rw [List.map_map]
      rfl
    rw [keys, orders.members_eq, ← keys]
  elaborateAs_eq call holding limits binding before :=
    congrFun (orders.elaborateAs_eq call holding limits binding) before
  described := by
    intro call holding limits binding before klass after otherKlass otherAfter
      built otherBuilt
    rw [orders.elaborateAs_eq, built] at otherBuilt
    cases otherBuilt
    exact ⟨rfl, rfl, rfl, rfl⟩

end ClassDraft.OrdersLike

/-- The member that an entry adds at a position, unless it is a constructor. -/
def BlueprintEntry.member? {κ β : Type} (position : Position) :
    BlueprintEntry κ β -> Option (Member κ β)
  | .constructor _ _ => none
  | .method key procedure =>
      some ⟨.method, key, false, some procedure, [], position⟩
  | .generator key procedure =>
      some ⟨.method, key, true, some procedure, [], position⟩
  | .getter key procedure =>
      some ⟨.getter, key, false, some procedure, [], position⟩
  | .setter key procedure =>
      some ⟨.setter, key, false, some procedure, ["value"], position⟩
  | .field key initial => some ⟨.field, key, false, initial, [], position⟩
  | .member made => some { made with position := position }

/-- The constructor that an entry designates at a position, if it does. -/
def BlueprintEntry.constructor? {κ β : Type} (position : Position) :
    BlueprintEntry κ β -> Option (ConstructorPart β)
  | .constructor params procedure => some ⟨params, some procedure, position⟩
  | _ => none

namespace BlueprintEntry

variable {κ β : Type}

/-- A member has the position at which its entry stands. -/
theorem position_of_member?
    {entry : BlueprintEntry κ β}
    {position : Position}
    {member : Member κ β}
    (adds : entry.member? position = some member) :
    member.position = position := by
  cases entry <;> cases adds <;> rfl

/-- An entry adds the same member everywhere, but for its place. -/
theorem map_displaced_member?
    (entry : BlueprintEntry κ β)
    (position : Position) :
    (entry.member? position).map Member.displaced = entry.member? 0 := by
  cases entry <;> rfl

/-- An entry designates the same constructor everywhere, but for its place. -/
theorem map_displaced_constructor?
    (entry : BlueprintEntry κ β)
    (position : Position) :
    (entry.constructor? position).map ConstructorPart.displaced =
      entry.constructor? 0 := by
  cases entry <;> rfl

end BlueprintEntry

namespace ClassBody

variable {κ β : Type}

/-- An entry adds its member behind the others, or designates its
constructor. -/
theorem add_eq
    (body : ClassBody κ β)
    (position : Position)
    (entry : BlueprintEntry κ β) :
    body.add position entry =
      ⟨body.members ++ (entry.member? position).toList,
        (entry.constructor? position).or body.constructor⟩ := by
  cases entry <;> simp [add, add.addMember, BlueprintEntry.member?,
    BlueprintEntry.constructor?]

/-- Entries add their members in order, and the last constructor among them
is designated. -/
theorem addAll_eq
    (body : ClassBody κ β)
    (place : Nat)
    (entries : List (BlueprintEntry κ β)) :
    body.addAll place entries =
      ⟨body.members ++ (entries.zipIdx place).filterMap fun placed =>
          placed.1.member? placed.2,
        ((entries.zipIdx place).filterMap fun placed =>
          placed.1.constructor? placed.2).getLast?.or body.constructor⟩ := by
  induction entries generalizing body place with
  | nil => simp [addAll]
  | cons entry rest hypothesis =>
      have next : UInt32.ofNat place + 1 = UInt32.ofNat (place + 1) :=
        (UInt32.ofNat_add place 1).symm
      rw [addAll, next, hypothesis, add_eq, List.zipIdx_cons,
        List.filterMap_cons, List.filterMap_cons]
      dsimp only
      cases entry.member? place <;> cases entry.constructor? place <;>
        simp [List.getLast?_cons]

/-- Entries are the members that they add, in order, and the last
constructor among them. -/
theorem ofEntries_eq (entries : List (BlueprintEntry κ β)) :
    ofEntries entries =
      ⟨entries.zipIdx.filterMap fun placed => placed.1.member? placed.2,
        (entries.zipIdx.filterMap fun placed =>
          placed.1.constructor? placed.2).getLast?⟩ := by
  rw [ofEntries]
  exact (addAll_eq empty 0 entries).trans (by simp [empty])

/-- Places that are less than the number of positions are positions. -/
theorem toNat_position {place : Nat} (inside : place < 2 ^ 32) :
    (place : Position).toNat = place :=
  UInt32.toNat_ofNat_of_lt' inside

/-- As long as positions do not wrap around, members stand at the places of
their entries. -/
theorem exists_entry_of_mem
    {entries : List (BlueprintEntry κ β)}
    {member : Member κ β}
    (few : entries.length < 2 ^ 32)
    (present : member ∈ (ofEntries entries).members) :
    ∃ entry, entries[member.position.toNat]? = some entry ∧
      entry.member? member.position = some member := by
  rw [ofEntries_eq] at present
  obtain ⟨⟨entry, place⟩, placed, adds⟩ := List.mem_filterMap.1 present
  have stands := List.mem_zipIdx_iff_getElem?.1 placed
  obtain ⟨inside, -⟩ := List.getElem?_eq_some_iff.1 stands
  rw [BlueprintEntry.position_of_member? adds, toNat_position (by omega)]
  exact ⟨entry, stands, adds⟩

/-- As long as they do not wrap around, the positions of entries count up. -/
theorem pairwise_ofEntries
    {entries : List (BlueprintEntry κ β)}
    (few : entries.length < 2 ^ 32) :
    (ofEntries entries).members.Pairwise fun left right =>
      left.position < right.position := by
  have counting : entries.zipIdx.Pairwise fun left right =>
      left.2 < right.2 := by
    rw [← List.pairwise_map (f := Prod.snd), List.zipIdx_map_snd]
    exact List.pairwise_lt_range'
  rw [ofEntries_eq, List.pairwise_filterMap]
  refine counting.imp_of_mem fun {left right} _ placed before member adds other
    otherAdds => ?_
  have inside : right.2 < entries.length := by
    simpa using (List.mem_zipIdx placed).2.1
  rw [BlueprintEntry.position_of_member? adds,
    BlueprintEntry.position_of_member? otherAdds, UInt32.lt_iff_toNat_lt,
    toNat_position (by omega), toNat_position (by omega)]
  exact before

/-- What entries become without their places is what each of them becomes. -/
theorem filterMap_zipIdx
    {α : Type}
    {displace : α -> α}
    (place : Position -> BlueprintEntry κ β -> Option α)
    (displaces : ∀ entry position, (place position entry).map displace =
      place 0 entry)
    (entries : List (BlueprintEntry κ β)) :
    (entries.zipIdx.filterMap fun placed =>
      place placed.2 placed.1).map displace = entries.filterMap (place 0) := by
  rw [List.map_filterMap]
  conv_rhs => rw [← List.zipIdx_map_fst 0 entries, List.filterMap_map]
  exact congrArg (List.filterMap · entries.zipIdx)
    (funext fun placed => displaces _ _)

end ClassBody

/-- Two classes list the same members, all with different positions, in
any two orders. -/
structure ClassDraft.Permutes (draft other : ClassDraft) : Prop where
  name_eq : other.name = draft.name
  scope_eq : other.scope = draft.scope
  constructor_eq : other.body.constructor = draft.body.constructor
  perm : other.body.members.Perm draft.body.members
  distinct : (draft.body.members.map Member.position).Nodup

/--
A class that is written entry by entry has the members of its entries, each at
the position up to which the entries before it count, and the last constructor
among the entries.
-/
def WritesEntries (entries : List (BlueprintEntry PropertyKey Expr)) : Prop :=
  ClassBody.ofEntries entries =
    ⟨entries.zipIdx.filterMap fun placed => placed.1.member? placed.2,
      (entries.zipIdx.filterMap fun placed =>
        placed.1.constructor? placed.2).getLast?⟩

/-- A class that is written entry by entry takes effect in the order of the
entries. -/
structure TakesEffectInOrder
    (entries : List (BlueprintEntry PropertyKey Expr)) : Prop where
  /-- Positions stay below the number of entries. -/
  counted : ∀ member ∈ (ClassBody.ofEntries entries).members,
    member.position.toNat < entries.length
  /-- The order in which members are processed is the one in which they were
  added. -/
  ordered : ClassBody.inOrder (ClassBody.ofEntries entries).members =
    (ClassBody.ofEntries entries).members
  /-- Where constructors stand among the entries makes no difference. -/
  elaboratesLike : ∀ name scope, ClassDraft.ElaboratesLike
    ⟨name,
      ⟨entries.filterMap (BlueprintEntry.member? 0),
        (entries.filterMap (BlueprintEntry.constructor? 0)).getLast?⟩,
      scope⟩
    ⟨name, ClassBody.ofEntries entries, scope⟩

/-- Different positions settle the order of members, whatever order they
are listed in. -/
theorem ClassDraft.Permutes.ordersLike
    {draft other : ClassDraft}
    (permutes : draft.Permutes other) :
    draft.OrdersLike other where
  name_eq := permutes.name_eq
  scope_eq := permutes.scope_eq
  constructor_eq := by rw [permutes.constructor_eq]
  members_eq := by
    rw [ClassBody.inOrder_eq_of_perm permutes.perm permutes.distinct]

/-- Entries are elaborated as their members in order with the last
constructor. -/
theorem ordersLike_ofEntries
    {entries : List (BlueprintEntry PropertyKey Expr)}
    (few : entries.length < 2 ^ 32)
    (name : Option String)
    (scope : ScopeRef) :
    ClassDraft.OrdersLike
      ⟨name,
        ⟨entries.filterMap (BlueprintEntry.member? 0),
          (entries.filterMap (BlueprintEntry.constructor? 0)).getLast?⟩,
        scope⟩
      ⟨name, ClassBody.ofEntries entries, scope⟩ := by
  have unplaced : ∀ member ∈ entries.filterMap (BlueprintEntry.member? 0),
      member.position = 0 := by
    intro member present
    obtain ⟨entry, -, adds⟩ := List.mem_filterMap.1 present
    exact BlueprintEntry.position_of_member? adds
  have level : (entries.filterMap (BlueprintEntry.member? 0)).Pairwise
      fun left right => left.position ≤ right.position :=
    List.pairwise_of_forall_mem_list fun left isLeft right isRight => by
      rw [unplaced left isLeft, unplaced right isRight]
      exact UInt32.le_refl 0
  have displaced :
      (entries.filterMap (BlueprintEntry.member? 0)).map Member.displaced =
      entries.filterMap (BlueprintEntry.member? 0) := by
    rw [List.map_filterMap]
    simp only [BlueprintEntry.map_displaced_member?]
  have constructors : (entries.filterMap (BlueprintEntry.constructor? 0)).map
      ConstructorPart.displaced = entries.filterMap
      (BlueprintEntry.constructor? 0) := by
    rw [List.map_filterMap]
    simp only [BlueprintEntry.map_displaced_constructor?]
  refine ⟨rfl, rfl, ?_, ?_⟩
  · dsimp only
    rw [← List.getLast?_map, constructors,
      ClassBody.ofEntries_eq, ← List.getLast?_map,
      ClassBody.filterMap_zipIdx BlueprintEntry.constructor?
        BlueprintEntry.map_displaced_constructor?]
  · dsimp only
    rw [ClassBody.inOrder_of_pairwise level, displaced,
      ClassBody.inOrder_of_pairwise
      ((ClassBody.pairwise_ofEntries few).imp UInt32.le_of_lt),
      ClassBody.ofEntries_eq, ClassBody.filterMap_zipIdx BlueprintEntry.member?
        BlueprintEntry.map_displaced_member?]

/--
Only positions put members in an order, and entries have theirs by the order of
writing, as long as there are fewer entries than positions.
-/
theorem orderedByPositions
    (draft other : ClassDraft)
    (entries : List (BlueprintEntry PropertyKey Expr)) :
    (draft.Permutes other -> draft.ElaboratesLike other) ∧
      WritesEntries entries ∧
      (entries.length < 2 ^ 32 -> TakesEffectInOrder entries) := by
  refine ⟨fun permutes => permutes.ordersLike.elaboratesLike,
    ClassBody.ofEntries_eq entries, fun few => ⟨fun member present => ?_, ?_,
      fun name scope => (ordersLike_ofEntries few name scope).elaboratesLike⟩⟩
  · obtain ⟨entry, stands, -⟩ := ClassBody.exists_entry_of_mem few present
    exact (List.getElem?_eq_some_iff.1 stands).1
  · exact ClassBody.inOrder_of_pairwise
      ((ClassBody.pairwise_ofEntries few).imp UInt32.le_of_lt)

/-- Members that are listed against their order. The key of the last one
in order fails. -/
def scatteredMembers : List (Member PropertyKey Expr) := [
  ⟨.method, .computed (.apply .throw [.literal .null]), false, none, [], 7⟩,
  ⟨.field, .computed (.literal (.string "first")), false, none, [], 1⟩,
  ⟨.getter, .literal (.ofText "second"), false, none, [], 4⟩]

/-- A class of scattered members. -/
def scatteredDraft (members : List (Member PropertyKey Expr)) : ClassDraft :=
  ⟨some "Scattered", ⟨members, none⟩, ⟨0⟩⟩

/-- Entries with two constructors around a method. -/
def framedEntries : List (BlueprintEntry PropertyKey Expr) := [
  .constructor ["early"] .nothing,
  .method (.literal (.ofText "greet")) .nothing,
  .constructor ["late"] .nothing]

/-- The members may be listed backwards, and of the two constructors the
late one counts. -/
theorem orderedByPositions_scatteredMembers :
    (scatteredDraft scatteredMembers).Permutes
      (scatteredDraft scatteredMembers.reverse) ∧
      (scatteredDraft scatteredMembers).ElaboratesLike
        (scatteredDraft scatteredMembers.reverse) ∧
      RunM.interruption? (elaborateAs (callWithin 1) .none .standard
          (scatteredDraft scatteredMembers.reverse) .expression)
          Program.initialState =
        some (.fault (.keyEvaluation 2 (.thrown .null))) ∧
      framedEntries.length < 2 ^ 32 ∧ TakesEffectInOrder framedEntries ∧
      (ClassBody.ofEntries framedEntries).constructor.map
        ConstructorPart.params = some ["late"] := by
  have permutes : (scatteredDraft scatteredMembers).Permutes
      (scatteredDraft scatteredMembers.reverse) :=
    ⟨rfl, rfl, rfl, List.reverse_perm scatteredMembers, by decide⟩
  have few : framedEntries.length < 2 ^ 32 := by decide
  obtain ⟨elaborates, -, takesEffect⟩ := orderedByPositions _ _ framedEntries
  refine ⟨permutes, elaborates permutes, ?_, few, takesEffect few, rfl⟩
  decide +kernel

namespace ClassBody

variable {κ β : Type}

/-- Entries behind others go on with the count of positions. -/
theorem addAll_append
    (body : ClassBody κ β)
    (position : Position)
    (earlier later : List (BlueprintEntry κ β)) :
    body.addAll position (earlier ++ later) =
      (body.addAll position earlier).addAll
        (position + UInt32.ofNat earlier.length) later := by
  induction earlier generalizing body position with
  | nil =>
      rw [List.nil_append, addAll, List.length_nil]
      exact congrArg (body.addAll · later) (UInt32.add_zero position).symm
  | cons entry rest hypothesis =>
      rw [List.cons_append, addAll, addAll, hypothesis, List.length_cons,
        Nat.add_comm, UInt32.ofNat_add, ← UInt32.add_assoc]
      rfl

/-- Of several constructors in a row the last one is designated. -/
theorem addAll_replicate_constructor
    (body : ClassBody κ β)
    (position : Position)
    (params : List String)
    (procedure : β)
    (further : Nat) :
    body.addAll position
      (List.replicate (further + 1) (.constructor params procedure)) =
      { body with
        constructor :=
          some ⟨params, some procedure, position + UInt32.ofNat further⟩ } := by
  induction further generalizing body position with
  | zero => simp [addAll, add]
  | succ further hypothesis =>
      rw [List.replicate_succ, addAll, hypothesis, add, Nat.add_comm,
        UInt32.ofNat_add, ← UInt32.add_assoc]
      rfl

end ClassBody

/-- A method whose key fails with a text. -/
def failingMethod (text : String) : BlueprintEntry PropertyKey Expr :=
  .method (.computed (.apply .throw [.literal (.string text)])) .nothing

/-- A constructor, a method, as many constructors as use up all positions, and
another method. -/
def wrappingEntries : List (BlueprintEntry PropertyKey Expr) :=
  [.constructor [] .nothing, failingMethod "first"] ++
    List.replicate (2 ^ 32 - 2) (.constructor [] .nothing) ++
      [failingMethod "second"]

/-- The second method gets the position of the first constructor. -/
theorem ofEntries_wrappingEntries :
    ClassBody.ofEntries wrappingEntries =
      ⟨[⟨.method, .computed (.apply .throw [.literal (.string "first")]), false,
            some .nothing, [], 1⟩,
          ⟨.method, .computed (.apply .throw [.literal (.string "second")]),
            false, some .nothing, [], 0⟩],
        some ⟨[], some .nothing, 4294967295⟩⟩ := by
  rw [ClassBody.ofEntries, wrappingEntries, ClassBody.addAll_append,
    ClassBody.addAll_append, show 2 ^ 32 - 2 = (2 ^ 32 - 3) + 1 from rfl,
    ClassBody.addAll_replicate_constructor, List.length_append,
    List.length_replicate]
  rfl

/--
Two methods are written one after the other, and only constructors between
them. The key of the second one is evaluated first, because its position has
wrapped around.
-/
theorem not_takesEffectInOrder_wrappingEntries :
    wrappingEntries.filterMap (BlueprintEntry.member? 0) =
        [failingMethod "first", failingMethod "second"].filterMap
          (BlueprintEntry.member? 0) ∧
      ¬ TakesEffectInOrder wrappingEntries ∧
      RunM.interruption? (elaborateAs (callWithin 1) .none .standard
          ⟨none, ClassBody.ofEntries wrappingEntries, ⟨0⟩⟩ .expression)
          Program.initialState =
        some (.fault (.keyEvaluation 0 (.thrown (.string "second")))) := by
  have constructors : (List.replicate (2 ^ 32 - 2)
      (.constructor [] .nothing : BlueprintEntry PropertyKey Expr)).filterMap
        (BlueprintEntry.member? 0) = [] := by
    rw [List.filterMap_replicate]
    rfl
  refine ⟨?_, fun takesEffect => ?_, ?_⟩
  · rw [wrappingEntries, List.filterMap_append, List.filterMap_append,
      constructors]
    rfl
  · have ordered := takesEffect.ordered
    rw [ofEntries_wrappingEntries] at ordered
    have heads := congrArg (List.map Member.position) ordered
    exact absurd heads (by decide)
  · rw [ofEntries_wrappingEntries]
    decide +kernel

end ClassLowering
