import ClassLowering.Proofs.Heap.Steps
import Mathlib.Data.List.Pairwise
import Mathlib.Data.Nat.ModEq

/-!
# Numbers of symbols

The numbers of symbols come from one counter, which only the creation of a
symbol moves on. It wraps around, so what the number of a symbol tells is how
many symbols were created before it, but for whole rounds of the counter.
Symbols have different numbers as long as no more of them were created than
there are numbers; the next one is taken for the first.

This holds whatever else happens between two creations, and so of all that
runs do to a heap.
-/

namespace ClassLowering

/-- Symbols compare equal when they have the same number. -/
theorem Value.strictEquals_symbol_iff {symbol other : Symbol} :
    Value.strictEquals (.symbol symbol) (.symbol other) = true ↔
      symbol.number = other.number :=
  decide_eq_true_iff

/-- Two symbols are the same when they agree in number and description. -/
theorem Symbol.eq_of_number_eq
    {symbol other : Symbol}
    (number : symbol.number = other.number)
    (description : symbol.description = other.description) :
    symbol = other := by
  cases symbol
  cases other
  cases number
  cases description
  rfl

namespace PropertyKey

/-- Two keys address the same member when whatever is stored by keys is the
same under both. -/
def SameMember (key other : PropertyKey) : Prop :=
  ∀ (α : Type) (map : OrderedMap PropertyKey α), map.find? key = map.find? other

/-- Keys address the same member just if they count as one. -/
theorem sameMember_iff
    {key other : PropertyKey} :
    key.SameMember other ↔ key == other := by
  refine ⟨fun same => ?_, fun equal _ map => map.find?_congr equal⟩
  by_contra different
  let map : OrderedMap PropertyKey Unit := OrderedMap.empty.insert key ()
  have stored : map.find? key = some () := OrderedMap.find?_insert_self _ key ()
  have missing : map.find? other = none :=
    OrderedMap.find?_insert_of_not_beq _ () different
  rw [same, missing] at stored
  cases stored

end PropertyKey

namespace Heap

/--
The symbols that are created between two heaps, oldest first. Between two
creations anything may happen that leaves the counter alone.
-/
inductive Creates (first : Heap) : List Symbol -> Heap -> Prop
  | refl : Creates first [] first
  | symbol {symbols : List Symbol} {between : Heap}
      (description : Option String) :
      Creates first symbols between ->
        Creates first (symbols ++ [(between.newSymbol description).1])
          (between.newSymbol description).2
  | other {symbols : List Symbol} {between last : Heap} :
      Creates first symbols between -> last.nextSymbol = between.nextSymbol ->
        Creates first symbols last

namespace Creates

variable {first second third : Heap} {symbols later : List Symbol}

/-- No symbol is created while the counter is left alone. -/
theorem of_nextSymbol_eq (same : second.nextSymbol = first.nextSymbol) :
    first.Creates [] second :=
  .other .refl same

/-- One creation after another. -/
theorem trans
    (earlier : first.Creates symbols second)
    (creates : second.Creates later third) :
    first.Creates (symbols ++ later) third := by
  induction creates with
  | refl => rwa [List.append_nil]
  | symbol description _ hypothesis =>
      rw [← List.append_assoc]
      exact .symbol description hypothesis
  | other _ same hypothesis => exact .other hypothesis same

/-- The counter has moved on by one for every symbol that was created. -/
theorem counter_eq (creates : first.Creates symbols second) :
    second.nextSymbol.toNat = (first.nextSymbol.toNat + symbols.length) %
      2 ^ 32 := by
  induction creates with
  | refl => exact (Nat.mod_eq_of_lt first.nextSymbol.toNat_lt).symm
  | symbol description _ hypothesis =>
      simp only [newSymbol, UInt32.toNat_add, hypothesis, UInt32.toNat_one,
        List.length_append, List.length_singleton]
      omega
  | other _ same hypothesis => rw [same, hypothesis]

/-- The numbers of the symbols count up from the counter and wrap around. -/
theorem numbers_eq (creates : first.Creates symbols second) :
    symbols.map (fun symbol => symbol.number.toNat) =
      (List.range symbols.length).map fun place =>
        (first.nextSymbol.toNat + place) % 2 ^ 32 := by
  induction creates with
  | refl => rfl
  | symbol description earlier hypothesis =>
      rw [List.length_append, List.length_singleton, List.range_succ,
        List.map_append, List.map_append, hypothesis, List.map_singleton,
        List.map_singleton, ← earlier.counter_eq]
      rfl
  | other _ _ hypothesis => exact hypothesis

/-- A number tells how many symbols were created before, but for whole
rounds. -/
theorem number_eq
    (creates : first.Creates symbols second)
    {place : Nat}
    (isPlace : place < symbols.length) :
    symbols[place].number.toNat = (first.nextSymbol.toNat + place) %
      2 ^ 32 := by
  have atPlace := congrArg (fun numbers => numbers[place]?) creates.numbers_eq
  simpa [isPlace] using atPlace

/-- Two symbols have the same number just if whole rounds lie between
their creations. -/
theorem number_eq_iff
    (creates : first.Creates symbols second)
    {place other : Nat}
    (isPlace : place < symbols.length)
    (isOther : other < symbols.length) :
    symbols[place].number = symbols[other].number ↔
      place ≡ other [MOD 2 ^ 32] := by
  rw [← UInt32.toNat_inj, creates.number_eq isPlace,
    creates.number_eq isOther, Nat.ModEq]
  omega

/-- The numbers are different as long as there are no more symbols than
numbers. -/
theorem nodup_numbers_iff (creates : first.Creates symbols second) :
    (symbols.map Symbol.number).Nodup ↔ symbols.length ≤ 2 ^ 32 := by
  rw [List.Nodup, List.pairwise_map, List.pairwise_iff_getElem]
  constructor
  · intro apart
    by_contra many
    -- The first symbol of the second round has the number of the first
    -- symbol of all.
    have round : 0 ≡ 2 ^ 32 [MOD 2 ^ 32] := (Nat.mod_self (2 ^ 32)).symm
    exact apart 0 (2 ^ 32) (by omega) (by omega) (Nat.two_pow_pos 32)
      ((creates.number_eq_iff _ _).2 round)
  · intro few place other isPlace isOther before same
    have round := (creates.number_eq_iff isPlace isOther).1 same
    have equal : place = other := round.eq_of_lt_of_lt (by omega) (by omega)
    exact Nat.ne_of_lt before equal

/-- Where the first number is one, zero is the number of the symbol that ends a
round. -/
theorem zero_mem_numbers_iff
    (creates : first.Creates symbols second)
    (fromOne : first.nextSymbol = 1) :
    0 ∈ symbols.map Symbol.number ↔ 2 ^ 32 ≤ symbols.length := by
  have number {place : Nat} (isPlace : place < symbols.length) :
      symbols[place].number.toNat = (1 + place) % 2 ^ 32 := by
    rw [creates.number_eq isPlace, fromOne, UInt32.toNat_one]
  rw [List.mem_map]
  constructor
  · rintro ⟨symbol, present, isZero⟩
    obtain ⟨place, isPlace, rfl⟩ := List.getElem_of_mem present
    have counted := number isPlace
    rw [isZero, UInt32.toNat_zero] at counted
    omega
  · intro many
    have isPlace : 2 ^ 32 - 1 < symbols.length := by omega
    have wrapped : symbols[2 ^ 32 - 1].number.toNat = 0 := by
      rw [number isPlace, Nat.add_sub_cancel' Nat.one_le_two_pow, Nat.mod_self]
    exact ⟨symbols[2 ^ 32 - 1], List.getElem_mem isPlace,
      UInt32.toNat_inj.1 wrapped⟩

end Creates

variable {makes : FunctionCell -> Prop} {heap later : Heap}

/-- A step creates a symbol or leaves the counter alone. -/
theorem Step.exists_creates (step : Step makes heap later) :
    ∃ symbols, heap.Creates symbols later := by
  cases step with
  | symbol description => exact ⟨_, .symbol description .refl⟩
  | classScope outer internalName held =>
      cases internalName <;> exact ⟨[], .of_nextSymbol_eq rfl⟩
  | assign ref name value later within assigned =>
      obtain ⟨owner, binding, -, -, -, rfl⟩ := assign_eq_ok assigned
      exact ⟨[], .of_nextSymbol_eq rfl⟩
  | _ => exact ⟨[], .of_nextSymbol_eq rfl⟩

/-- A path creates symbols one after another. -/
theorem Path.exists_creates (path : Path makes heap later) :
    ∃ symbols, heap.Creates symbols later := by
  induction path with
  | refl => exact ⟨[], .refl⟩
  | tail _ step hypothesis =>
      obtain ⟨symbols, creates⟩ := hypothesis
      obtain ⟨further, stepCreates⟩ := step.exists_creates
      exact ⟨_, creates.trans stepCreates⟩
  | @elaboration _ outside inside outer cell _ _ _ _ _ hypothesis inner =>
      obtain ⟨symbols, creates⟩ := hypothesis
      obtain ⟨further, innerCreates⟩ := inner
      -- Neither the scope of a class nor the class itself takes a number.
      have opens :
          (outside.openClassScope outer cell.internalName).2.nextSymbol =
          outside.nextSymbol := by
        cases cell.internalName <;> rfl
      have finishes : (inside.finishClass cell).2.nextSymbol =
          inside.nextSymbol := by
        unfold finishClass bindSelf
        cases cell.internalName <;> rfl
      exact ⟨_, .other
        ((Creates.other creates opens).trans innerCreates) finishes⟩

end Heap
end ClassLowering
