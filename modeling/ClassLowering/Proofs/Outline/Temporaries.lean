import Mathlib.Data.List.Nodup
import ClassLowering.Outline.FunctionForm
import ClassLowering.Proofs.Repetitions

/-!
# Temporaries

The function form names the symbols among the keys of a class by the order of
their first use. No two temporaries have the same name, every symbol among the
keys has one, and each starts with an underscore. A symbol is one with its
number: where two keys have symbols of one number, the temporary is for both,
however the symbols are described.
-/

namespace ClassLowering

/-- The symbol of a symbol key. -/
def PropertyKey.symbol? : PropertyKey -> Option Symbol
  | .ofText _ => none
  | .ofSymbol symbol => some symbol

@[simp] theorem PropertyKey.symbol?_ofText
    (text : String) :
    (ofText text).symbol? = none := rfl

@[simp] theorem PropertyKey.symbol?_ofSymbol (symbol : Symbol) :
    (ofSymbol symbol).symbol? = some symbol := rfl

/-- A key has a symbol just if it is the key of the symbol. -/
theorem PropertyKey.symbol?_eq_some_iff {key : PropertyKey} {symbol : Symbol} :
    key.symbol? = some symbol ↔ key = .ofSymbol symbol := by
  cases key <;> simp

namespace FunctionForm

/-- The number behind the letter of a temporary tells how often the
letters went round. -/
theorem ofDigitChars_round (round : Nat) :
    Nat.ofDigitChars 10 (if round = 0 then [] else Nat.toDigits 10 round)
      0 = round := by
  split
  next zero => exact zero.symm
  next => simp

/-- The letters of the alphabet differ. -/
theorem letter_injective :
    Function.Injective fun letter : Fin 26 =>
      Char.ofNat ('a'.toNat + letter) := by
  unfold Function.Injective
  decide

/-- Temporaries with different indices have different names. -/
theorem temporaryName_injective : Function.Injective temporaryName := by
  intro index other same
  have chars := congrArg String.toList same
  simp only [temporaryName, String.toList_ofList, List.cons.injEq,
    true_and] at chars
  obtain ⟨letters, numbers⟩ := chars
  have remainders : index % 26 = other % 26 := by
    have bound : ∀ count, count % 26 < 26 :=
      fun count => Nat.mod_lt count (by decide)
    exact congrArg Fin.val
      (@letter_injective ⟨_, bound index⟩ ⟨_, bound other⟩ letters)
  have rounds : index / 26 = other / 26 := by
    rw [← ofDigitChars_round (index / 26), numbers, ofDigitChars_round]
  rw [← Nat.div_add_mod index 26, ← Nat.div_add_mod other 26,
    remainders, rounds]

/-- The pass over the keys collects their symbols as they first occur. -/
theorem distinctSymbols_eq_eraseDups (keys : List PropertyKey) :
    distinctSymbols keys = (keys.filterMap PropertyKey.symbol?).eraseDups := by
  induction keys using List.reverseRecOn with
  | nil => rfl
  | append_singleton keys last hypothesis =>
      rw [distinctSymbols] at hypothesis ⊢
      rw [List.foldl_append, hypothesis, List.filterMap_append]
      cases last with
      | ofText text =>
          rw [List.filterMap_cons_none (PropertyKey.symbol?_ofText text),
            List.filterMap_nil, List.append_nil]
          rfl
      | ofSymbol symbol =>
          rw [List.filterMap_cons_some (PropertyKey.symbol?_ofSymbol symbol),
            List.filterMap_nil, eraseDups_concat]
          simp only [List.foldl_cons, List.foldl_nil, contains_eraseDups]

/-- The symbol of a key counts as one of those that get a temporary. -/
theorem contains_distinctSymbols
    {keys : List PropertyKey}
    {symbol : Symbol}
    (present : .ofSymbol symbol ∈ keys) :
    (distinctSymbols keys).contains symbol = true := by
  rw [distinctSymbols_eq_eraseDups, contains_eraseDups,
    List.contains_iff_exists_mem_beq]
  exact ⟨symbol, List.mem_filterMap.2 ⟨_, present, rfl⟩, BEq.rfl⟩

/-- The names of the temporaries are those of the indices from zero. -/
theorem map_snd_nameSymbols (symbols : List Symbol) :
    (nameSymbols symbols).map Prod.snd =
      (List.range symbols.length).map temporaryName := by
  have indices := List.zipIdx_map_snd 0 symbols
  rw [← List.range_eq_range'] at indices
  rw [nameSymbols, List.map_map, ← indices, List.map_map]
  rfl

/-- The temporaries are for the symbols that are named. -/
theorem map_fst_nameSymbols (symbols : List Symbol) :
    (nameSymbols symbols).map Prod.fst = symbols := by
  rw [nameSymbols, List.map_map]
  exact List.zipIdx_map_fst 0 symbols

/-- No two temporaries have the same name. -/
theorem nodup_names
    (symbols : List Symbol) :
    ((nameSymbols symbols).map Prod.snd).Nodup := by
  rw [map_snd_nameSymbols]
  exact List.nodup_range.map temporaryName_injective

/-- A name belongs to the temporary of one symbol. -/
theorem symbol_eq_of_mem
    {symbols : List Symbol}
    {symbol other : Symbol}
    {name : String}
    (named : (symbol, name) ∈ nameSymbols symbols)
    (otherNamed : (other, name) ∈ nameSymbols symbols) :
    symbol = other :=
  congrArg Prod.fst
    (List.inj_on_of_nodup_map (nodup_names symbols) named otherNamed rfl)

/-- A symbol that counts as one that is named is written with the
temporary of that one. -/
theorem temporary_mem
    {symbols : List Symbol}
    {symbol : Symbol}
    (present : symbols.contains symbol = true) :
    ∃ owner, owner.number = symbol.number ∧
      (owner, temporary (nameSymbols symbols) symbol) ∈
        nameSymbols symbols := by
  rw [← map_fst_nameSymbols symbols,
    List.contains_iff_exists_mem_beq] at present
  obtain ⟨owner, isNamed, same⟩ := present
  obtain ⟨named, listed, rfl⟩ := List.mem_map.1 isNamed
  rw [temporary]
  cases found : (nameSymbols symbols).find? fun named => named.1 == symbol with
  | none =>
      exact absurd (BEq.symm same) (List.find?_eq_none.1 found named listed)
  | some first =>
      exact ⟨first.1, Symbol.beq_iff.1 (by simpa using List.find?_some found),
        List.mem_of_find?_eq_some found⟩

/-- The name of a temporary starts with an underscore. -/
theorem head?_of_mem
    {symbols : List Symbol}
    {named : Symbol × String}
    (present : named ∈ nameSymbols symbols) :
    named.2.toList.head? = some '_' := by
  obtain ⟨indexed, -, rfl⟩ := List.mem_map.1 present
  simp [temporaryName]

end FunctionForm

/-- Every symbol among the keys of a class is written with the temporary
of its number. -/
theorem ClassOutline.temporary_mem
    {outline : ClassOutline}
    {symbol : Symbol}
    (present : .ofSymbol symbol ∈ outline.keys) :
    ∃ owner, owner.number = symbol.number ∧
      (owner, FunctionForm.temporary outline.temporaries symbol) ∈
        outline.temporaries :=
  FunctionForm.temporary_mem (FunctionForm.contains_distinctSymbols present)

end ClassLowering
