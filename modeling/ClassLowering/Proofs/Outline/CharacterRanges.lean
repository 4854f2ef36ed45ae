import ClassLowering.Proofs.Outline.IdentifierTable
import ClassLowering.Text.CharacterClass
import Mathlib.Data.Nat.Basic

/-!
# Ranges of code points

Tables of code points are compared range by range. The ranges of one table that
are outside of another are cut out in one walk through both, and a code point of
the first table is in the other one or in what was cut out. A second walk tells
whether two tables have no code point in common.

Both walks go through the ranges in increasing order. The first is right for
every order, and the second for tables that are in order. They are run on the
tables of letters and numerals and on those of identifier characters, so that
what they find is known of every character.
-/

namespace ClassLowering
namespace CharacterClass

/-- What some ranges have outside of others. Both are gone through in
increasing order. -/
def withoutRanges : ℕ -> List (ℕ × ℕ) -> List (ℕ × ℕ) -> List (ℕ × ℕ)
  | 0, ranges, _ => ranges
  | steps + 1, ranges, others =>
      match ranges, others with
      | [], _ => []
      | ranges, [] => ranges
      | (low, high) :: ranges, (first, last) :: others =>
          if Nat.blt last low then withoutRanges steps
            ((low, high) :: ranges) others
          else if Nat.blt high first then
            (low, high) :: withoutRanges steps ranges ((first, last) :: others)
          else
            (if Nat.blt low first then [(low, first - 1)] else []) ++
              if Nat.ble high last then withoutRanges steps ranges
                ((first, last) :: others)
              else withoutRanges steps ((last + 1, high) :: ranges) others

/-- Whether some ranges meet none of others. Both are gone through in
increasing order. -/
def areApart : ℕ -> List (ℕ × ℕ) -> List (ℕ × ℕ) -> Bool
  | 0, _, _ => false
  | steps + 1, ranges, others =>
      match ranges, others with
      | [], _ => true
      | _, [] => true
      | (low, high) :: ranges, (first, last) :: others =>
          if Nat.blt high first then areApart steps ranges
            ((first, last) :: others)
          else if Nat.blt last low then areApart steps
            ((low, high) :: ranges) others
          else false

/-- Whether every range ends before the next one starts. -/
def areIncreasing : List (ℕ × ℕ) -> Bool
  | [] => true
  | [range] => Nat.ble range.1 range.2
  | range :: next :: ranges =>
      Nat.ble range.1 range.2 && Nat.blt range.2 next.1 &&
        areIncreasing (next :: ranges)

variable {ranges others : List (ℕ × ℕ)} {range : ℕ × ℕ} {code : ℕ}

/-- A code point is in the first range or in the others. -/
theorem inRanges_cons (range : ℕ × ℕ) (ranges : List (ℕ × ℕ)) (code : ℕ) :
    inRanges (range :: ranges) code = true ↔
      range.1 ≤ code ∧ code ≤ range.2 ∨ inRanges ranges code = true := by
  rw [inRanges, List.any_cons, Bool.or_eq_true, Bool.and_eq_true,
    decide_eq_true_eq, decide_eq_true_eq, inRanges]

/-- A code point in ranges of two lists. -/
theorem inRanges_append (ranges others : List (ℕ × ℕ)) (code : ℕ) :
    inRanges (ranges ++ others) code = true ↔
      inRanges ranges code = true ∨ inRanges others code = true := by
  rw [inRanges, List.any_append, Bool.or_eq_true, inRanges, inRanges]

/-- A code point in some ranges is in others, or in what is left without
them. -/
theorem inRanges_withoutRanges
    (steps : ℕ)
    (present : inRanges ranges code = true) :
    inRanges others code = true ∨
      inRanges (withoutRanges steps ranges others) code = true := by
  fun_induction withoutRanges steps ranges others with
  | case1 => exact .inr present
  | case2 => cases present
  | case3 => exact .inr present
  | case4 steps low high ranges first last others before hypothesis =>
      rw [inRanges_cons (first, last)]
      exact (hypothesis present).imp .inr id
  | case5 steps low high ranges first last others notBefore behind hypothesis =>
      rw [inRanges_cons (low, high)] at present ⊢
      rcases present with here | further
      · exact .inr (.inl here)
      · exact (hypothesis further).imp id .inr
  | case6 steps low high ranges first last others notBefore notBehind
      within beyond =>
      -- What is in front of the other range is left, and what is behind it
      -- is gone on with.
      have front : low ≤ code -> code < first ->
          inRanges (if Nat.blt low first then [(low, first - 1)] else [])
            code = true := by
        intro above below
        rw [if_pos (Nat.blt_eq.mpr (lt_of_le_of_lt above below)), inRanges_cons]
        exact .inl ⟨above, Nat.le_sub_one_of_lt below⟩
      rw [inRanges_append, inRanges_cons (first, last)]
      rw [inRanges_cons (low, high)] at present
      rw [inRanges_cons (last + 1, high)] at beyond
      rw [inRanges_cons (first, last)] at within
      dsimp only at present within beyond ⊢
      rcases present with ⟨above, below⟩ | further
      · rcases lt_or_ge code first with inFront | notInFront
        · exact .inr (.inl (front above inFront))
        · rcases le_or_gt code last with inOther | behind
          · exact .inl (.inl ⟨notInFront, inOther⟩)
          · have goesOn : ¬ Nat.ble high last = true := fun inside =>
              not_le.2 (lt_of_lt_of_le behind below)
                (Nat.le_of_ble_eq_true inside)
            rw [if_neg goesOn]
            exact (beyond (.inl ⟨behind, below⟩)).imp .inr .inr
      · by_cases inside : Nat.ble high last = true
        · rw [if_pos inside]
          exact (within further).imp id .inr
        · rw [if_neg inside]
          exact (beyond (.inr further)).imp .inr .inr

/-- Ranges in increasing order have a first one that is one, and the others
are in order too. -/
theorem le_and_areIncreasing
    (increasing : areIncreasing (range :: ranges) = true) :
    range.1 ≤ range.2 ∧ areIncreasing ranges = true := by
  cases ranges with
  | nil => exact ⟨Nat.le_of_ble_eq_true increasing, rfl⟩
  | cons next ranges =>
      rw [areIncreasing, Bool.and_eq_true, Bool.and_eq_true] at increasing
      exact ⟨Nat.le_of_ble_eq_true increasing.1.1, increasing.2⟩

/-- Ranges in increasing order start with their least code point. -/
theorem le_of_areIncreasing
    (increasing : areIncreasing (range :: ranges) = true)
    (present : inRanges (range :: ranges) code = true) :
    range.1 ≤ code := by
  induction ranges generalizing range with
  | nil =>
      rw [inRanges_cons] at present
      rcases present with here | none
      · exact here.1
      · cases none
  | cons next ranges hypothesis =>
      obtain ⟨le, rest⟩ := le_and_areIncreasing increasing
      rw [areIncreasing, Bool.and_eq_true, Bool.and_eq_true,
        Nat.blt_eq] at increasing
      rw [inRanges_cons] at present
      rcases present with here | further
      · exact here.1
      · exact le_trans (le_trans le (le_of_lt increasing.1.2))
          (hypothesis rest further)

/-- No code point is in ranges that are apart. -/
theorem not_inRanges_of_areApart
    {steps : ℕ}
    (apart : areApart steps ranges others = true)
    (increasing : areIncreasing ranges = true)
    (othersIncreasing : areIncreasing others = true)
    (present : inRanges ranges code = true) :
    ¬ inRanges others code = true := by
  fun_induction areApart steps ranges others with
  | case1 => cases apart
  | case2 => cases present
  | case3 => exact Bool.false_ne_true
  | case4 steps low high ranges first last others before hypothesis =>
      rw [inRanges_cons (low, high)] at present
      rcases present with here | further
      · intro inOthers
        have atLeast : first ≤ code :=
          le_of_areIncreasing othersIncreasing inOthers
        exact absurd (lt_of_le_of_lt here.2 (Nat.blt_eq.mp before))
          (not_lt.2 atLeast)
      · exact hypothesis apart (le_and_areIncreasing increasing).2
          othersIncreasing further
  | case5 steps low high ranges first last others notBefore behind hypothesis =>
      intro inOthers
      have atLeast : low ≤ code := le_of_areIncreasing increasing present
      rw [inRanges_cons (first, last)] at inOthers
      rcases inOthers with here | further
      · exact absurd (lt_of_le_of_lt here.2 (Nat.blt_eq.mp behind))
          (not_lt.2 atLeast)
      · exact hypothesis apart increasing
          (le_and_areIncreasing othersIncreasing).2 present further
  | case6 => cases apart

/-- No code point up to some place is in ranges that start behind it. -/
theorem inRanges_eq_false_of_le
    (place : ℕ)
    (behind : areApart 2 [(0, place)] ranges = true)
    (increasing : areIncreasing ranges = true)
    (le : code ≤ place) :
    inRanges ranges code = false := by
  have here : inRanges [(0, place)] code = true := by
    rw [inRanges_cons]
    exact .inl ⟨Nat.zero_le _, le⟩
  exact Bool.eq_false_iff.2
    (not_inRanges_of_areApart behind (Nat.ble_eq_true_of_le place.zero_le)
      increasing here)

section Tables

/-- What the tables of letters, marks and numerals have outside of
identifier characters. -/
theorem withoutRanges_tables :
    (withoutRanges 2000 (withoutRanges 2000 letterRanges nameStartRanges)
        markRanges = symbolRanges ∧
      withoutRanges 2000 numeralRanges namePartRanges = otherNumeralRanges) ∧
      withoutRanges 2000 markRanges namePartRanges = [] ∧
        withoutRanges 2000 nameStartRanges namePartRanges = [] := by
  decide +kernel

/-- The tables are in increasing order. -/
theorem areIncreasing_tables :
    ((areIncreasing letterRanges = true ∧ areIncreasing numeralRanges = true) ∧
      areIncreasing nameStartRanges = true ∧
        areIncreasing namePartRanges = true) ∧
        areIncreasing markRanges = true ∧ areIncreasing symbolRanges = true ∧
          areIncreasing otherNumeralRanges = true := by
  decide +kernel

/-- The tables that have no code point in common. -/
theorem areApart_tables :
    areApart 2000 markRanges nameStartRanges = true ∧
      areApart 2000 symbolRanges namePartRanges = true ∧
        areApart 2000 otherNumeralRanges namePartRanges = true := by
  decide +kernel

/-- A letter starts names, or is a mark, or is one of those that are in no
name. -/
theorem inRanges_of_letter (letter : inRanges letterRanges code = true) :
    inRanges nameStartRanges code = true ∨ inRanges markRanges code = true ∨
      inRanges symbolRanges code = true := by
  obtain ⟨⟨left, -⟩, -⟩ := withoutRanges_tables
  refine (inRanges_withoutRanges 2000 letter).imp id fun noStart => ?_
  rw [← left]
  exact inRanges_withoutRanges 2000 noStart

/-- A mark may follow in names. -/
theorem namePart_of_mark (mark : inRanges markRanges code = true) :
    inRanges namePartRanges code = true := by
  obtain ⟨-, left, -⟩ := withoutRanges_tables
  refine (inRanges_withoutRanges 2000 mark).resolve_right ?_
  rw [left]
  exact Bool.false_ne_true

/-- A numeral may follow in names, or is one of those that are in no name. -/
theorem inRanges_of_numeral (numeral : inRanges numeralRanges code = true) :
    inRanges namePartRanges code = true ∨
      inRanges otherNumeralRanges code = true := by
  obtain ⟨⟨-, left⟩, -⟩ := withoutRanges_tables
  rw [← left]
  exact inRanges_withoutRanges 2000 numeral

/-- A character that starts names may follow in them. -/
theorem namePart_of_nameStart (starts : inRanges nameStartRanges code = true) :
    inRanges namePartRanges code = true := by
  obtain ⟨-, -, left⟩ := withoutRanges_tables
  refine (inRanges_withoutRanges 2000 starts).resolve_right ?_
  rw [left]
  exact Bool.false_ne_true

/-- No mark starts names. -/
theorem not_nameStart_of_mark (mark : inRanges markRanges code = true) :
    ¬ inRanges nameStartRanges code = true := by
  obtain ⟨apart, -⟩ := areApart_tables
  obtain ⟨⟨-, starts, -⟩, marks, -⟩ := areIncreasing_tables
  exact not_inRanges_of_areApart apart marks starts mark

/-- No character that is outside of names may follow in them. -/
theorem not_namePart_of_outside
    (outside : inRanges symbolRanges code = true ∨
      inRanges otherNumeralRanges code = true) :
    ¬ inRanges namePartRanges code = true := by
  obtain ⟨-, symbolsApart, numeralsApart⟩ := areApart_tables
  obtain ⟨⟨-, -, parts⟩, -, symbols, numerals⟩ := areIncreasing_tables
  rcases outside with symbol | numeral
  · exact not_inRanges_of_areApart symbolsApart symbols parts symbol
  · exact not_inRanges_of_areApart numeralsApart numerals parts numeral

end Tables

end CharacterClass
end ClassLowering
