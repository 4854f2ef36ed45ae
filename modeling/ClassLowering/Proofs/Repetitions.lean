import Mathlib.Data.List.Induction

/-!
# Lists without repetitions

Where elements count as one, a list can be read without repetitions: each
element stands where one that counts as it first occurs. The loop that does this
keeps what it has met, so what happens at the end of a list is said first, and
everything else follows from it.
-/

namespace ClassLowering

variable {α : Type} [BEq α] [EquivBEq α]

/-- The loop that drops duplicates drops the last element if it was met
before. -/
theorem loop_eraseDups_concat (known met : List α) (last : α) :
    List.eraseDupsBy.loop (· == ·) (known ++ [last]) met =
      if met.contains last || known.contains last then
        List.eraseDupsBy.loop (· == ·) known met
      else List.eraseDupsBy.loop (· == ·) known met ++ [last] := by
  induction known generalizing met with
  | nil =>
      cases already : met.contains last <;>
        simp [List.eraseDupsBy.loop, ← List.contains_eq_any_beq, already]
  | cons first rest hypothesis =>
      rw [List.cons_append, List.eraseDupsBy.loop, List.eraseDupsBy.loop,
        ← List.contains_eq_any_beq, List.contains_cons]
      cases already : met.contains first with
      | false =>
          dsimp only
          rw [hypothesis, List.contains_cons, Bool.or_left_comm, Bool.or_assoc]
      | true =>
          dsimp only
          rw [hypothesis]
          by_cases same : last == first
          · have alsoMet : met.contains last = true := by
              rw [List.contains_congr same]
              exact already
            rw [alsoMet, Bool.true_or, Bool.true_or]
          · rw [Bool.not_eq_true] at same
            rw [same, Bool.false_or]

/-- An element at the end is dropped if one that counts as it stands before. -/
theorem eraseDups_concat (known : List α) (last : α) :
    (known ++ [last]).eraseDups =
      if known.contains last then known.eraseDups
        else known.eraseDups ++ [last] :=
  loop_eraseDups_concat known [] last

/-- An element counts as one of a list just if it counts as one of what is
left. -/
theorem contains_eraseDups (elements : List α) (element : α) :
    elements.eraseDups.contains element = elements.contains element := by
  induction elements using List.reverseRecOn with
  | nil => rfl
  | append_singleton known last hypothesis =>
      rw [eraseDups_concat, List.contains_append]
      split
      next met =>
        rw [hypothesis]
        by_cases same : element == last
        · rw [List.contains_congr same, met, Bool.true_or]
        · rw [Bool.not_eq_true] at same
          rw [List.contains_cons, same, List.contains_nil, Bool.or_false,
            Bool.or_false]
      next => rw [List.contains_append, hypothesis]

/-- No two elements that are left count as one. -/
theorem pairwise_eraseDups (elements : List α) :
    elements.eraseDups.Pairwise fun first second => ¬first == second := by
  induction elements using List.reverseRecOn with
  | nil => exact .nil
  | append_singleton known last hypothesis =>
      rw [eraseDups_concat]
      split
      next => exact hypothesis
      next unknown =>
        refine List.pairwise_append.2
          ⟨hypothesis, List.pairwise_singleton _ _, ?_⟩
        intro element present other isLast same
        rw [List.mem_singleton.1 isLast] at same
        rw [← contains_eraseDups, List.contains_iff_exists_mem_beq] at unknown
        exact unknown ⟨element, present, BEq.symm same⟩

/-- Repetitions are the same under a map that tells the same elements apart. -/
theorem eraseDups_map
    {β : Type}
    [BEq β]
    [EquivBEq β]
    {change : α -> β}
    (alike : ∀ first second, (change first == change second) =
      (first == second))
    (elements : List α) :
    (elements.map change).eraseDups = elements.eraseDups.map change := by
  induction elements using List.reverseRecOn with
  | nil => rfl
  | append_singleton known last hypothesis =>
      have occurs : (known.map change).contains (change last) =
          known.contains last := by
        rw [List.contains_eq_any_beq, List.contains_eq_any_beq, List.any_map]
        simp only [Function.comp_def, alike]
      rw [List.map_append, List.map_singleton, eraseDups_concat,
        eraseDups_concat, hypothesis, occurs]
      split <;> simp

end ClassLowering
