import ClassLowering.Proofs.Heap.Owners

/-!
# Cells that exist

A cell exists when something that exists owns it, or a root. So it is one of
some cells each of which is a root or owned by another of them. Either a chain
of owners starts at a root, or the chain has no start: its cells own each
other in a ring.

Cells of the second kind are what is left when cells without owners are taken
away. While cells are taken away, the counts of owners are those of the cells
that are left.
-/

namespace ClassLowering
namespace Heap

/-- A cell is one of some cells each of which is a root or owned by
another of them. -/
def Keeps (heap : Heap) (roots : List AnyRef) (target : AnyRef) : Prop :=
  ∃ kept : AnyRef -> Prop, kept target ∧ ∀ cell, kept cell -> heap.Holds cell ∧
    (cell ∈ roots ∨ ∃ owner, kept owner ∧ cell ∈ heap.owns owner)

section Counts

variable {heap : Heap} {counts : Array Nat} {cell : AnyRef}

/-- The number of owners of a cell by some counts. -/
def countOf (heap : Heap) (counts : Array Nat) (cell : AnyRef) : Nat :=
  counts.getD (heap.cellIndex cell) 0

/-- Changing the count of one cell changes no other count. -/
theorem countOf_modify
    (counts : Array Nat)
    (change : Nat -> Nat)
    {other : AnyRef}
    (held : heap.Holds cell)
    (different : other ≠ cell) :
    heap.countOf (counts.modify (heap.cellIndex other) change) cell =
      heap.countOf counts cell := by
  have apart : heap.cellIndex other ≠ heap.cellIndex cell := by
    intro same
    by_cases heldOther : heap.Holds other
    · exact different (cellIndex_inj heldOther held same)
    · rw [cellIndex_of_not_holds heldOther] at same
      exact Nat.lt_irrefl _ (same ▸ cellIndex_lt held)
  rw [countOf, countOf, Array.getD_eq_getD_getElem?,
    Array.getD_eq_getD_getElem?, Array.getElem?_modify, if_neg apart]

/-- Changing the count of a cell changes it. -/
theorem countOf_modify_self
    (change : Nat -> Nat)
    (size : counts.size = heap.cellCount)
    (held : heap.Holds cell) :
    heap.countOf (counts.modify (heap.cellIndex cell) change) cell =
      change (heap.countOf counts cell) := by
  have bound : heap.cellIndex cell < counts.size := size ▸ cellIndex_lt held
  rw [countOf, countOf, Array.getD_eq_getD_getElem?,
    Array.getD_eq_getD_getElem?, Array.getElem?_modify, if_pos rfl,
    Array.getElem?_eq_getElem bound]
  rfl

end Counts

/--
How far cells have been taken away. Some cells are left, and some links of the
cell that is being taken away. The counts are those of what is left, and the
freed cells are those of which no owner is left.
-/
structure Taking (heap : Heap) (links left : List AnyRef) (counts : Array Nat)
    (freed : List AnyRef) : Prop where
  size : counts.size = heap.cellCount
  held : ∀ cell ∈ left, heap.Holds cell
  nodup : left.Nodup
  nodupFreed : freed.Nodup
  counted : ∀ cell, heap.Holds cell ->
    heap.countOf counts cell = (links ++ left.flatMap heap.owns).count cell
  gone : ∀ cell, heap.Holds cell -> cell ∉ left -> heap.countOf counts cell = 0
  freed_iff : ∀ cell, cell ∈ freed ↔ cell ∈ left ∧ heap.countOf counts cell = 0

namespace Taking

variable {heap : Heap} {links left freed : List AnyRef} {counts : Array Nat}
  {cell : AnyRef}

/-- A cell that a link still owns is counted. -/
theorem countOf_link_pos
    (taking : heap.Taking (cell :: links) left counts freed)
    (held : heap.Holds cell) :
    0 < heap.countOf counts cell := by
  rw [taking.counted cell held, List.cons_append, List.count_cons_self]
  exact Nat.succ_pos _

/-- A cell that a link still owns is left. -/
theorem mem_left_of_link
    (taking : heap.Taking (cell :: links) left counts freed)
    (held : heap.Holds cell) :
    cell ∈ left :=
  Decidable.byContradiction fun isGone =>
    (taking.countOf_link_pos held).ne' (taking.gone cell held isGone)

/-- A cell that a link still owns is not freed yet. -/
theorem not_mem_freed_of_link
    (taking : heap.Taking (cell :: links) left counts freed)
    (held : heap.Holds cell) :
    cell ∉ freed :=
  fun isFreed => (taking.countOf_link_pos held).ne'
    ((taking.freed_iff cell).1 isFreed).2

/-- One link less leaves one owner less. -/
theorem takeOwner
    (taking : heap.Taking (cell :: links) left counts freed)
    (held : heap.Holds cell) :
    let taken := heap.takeOwner (counts, freed) cell
    heap.Taking links left taken.1 taken.2 := by
  intro taken
  let fewer := counts.modify (heap.cellIndex cell) (· - 1)
  have counted := taking.counted cell held
  rw [List.cons_append, List.count_cons_self] at counted
  have self : heap.countOf fewer cell = heap.countOf counts cell - 1 :=
    countOf_modify_self (· - 1) taking.size held
  have others (other : AnyRef) (heldOther : heap.Holds other)
      (different : other ≠ cell) :
      heap.countOf fewer other = heap.countOf counts other :=
    countOf_modify counts (· - 1) heldOther different.symm
  have present := taking.mem_left_of_link held
  have unfreed := taking.not_mem_freed_of_link held
  have countedFewer (other : AnyRef) (heldOther : heap.Holds other) :
      heap.countOf fewer other =
        (links ++ left.flatMap heap.owns).count other := by
    by_cases same : other = cell
    · subst same
      omega
    · rw [others other heldOther same, taking.counted other heldOther,
        List.cons_append, List.count_cons_of_ne (Ne.symm same)]
  have goneFewer (other : AnyRef) (heldOther : heap.Holds other)
      (isGone : other ∉ left) :
      heap.countOf fewer other = 0 := by
    have different : other ≠ cell := fun same => isGone (same ▸ present)
    rw [others other heldOther different, taking.gone other heldOther isGone]
  have size : fewer.size = heap.cellCount := by
    rw [Array.size_modify, taking.size]
  have freedFewer (other : AnyRef) (different : other ≠ cell) :
      other ∈ freed ↔ other ∈ left ∧ heap.countOf fewer other = 0 := by
    rw [taking.freed_iff other]
    refine and_congr_right fun isLeft => ?_
    rw [others other (taking.held other isLeft) different]
  have unfolded : taken =
      if heap.countOf fewer cell = 0 then (fewer, cell :: freed)
        else (fewer, freed) := rfl
  rw [unfolded]
  split
  next zero =>
    refine ⟨size, taking.held, taking.nodup,
      List.nodup_cons.2 ⟨unfreed, taking.nodupFreed⟩,
      countedFewer, goneFewer, fun other => ?_⟩
    by_cases same : other = cell
    · subst same
      simp only [List.mem_cons_self, present, zero, and_self]
    · rw [List.mem_cons, or_iff_right same, freedFewer other same]
  next nonzero =>
    refine ⟨size, taking.held, taking.nodup, taking.nodupFreed,
      countedFewer, goneFewer, fun other => ?_⟩
    by_cases same : other = cell
    · subst same
      simp only [unfreed, nonzero, and_false]
    · exact freedFewer other same

/-- Without its links, a cell that is taken away leaves none. -/
theorem takeOwners
    (taking : heap.Taking links left counts freed)
    (held : ∀ cell ∈ links, heap.Holds cell) :
    let taken := links.foldl heap.takeOwner (counts, freed)
    heap.Taking [] left taken.1 taken.2 := by
  induction links generalizing counts freed with
  | nil => exact taking
  | cons link rest hypothesis =>
      exact hypothesis (taking.takeOwner (held link List.mem_cons_self))
          fun cell present =>
        held cell (List.mem_cons_of_mem _ present)

/-- A freed cell is the next to be taken away. -/
theorem takeFreed (taking : heap.Taking [] left counts (cell :: freed)) :
    heap.Taking (heap.owns cell) (left.erase cell) counts freed := by
  obtain ⟨present, zero⟩ := (taking.freed_iff cell).1 List.mem_cons_self
  obtain ⟨first, nodupRest⟩ := List.nodup_cons.1 taking.nodupFreed
  refine ⟨taking.size,
    fun other isLeft => taking.held other (List.mem_of_mem_erase isLeft),
    taking.nodup.erase cell, nodupRest, fun other held => ?_,
    fun other held isGone => ?_, fun other => ?_⟩
  · have links :=
      ((List.perm_cons_erase present).flatMap_right heap.owns).count_eq other
    rw [taking.counted other held, List.nil_append, links, List.flatMap_cons]
  · by_cases same : other = cell
    · rw [same, zero]
    · refine taking.gone other held fun isLeft => isGone ?_
      exact (List.mem_erase_of_ne same).2 isLeft
  · rw [taking.nodup.mem_erase_iff, and_assoc, ← taking.freed_iff other,
      List.mem_cons]
    refine ⟨fun isFreed => ⟨?_, .inr isFreed⟩, fun ⟨different, further⟩ =>
      further.resolve_left different⟩
    rintro rfl
    exact first isFreed

/-- The cells of a ring are never freed. -/
theorem not_freed_of_ring
    {ring : AnyRef -> Prop}
    (taking : heap.Taking links left counts freed)
    (owned : ∀ cell, ring cell -> heap.Holds cell ∧ ∃ owner, ring owner ∧
      cell ∈ heap.owns owner)
    (stays : ∀ cell, ring cell -> cell ∈ left)
    (inRing : ring cell) :
    cell ∉ freed := by
  intro isFreed
  obtain ⟨held, owner, ownerInRing, owns⟩ := owned cell inRing
  have zero := ((taking.freed_iff cell).1 isFreed).2
  rw [taking.counted cell held, List.count_eq_zero] at zero
  exact zero (List.mem_append_right _
    (List.mem_flatMap.2 ⟨owner, stays owner ownerInRing, owns⟩))

/-- Cells are taken away until none is freed, and those of rings are left. -/
theorem takeAway
    {steps : Nat}
    (sound : heap.Sound)
    (taking : heap.Taking [] left counts freed)
    (enough : left.length ≤ steps) :
    ∃ final, heap.Taking [] final (heap.takeAway steps (counts, freed)) [] ∧
      ∀ ring : AnyRef -> Prop,
        (∀ cell, ring cell -> heap.Holds cell ∧ ∃ owner, ring owner ∧
          cell ∈ heap.owns owner) ->
          (∀ cell, ring cell -> cell ∈ left) -> ∀ cell, ring cell ->
            cell ∈ final := by
  induction steps generalizing left counts freed with
  | zero =>
      obtain rfl := List.eq_nil_of_length_eq_zero (Nat.le_zero.1 enough)
      have none : freed = [] :=
        List.eq_nil_iff_forall_not_mem.2 fun cell isFreed =>
          List.not_mem_nil ((taking.freed_iff cell).1 isFreed).1
      exact ⟨[], none ▸ taking, fun _ _ stays => stays⟩
  | succ steps hypothesis =>
      cases freed with
      | nil => exact ⟨left, taking, fun _ _ stays => stays⟩
      | cons cell rest =>
          have present := ((taking.freed_iff cell).1 List.mem_cons_self).1
          have held := taking.held cell present
          obtain ⟨final, ended, keeps⟩ := hypothesis
            (taking.takeFreed.takeOwners fun owned owns =>
              sound.holds_owns held owns)
            (by rw [List.length_erase_of_mem present]; omega)
          refine ⟨final, ended, fun ring owned stays =>
            keeps ring owned fun other inRing => ?_⟩
          refine (List.mem_erase_of_ne ?_).2 (stays other inRing)
          rintro rfl
          exact taking.not_freed_of_ring owned stays inRing List.mem_cons_self

end Taking

end Heap
end ClassLowering
