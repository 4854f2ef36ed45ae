import ClassLowering.Proofs.Heap.Soundness
import Mathlib.Data.List.TakeWhile

/-!
# Owned cells

A cell is owned when a chain of owners leads to it from a root that the heap
holds. The search for a cell finds it exactly when it is owned: the search
marks cells until all that is owned is marked, and meets the cell before it
would mark it.
-/

namespace ClassLowering
namespace Heap

/-- A chain of owners leads to a cell from a root that the heap holds. -/
inductive Owned (heap : Heap) (roots : List AnyRef) : AnyRef -> Prop
  | root {cell : AnyRef} :
      cell ∈ roots -> heap.Holds cell -> Owned heap roots cell
  | owned {owner cell : AnyRef} :
      Owned heap roots owner -> cell ∈ heap.owns owner -> Owned heap roots cell

section Positions

variable {heap : Heap}

/-- A cell that is held has a position below the number of cells. -/
theorem cellIndex_lt {cell : AnyRef} (held : heap.Holds cell) :
    heap.cellIndex cell < heap.cellCount := by
  cases cell <;> simp only [Holds] at held <;>
    simp only [cellIndex, cellCount, held, if_true] <;> omega

/-- A cell that is not held has the position behind all cells. -/
theorem cellIndex_of_not_holds {cell : AnyRef} (lacks : ¬ heap.Holds cell) :
    heap.cellIndex cell = heap.cellCount := by
  cases cell <;> simp only [Holds] at lacks <;>
    simp only [cellIndex, lacks, if_false]

/-- Different cells that are held have different positions. -/
theorem cellIndex_inj
    {cell other : AnyRef}
    (held : heap.Holds cell)
    (heldOther : heap.Holds other)
    (same : heap.cellIndex cell = heap.cellIndex other) :
    cell = other := by
  rcases cell with ⟨⟨i⟩⟩ | ⟨⟨i⟩⟩ | ⟨⟨i⟩⟩ | ⟨⟨i⟩⟩ | ⟨⟨i⟩⟩ <;>
    rcases other with ⟨⟨j⟩⟩ | ⟨⟨j⟩⟩ | ⟨⟨j⟩⟩ | ⟨⟨j⟩⟩ | ⟨⟨j⟩⟩ <;>
      simp only [Holds] at held heldOther <;>
        simp only [cellIndex, held, heldOther, if_true] at same <;>
          simp only [AnyRef.scope.injEq, AnyRef.object.injEq,
            AnyRef.klass.injEq, AnyRef.function.injEq, AnyRef.generator.injEq,
            Ref.mk.injEq, reduceCtorEq] <;>
            omega

end Positions

/-- A class owns its scope and its functions. -/
theorem owns_klass (heap : Heap) (ref : ClassRef) :
    heap.owns (.klass ref) =
      .scope (heap.klass ref).scope ::
        (heap.klass ref).functions.map .function := by
  simp [owns, ClassCell.functions]

/-- Values within a heap refer to cells that it holds. -/
theorem holds_of_allWithin
    {heap : Heap}
    {values : List Value}
    {cell : AnyRef}
    (within : AllWithin heap values)
    (present : cell ∈ values.filterMap Value.cell?) :
    heap.Holds cell := by
  obtain ⟨value, isValue, refers⟩ := List.mem_filterMap.1 present
  exact within value isValue cell refers

/-- A slot within a heap owns cells that the heap holds. -/
theorem holds_of_mem_slotCells
    {heap : Heap}
    {slot : Slot}
    {cell : AnyRef}
    (within : slot.Within heap)
    (present : cell ∈ slotCells slot) :
    heap.Holds cell := by
  cases slot with
  | value contents => exact within cell (Option.mem_toList.1 present)
  | uninitialized => cases present
  | selfReference _ => cases present

/-- The cells that a cell of a sound heap owns are held. -/
theorem Sound.holds_owns
    {heap : Heap}
    {owner cell : AnyRef}
    (sound : heap.Sound)
    (held : heap.Holds owner)
    (owned : cell ∈ heap.owns owner) :
    heap.Holds cell := by
  cases owner with
  | scope ref =>
      rcases List.mem_append.1 owned with around | bound
      · obtain ⟨outer, isOuter, rfl⟩ :=
          Option.map_eq_some_iff.1 (Option.mem_toList.1 around)
        exact (sound.scope ref).enclosing outer (List.mem_of_head? isOuter)
      · obtain ⟨binding, isBinding, present⟩ := List.mem_flatMap.1 bound
        exact holds_of_mem_slotCells
          ((sound.scope ref).slot binding isBinding) present
  | object ref =>
      rcases List.mem_append.1 owned with linked | field
      · obtain ⟨klass, isClass, rfl⟩ :=
          Option.map_eq_some_iff.1 (Option.mem_toList.1 linked)
        exact (sound.object ref).klass klass isClass
      · exact holds_of_allWithin (sound.object ref).values field
  | klass ref =>
      have fits := sound.klass ref held
      rw [owns_klass] at owned
      rcases List.mem_cons.1 owned with rfl | function
      · exact fits.scope
      · obtain ⟨own, isOwn, rfl⟩ := List.mem_map.1 function
        exact (fits.holdsBounded isOwn).1
  | function ref =>
      obtain ⟨home, isHome, rfl⟩ :=
        Option.map_eq_some_iff.1 (Option.mem_toList.1 owned)
      exact sound.function ref home isHome
  | generator ref => exact holds_of_allWithin (sound.generator ref) owned

/-- Whether a search with some marks has visited a cell, or need not. -/
def Marked (heap : Heap) (marks : Array Bool) (cell : AnyRef) : Prop :=
  marks.getD (heap.cellIndex cell) true = true

/-- Mark one more cell. -/
def mark (heap : Heap) (marks : Array Bool) (cell : AnyRef) : Array Bool :=
  marks.setIfInBounds (heap.cellIndex cell) true

section Marks

variable {heap : Heap} {marks : Array Bool} {cell other : AnyRef}

/-- A cell that is not marked is held and has a mark that is not set. -/
theorem holds_of_not_marked
    (size : marks.size = heap.cellCount)
    (unmarked : ¬ heap.Marked marks cell) :
    heap.Holds cell := by
  apply Classical.byContradiction
  intro lacks
  apply unmarked
  rw [Marked, cellIndex_of_not_holds lacks, ← size, Array.getD_eq_getD_getElem?]
  simp

/-- A cell that is marked is marked. -/
theorem marked_mark_self : heap.Marked (heap.mark marks cell) cell := by
  rw [Marked, mark, Array.getD_eq_getD_getElem?,
    Array.getElem?_setIfInBounds_self]
  split <;> rfl

/-- Marks stay when one more cell is marked. -/
theorem Marked.mark (marked : heap.Marked marks other) :
    heap.Marked (heap.mark marks cell) other := by
  rw [Marked, Array.getD_eq_getD_getElem?] at marked ⊢
  rw [Heap.mark, Array.getElem?_setIfInBounds]
  split
  · split <;> rfl
  · exact marked

/-- Only one more cell is marked. -/
theorem Marked.of_mark
    (held : heap.Holds cell)
    (heldOther : heap.Holds other)
    (marked : heap.Marked (heap.mark marks cell) other) :
    other = cell ∨ heap.Marked marks other := by
  by_cases same : heap.cellIndex cell = heap.cellIndex other
  · exact .inl (cellIndex_inj held heldOther same).symm
  · right
    rw [Marked, Heap.mark, Array.getD_eq_getD_getElem?,
      Array.getElem?_setIfInBounds_ne same] at marked
    rw [Marked, Array.getD_eq_getD_getElem?]
    exact marked

/-- Marking a cell that is not marked leaves fewer cells without a mark. -/
theorem count_mark_lt (unmarked : ¬ heap.Marked marks cell) :
    (heap.mark marks cell).count false < marks.count false := by
  rw [Marked, Array.getD_eq_getD_getElem?] at unmarked
  cases found : marks[heap.cellIndex cell]? with
  | none =>
      rw [found] at unmarked
      exact absurd rfl unmarked
  | some isMarked =>
      rw [found, Option.getD_some, Bool.not_eq_true] at unmarked
      obtain ⟨bound, isFound⟩ := Array.getElem?_eq_some_iff.1 found
      have positive : 0 < marks.count false := by
        rw [Array.count_pos_iff, ← unmarked, ← isFound]
        exact Array.getElem_mem bound
      rw [mark, Array.setIfInBounds_def, dif_pos bound, Array.count_set bound,
        isFound, unmarked]
      -- One mark that is not set is set, and no other mark changes.
      exact Nat.sub_lt positive Nat.one_pos

end Marks

/--
How far a search has come: what the visited cells own is visited or pending, and
what it looks for is not visited.
-/
structure Searching (heap : Heap) (target : AnyRef) (marks : Array Bool)
    (pending : List AnyRef) :
    Prop where
  size : marks.size = heap.cellCount
  closed : ∀ cell, heap.Holds cell -> heap.Marked marks cell ->
    ∀ owned ∈ heap.owns cell, heap.Marked marks owned ∨ owned ∈ pending
  missed : ¬ heap.Marked marks target

section Search

variable {heap : Heap} {target cell : AnyRef} {marks : Array Bool}
variable {skipped pending rest : List AnyRef}

/-- A search goes on behind cells that are marked. -/
theorem Searching.skip
    (searching : heap.Searching target marks (skipped ++ rest))
    (visited : ∀ cell ∈ skipped, heap.Marked marks cell) :
    heap.Searching target marks rest where
  size := searching.size
  closed cell held marked owned owns := by
    refine (searching.closed cell held marked owned owns).elim .inl
      fun present => ?_
    exact (List.mem_append.1 present).imp_left (visited owned)
  missed := searching.missed

/-- A search visits a cell that is not marked, and then what the cell owns. -/
theorem Searching.visit
    (searching : heap.Searching target marks (cell :: rest))
    (unmarked : ¬ heap.Marked marks cell)
    (different : cell ≠ target) :
    heap.Searching target (heap.mark marks cell) (heap.owns cell ++ rest) where
  size := by rw [mark, Array.size_setIfInBounds, searching.size]
  closed other held marked owned owns := by
    have heldCell := holds_of_not_marked searching.size unmarked
    rcases Marked.of_mark heldCell held marked with rfl | before
    · exact .inr (List.mem_append_left _ owns)
    · rcases searching.closed other held before owned owns with marked | present
      · exact .inl marked.mark
      · rcases List.mem_cons.1 present with rfl | further
        · exact .inl marked_mark_self
        · exact .inr (List.mem_append_right _ further)
  missed marked := by
    have heldCell := holds_of_not_marked searching.size unmarked
    have heldTarget := holds_of_not_marked searching.size searching.missed
    rcases Marked.of_mark heldCell heldTarget marked with same | before
    · exact different same.symm
    · exact searching.missed before

/-- The first of some items that does not satisfy a condition, behind
those that do. -/
theorem eq_append_of_dropWhile_eq_cons
    {α : Type}
    {condition : α -> Bool}
    {items rest : List α}
    {item : α}
    (drops : items.dropWhile condition = item :: rest) :
    ∃ skipped, items = skipped ++ item :: rest ∧
      (∀ other ∈ skipped, condition other = true) ∧ condition item = false := by
  refine ⟨items.takeWhile condition, ?_, fun other present => ?_, ?_⟩
  · rw [← drops, List.takeWhile_append_dropWhile]
  · exact List.mem_takeWhile_imp present
  · have first := List.head?_dropWhile_not condition items
    rw [drops] at first
    exact first

/-- A search that meets nothing ends with marks on all that was pending and
all that it owns. -/
theorem Searching.ends
    {steps : Nat}
    (searching : heap.Searching target marks pending)
    (enough : marks.count false < steps)
    (misses : heap.searchMeets target steps marks pending = false) :
    ∃ final, heap.Searching target final [] ∧
      ∀ cell, heap.Marked marks cell ∨ cell ∈ pending ->
        heap.Marked final cell := by
  induction steps generalizing marks pending with
  | zero => exact absurd enough (Nat.not_lt_zero _)
  | succ steps hypothesis =>
      rw [searchMeets] at misses
      split at misses
      next drops =>
        have visited := List.dropWhile_eq_nil_iff.1 drops
        refine ⟨marks, ?_, fun cell present => present.elim id (visited cell)⟩
        rw [← List.append_nil pending] at searching
        exact searching.skip visited
      next cell rest drops =>
        obtain ⟨skipped, rfl, visited, unvisited⟩ :=
          eq_append_of_dropWhile_eq_cons drops
        have unmarked : ¬ heap.Marked marks cell :=
          Bool.eq_false_iff.1 unvisited
        split at misses
        · cases misses
        next different =>
          obtain ⟨final, closed, kept⟩ := hypothesis
            ((searching.skip visited).visit unmarked different)
            (Nat.lt_of_lt_of_le (count_mark_lt unmarked)
              (Nat.le_of_lt_succ enough)) misses
          refine ⟨final, closed, fun other present => ?_⟩
          rcases present with marked | present
          · exact kept other (.inl marked.mark)
          · rcases List.mem_append.1 present with before | behind
            · exact kept other (.inl (Marked.mark (visited other before)))
            · rcases List.mem_cons.1 behind with rfl | further
              · exact kept other (.inl marked_mark_self)
              · exact kept other (.inr (List.mem_append_right _ further))

end Search

/-- What is owned is held. -/
theorem Owned.holds
    {heap : Heap}
    {roots : List AnyRef}
    {cell : AnyRef}
    (owned : heap.Owned roots cell)
    (sound : heap.Sound) :
    heap.Holds cell := by
  induction owned with
  | root _ held => exact held
  | owned _ owns hypothesis => exact sound.holds_owns hypothesis owns

/-- Marks on some roots and on all that marked cells own are marks on all that
the roots own. -/
theorem Owned.marked
    {heap : Heap}
    {roots : List AnyRef}
    {target cell : AnyRef}
    {marks : Array Bool}
    (owned : heap.Owned roots cell)
    (sound : heap.Sound)
    (searching : heap.Searching target marks [])
    (visited : ∀ root ∈ roots, heap.Marked marks root) :
    heap.Marked marks cell := by
  induction owned with
  | root present _ => exact visited _ present
  | owned chain owns hypothesis =>
      have next := searching.closed _ (chain.holds sound) hypothesis _ owns
      exact next.resolve_right List.not_mem_nil

end Heap
end ClassLowering
