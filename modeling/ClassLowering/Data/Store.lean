/-!
# Stores of cells

A store hands out a reference for every cell put into it and keeps the cell
for ever: references are never reused, so two references are equal exactly when
they name the same cell.

References carry the kind of cell that they name. A reference to a function and
a reference to an object cannot be mixed up.
-/

namespace ClassLowering

/-- The kinds of cells that have an identity. -/
inductive CellKind
  | scope
  | object
  | klass
  | function
  | generator
  deriving DecidableEq, Repr

/-- The identity of a cell. -/
structure Ref (kind : CellKind) where
  /-- The position of the cell among the cells of its kind, oldest first. -/
  index : Nat
  deriving DecidableEq, Repr, Inhabited

abbrev ScopeRef := Ref .scope
abbrev ObjectRef := Ref .object
abbrev ClassRef := Ref .klass
abbrev FunctionRef := Ref .function
abbrev GeneratorRef := Ref .generator

/-- The cells of one kind, oldest first. -/
structure Store (kind : CellKind) (α : Type) where
  cells : Array α

namespace Store

variable {kind : CellKind} {α : Type}

instance : EmptyCollection (Store kind α) := ⟨⟨#[]⟩⟩

instance : Inhabited (Store kind α) := ⟨∅⟩

/-- The number of cells. -/
def size (store : Store kind α) : Nat := store.cells.size

/-- The cell that a reference names, if the store handed it out. -/
def get? (store : Store kind α) (ref : Ref kind) : Option α :=
  store.cells[ref.index]?

/-- The reference that the next cell gets. -/
def next (store : Store kind α) : Ref kind := ⟨store.size⟩

/-- Put a new cell into the store; its reference is `store.next`. -/
def push (store : Store kind α) (cell : α) : Store kind α :=
  ⟨store.cells.push cell⟩

/-- Replace one cell. -/
def set (store : Store kind α) (ref : Ref kind) (cell : α) : Store kind α :=
  ⟨store.cells.setIfInBounds ref.index cell⟩

/-- Change one cell. -/
def modify (store : Store kind α) (ref : Ref kind)
    (change : α -> α) : Store kind α :=
  ⟨store.cells.modify ref.index change⟩

/-- All references handed out, oldest first. -/
def refs (store : Store kind α) : List (Ref kind) :=
  (List.range store.size).map Ref.mk

@[simp] theorem size_push (store : Store kind α) (cell : α) :
    (store.push cell).size = store.size + 1 := by
  simp [push, size]

@[simp] theorem size_set (store : Store kind α) (ref : Ref kind) (cell : α) :
    (store.set ref cell).size = store.size := by
  simp [set, size]

@[simp] theorem get?_push_next (store : Store kind α) (cell : α) :
    (store.push cell).get? store.next = some cell := by
  simp [push, get?, next, size]

/-- A new cell changes no older one. -/
theorem get?_push_of_ne (store : Store kind α) (cell : α) {ref : Ref kind}
    (older : ref ≠ store.next) :
    (store.push cell).get? ref = store.get? ref := by
  have different : ref.index ≠ store.cells.size := by
    intro equal
    exact older (by cases ref; simp_all [next, size])
  simp [push, get?, Array.getElem?_push, different]

@[simp] theorem size_modify
    (store : Store kind α)
    (ref : Ref kind)
    (change : α -> α) :
    (store.modify ref change).size = store.size := by
  simp [modify, size]

/-- Changing one cell changes it. -/
theorem get?_modify_self
    (store : Store kind α)
    (ref : Ref kind)
    (change : α -> α) :
    (store.modify ref change).get? ref = (store.get? ref).map change := by
  simp [modify, get?, Array.getElem?_modify]

/-- Changing one cell changes no other. -/
theorem get?_modify_of_ne
    (store : Store kind α)
    (change : α -> α)
    {ref other : Ref kind} (different : other ≠ ref) :
    (store.modify ref change).get? other = store.get? other := by
  have indices : ref.index ≠ other.index := by
    intro equal
    exact different (by cases ref; cases other; simp_all)
  simp [modify, get?, Array.getElem?_modify, indices]

/-- Changing a cell into itself changes nothing. -/
theorem modify_of_fixed
    (store : Store kind α)
    {ref : Ref kind}
    {change : α -> α}
    (fixed : ∀ cell, store.get? ref = some cell -> change cell = cell) :
    store.modify ref change = store := by
  obtain ⟨cells⟩ := store
  simp only [modify, mk.injEq]
  apply Array.ext (Array.size_modify ..)
  intro index inModified inCells
  rw [Array.getElem_modify]
  split
  next same =>
    exact fixed cells[index] (by rw [get?, same, Array.getElem?_eq_getElem])
  next => rfl

/-- Replacing one cell changes no other. -/
theorem get?_set_of_ne (store : Store kind α) (cell : α) {ref other : Ref kind}
    (different : other ≠ ref) :
    (store.set ref cell).get? other = store.get? other := by
  have indices : ref.index ≠ other.index := by
    intro equal
    exact different (by cases ref; cases other; simp_all)
  simp [set, get?, indices]

/-- After a new cell, a reference names the new cell or what it named before. -/
theorem getD_push
    [Inhabited α]
    (store : Store kind α)
    (cell : α)
    (ref : Ref kind) :
    ((store.push cell).get? ref).getD default = (store.get? ref).getD default ∨
      ((store.push cell).get? ref).getD default = cell := by
  by_cases new : ref = store.next
  · right
    rw [new, get?_push_next, Option.getD_some]
  · left
    rw [get?_push_of_ne store cell new]

/-- A reference that was handed out before a new cell still names its cell. -/
theorem get?_push_of_lt (store : Store kind α) (cell : α) {ref : Ref kind}
    (older : ref.index < store.size) :
    (store.push cell).get? ref = store.get? ref := by
  apply get?_push_of_ne
  intro equal
  rw [equal] at older
  exact Nat.lt_irrefl _ older

/-- After one cell is changed, a reference names the changed cell or what
it named before. -/
theorem getD_modify
    [Inhabited α]
    (store : Store kind α)
    (ref : Ref kind)
    (change : α -> α) (other : Ref kind) :
    ((store.modify ref change).get? other).getD default =
      (store.get? other).getD default ∨ other = ref ∧ ref.index < store.size ∧
        ((store.modify ref change).get? other).getD default =
          change ((store.get? ref).getD default) := by
  by_cases same : other = ref
  · rw [same, get?_modify_self]
    cases found : store.get? ref with
    | none => exact .inl rfl
    | some cell =>
        have bound : ref.index < store.size :=
          (Array.getElem?_eq_some_iff.1 found).1
        exact .inr ⟨rfl, bound, rfl⟩
  · rw [get?_modify_of_ne store change same]
    exact .inl rfl

/-- After one cell is replaced, a reference names the replacement or what
it named before. -/
theorem getD_set
    [Inhabited α]
    (store : Store kind α)
    (ref : Ref kind)
    (cell : α) (other : Ref kind) :
    ((store.set ref cell).get? other).getD default =
      (store.get? other).getD default ∨
      ((store.set ref cell).get? other).getD default = cell := by
  by_cases same : other = ref
  · by_cases bound : ref.index < store.cells.size
    · right
      simp [same, set, get?, bound]
    · left
      simp [same, set, get?, bound]
  · left
    rw [get?_set_of_ne store cell same]

end Store
end ClassLowering
