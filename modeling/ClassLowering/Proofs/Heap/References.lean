import ClassLowering.Heap.Ownership
import ClassLowering.Session.State

/-!
# References that lead somewhere

A heap holds the cells that its stores handed out. A value lies within a heap
when the heap holds the cell that it refers to; the same is said of slots, of
frames' arguments and of whatever else carries values.

One heap extends another when it holds at least its cells, and when what
never changes about a cell is the same in both: a function, a class, and the
class of an object.
-/

namespace ClassLowering
namespace Heap

/-- Whether a heap holds the cell with an identity. -/
def Holds (heap : Heap) : AnyRef -> Prop
  | .scope ref => ref.index < heap.scopes.size
  | .object ref => ref.index < heap.objects.size
  | .klass ref => ref.index < heap.classes.size
  | .function ref => ref.index < heap.functions.size
  | .generator ref => ref.index < heap.generators.size

/-- No store of one heap has more cells than that of another. -/
structure Grows (old new : Heap) : Prop where
  scopes : old.scopes.size ≤ new.scopes.size
  objects : old.objects.size ≤ new.objects.size
  classes : old.classes.size ≤ new.classes.size
  functions : old.functions.size ≤ new.functions.size
  generators : old.generators.size ≤ new.generators.size

/-- Each store is as large as itself. -/
theorem Grows.refl (heap : Heap) : heap.Grows heap :=
  ⟨Nat.le_refl _, Nat.le_refl _, Nat.le_refl _, Nat.le_refl _, Nat.le_refl _⟩

/-- A heap that grows keeps its cells. -/
theorem Grows.holds
    {old new : Heap}
    (grows : old.Grows new)
    (cell : AnyRef)
    (held : old.Holds cell) :
    new.Holds cell := by
  cases cell with
  | scope ref => exact Nat.lt_of_lt_of_le held grows.scopes
  | object ref => exact Nat.lt_of_lt_of_le held grows.objects
  | klass ref => exact Nat.lt_of_lt_of_le held grows.classes
  | function ref => exact Nat.lt_of_lt_of_le held grows.functions
  | generator ref => exact Nat.lt_of_lt_of_le held grows.generators

/-- One heap holds the cells of another, whose unchanging parts are the same in
both. -/
structure Extends (old new : Heap) : Prop where
  holds : ∀ cell, old.Holds cell -> new.Holds cell
  function_eq : ∀ ref, old.Holds (.function ref) ->
    new.function ref = old.function ref
  klass_eq : ∀ ref, old.Holds (.klass ref) -> new.klass ref = old.klass ref
  objectClass_eq : ∀ ref, old.Holds (.object ref) ->
    (new.object ref).klass = (old.object ref).klass

namespace Extends

/-- Every heap extends itself. -/
theorem refl (heap : Heap) : heap.Extends heap :=
  ⟨fun _ held => held, fun _ _ => rfl, fun _ _ => rfl, fun _ _ => rfl⟩

/-- Extensions compose. -/
theorem trans
    {first second third : Heap}
    (earlier : first.Extends second)
    (later : second.Extends third) :
    first.Extends third where
  holds cell held := later.holds cell (earlier.holds cell held)
  function_eq ref held :=
    (later.function_eq ref (earlier.holds _ held)).trans
      (earlier.function_eq ref held)
  klass_eq ref held :=
    (later.klass_eq ref (earlier.holds _ held)).trans
      (earlier.klass_eq ref held)
  objectClass_eq ref held :=
    (later.objectClass_eq ref (earlier.holds _ held)).trans
      (earlier.objectClass_eq ref held)

end Extends
end Heap

namespace Value

/-- Whether a heap holds the cell that a value refers to, if it refers to
one. -/
def Within (heap : Heap) (value : Value) : Prop :=
  ∀ cell ∈ value.cell?, heap.Holds cell

variable {heap : Heap}

/-- A value that refers to no cell is within every heap. -/
theorem within_of_cell?_eq_none {value : Value} (refers : value.cell? = none) :
    value.Within heap := by
  intro cell present
  rw [refers] at present
  cases present

/-- A value that refers to a cell is within the heaps that hold the cell. -/
theorem within_iff_of_cell?
    {value : Value}
    {cell : AnyRef}
    (refers : value.cell? = some cell) :
    value.Within heap ↔ heap.Holds cell := by
  refine ⟨fun within => within cell refers, fun held other present => ?_⟩
  rw [refers] at present
  cases present
  exact held

@[simp] theorem within_undefined : Value.undefined.Within heap :=
    within_of_cell?_eq_none rfl

@[simp] theorem within_null : Value.null.Within heap :=
    within_of_cell?_eq_none rfl

@[simp] theorem within_bool (b : Bool) : (Value.bool b).Within heap :=
  within_of_cell?_eq_none rfl

@[simp] theorem within_number (x : Float) : (Value.number x).Within heap :=
  within_of_cell?_eq_none rfl

@[simp] theorem within_ofNat (n : Nat) : (Value.ofNat n).Within heap :=
  within_of_cell?_eq_none rfl

@[simp] theorem within_string
    (text : String) :
    (Value.string text).Within heap :=
  within_of_cell?_eq_none rfl

@[simp] theorem within_symbol
    (symbol : Symbol) :
    (Value.symbol symbol).Within heap :=
  within_of_cell?_eq_none rfl

@[simp] theorem within_object (ref : ObjectRef) :
    (Value.object ref).Within heap ↔ heap.Holds (.object ref) :=
  within_iff_of_cell? rfl

@[simp] theorem within_klass (ref : ClassRef) :
    (Value.klass ref).Within heap ↔ heap.Holds (.klass ref) :=
  within_iff_of_cell? rfl

@[simp] theorem within_function (ref : FunctionRef) :
    (Value.function ref).Within heap ↔ heap.Holds (.function ref) :=
  within_iff_of_cell? rfl

@[simp] theorem within_generator (ref : GeneratorRef) :
    (Value.generator ref).Within heap ↔ heap.Holds (.generator ref) :=
  within_iff_of_cell? rfl

/-- A value within a heap is within every heap that extends it. -/
theorem Within.mono
    {value : Value}
    {later : Heap}
    (within : value.Within heap)
    (extension : heap.Extends later) :
    value.Within later :=
  fun cell refers => extension.holds cell (within cell refers)

end Value

namespace Slot

/-- Whether a heap holds the cell that a slot refers to, with or without owning
it. -/
def Within (heap : Heap) : Slot -> Prop
  | .value contents => contents.Within heap
  | .uninitialized => True
  | .selfReference klass => heap.Holds (.klass klass)

/-- A slot within a heap is within every heap that extends it. -/
theorem Within.mono
    {slot : Slot}
    {heap later : Heap}
    (within : slot.Within heap)
    (extension : heap.Extends later) :
    slot.Within later := by
  cases slot with
  | value contents => exact Value.Within.mono within extension
  | uninitialized => trivial
  | selfReference klass => exact extension.holds (.klass klass) within

end Slot

/-- Whether all of some values lie within a heap. -/
def AllWithin (heap : Heap) (values : List Value) : Prop :=
  ∀ value ∈ values, value.Within heap

namespace AllWithin

variable {heap later : Heap} {values : List Value}

@[simp] theorem nil : AllWithin heap [] := by simp [AllWithin]

@[simp] theorem cons_iff {value : Value} :
    AllWithin heap (value :: values) ↔ value.Within heap ∧
      AllWithin heap values := by
  simp [AllWithin]

@[simp] theorem append_iff {others : List Value} :
    AllWithin heap (values ++ others) ↔ AllWithin heap values ∧
      AllWithin heap others := by
  simp [AllWithin, or_imp, forall_and]

/-- Fewer values lie within a heap that more of them lie within. -/
theorem subset
    {fewer : List Value}
    (within : AllWithin heap values)
    (included : fewer ⊆ values) :
    AllWithin heap fewer :=
  fun value present => within value (included present)

/-- Values within a heap are within every heap that extends it. -/
theorem mono
    (within : AllWithin heap values)
    (extension : heap.Extends later) :
    AllWithin later values :=
  fun value present => (within value present).mono extension

/-- An operand is one of the operands or `undefined`. -/
theorem getD (within : AllWithin heap values) (index : Nat) :
    (values.getD index .undefined).Within heap := by
  rw [List.getD_eq_getElem?_getD]
  cases found : values[index]? with
  | none => simp
  | some value => exact within value (List.mem_of_getElem? found)

/-- Values behind the first few. -/
theorem drop (within : AllWithin heap values) (count : Nat) :
    AllWithin heap (values.drop count) :=
  within.subset (List.drop_subset count values)

end AllWithin
end ClassLowering
