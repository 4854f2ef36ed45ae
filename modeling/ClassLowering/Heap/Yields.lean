import ClassLowering.Heap.Cells

/-!
# Yields

A generator body runs to its end when it is called, and its yields are collected
in a buffer. The generator then hands the yields out one by one. After the last
one it hands out the completion once, and `undefined` from then on.
-/

namespace ClassLowering

/-- The yields of a running body. The number of yields is kept beside them. -/
structure YieldBuffer where
  newestFirst : List Value
  count : Nat
  length_eq : newestFirst.length = count

namespace YieldBuffer

/-- The buffer of a body that has not yielded. -/
def empty : YieldBuffer := ⟨[], 0, rfl⟩

instance : Inhabited YieldBuffer := ⟨empty⟩

/-- Collect one more yield. -/
def push (buffer : YieldBuffer) (value : Value) : YieldBuffer :=
  ⟨value :: buffer.newestFirst, buffer.count + 1, by simp [buffer.length_eq]⟩

/-- The yields, oldest first. -/
def values (buffer : YieldBuffer) : List Value := buffer.newestFirst.reverse

@[simp] theorem values_push (buffer : YieldBuffer) (value : Value) :
    (buffer.push value).values = buffer.values ++ [value] := by
  simp [values, push]

@[simp] theorem length_values
    (buffer : YieldBuffer) :
    buffer.values.length = buffer.count := by
  simp [values, buffer.length_eq]

end YieldBuffer

/-- One answer of a generator. -/
structure Delivery where
  value : Value
  isDone : Bool
  deriving DecidableEq

namespace GeneratorCell

/-- Hand out the next value. -/
def next (cell : GeneratorCell) : Delivery × GeneratorCell :=
  match cell.pending with
  | value :: rest => (⟨value, false⟩, { cell with pending := rest })
  | [] =>
      (⟨cell.completion.getD .undefined, true⟩,
        { cell with completion := none })

/-- Hand out all values that are left, and keep the completion. -/
def drain (cell : GeneratorCell) : List Value × GeneratorCell :=
  (cell.pending, { cell with pending := [] })

/-- Whether all values have been handed out. -/
def isExhausted (cell : GeneratorCell) : Bool := cell.pending.isEmpty

end GeneratorCell

namespace Heap

/-- Let a generator hand out its next value. -/
def nextYield (heap : Heap) (ref : GeneratorRef) : Delivery × Heap :=
  let (delivery, cell) := (heap.generator ref).next
  (delivery, { heap with generators := heap.generators.set ref cell })

/-- Let a generator hand out all that is left. -/
def drainYields (heap : Heap) (ref : GeneratorRef) : List Value × Heap :=
  let (values, cell) := (heap.generator ref).drain
  (values, { heap with generators := heap.generators.set ref cell })

end Heap
end ClassLowering
