import ClassLowering.Heap.Description

/-!
# Calculations

Operations that only look at values and at the names in the heap. Addition adds
numbers and joins the texts of anything else; the other arithmetic treats what
is no number as NaN.
-/

namespace ClassLowering

/-- An operand, or `undefined` when it is missing. -/
def operand (operands : List Value) (index : Nat) : Value :=
  operands.getD index .undefined

namespace Heap

/-- The sum of two numbers, or the joined texts of other values. -/
def add (heap : Heap) : Value -> Value -> Value
  | .number x, .number y => .number (x + y)
  | left, right => .string (heap.text left ++ heap.text right)

/-- The result of a calculation. -/
def calculate (heap : Heap) (calculation : Calculation)
    (operands : List Value) : Value :=
  let left := operand operands 0
  let right := operand operands 1
  match calculation with
  | .add => heap.add left right
  | .subtract => .number (left.toNumber - right.toNumber)
  | .multiply => .number (left.toNumber * right.toNumber)
  | .divide => .number (left.toNumber / right.toNumber)
  | .less => .bool (left.toNumber < right.toNumber)
  | .strictEquals => .bool (left.strictEquals right)
  | .not => .bool (!left.isTruthy)
  | .typeName => .string left.typeName
  | .join => .string (String.join (operands.map heap.text))
  | .diagnose => .string (heap.diagnostic left)

end Heap
end ClassLowering
