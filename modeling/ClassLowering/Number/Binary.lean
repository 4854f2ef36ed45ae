/-!
# Binary floating-point numbers, taken apart

A finite number other than zero is a sign, a natural number and a power of two.
The numbers next to it on the two sides are one unit of that power away, except
below the smallest number of a binade, where the lower neighbour is half as far.
-/

namespace ClassLowering

/-- A positive finite number `mantissa * 2 ^ exponent`. -/
structure Magnitude where
  mantissa : Nat
  exponent : Int
  /-- Whether the next lower number is half a unit away and not a whole one. -/
  narrowBelow : Bool
  deriving DecidableEq, Repr

/-- The cases of a binary floating-point number. -/
inductive Binary
  | nan
  | infinite (negative : Bool)
  | zero (negative : Bool)
  | finite (negative : Bool) (magnitude : Magnitude)
  deriving DecidableEq, Repr

namespace Binary

/-- Take apart the 64 bits of a number: a sign, 11 bits of exponent, 52
bits of fraction. -/
def ofBits (bits : Nat) : Binary :=
  let negative := decide (Nat.pow 2 63 ≤ bits)
  let biased : Nat := bits / Nat.pow 2 52 % Nat.pow 2 11
  let fraction : Nat := bits % Nat.pow 2 52
  if biased = 2047 then
    if fraction = 0 then .infinite negative else .nan
  else if biased = 0 then
    if fraction = 0 then .zero negative
    else .finite negative ⟨fraction, -1074, false⟩
  else
    .finite negative ⟨Nat.pow 2 52 + fraction, (biased : Int) - 1075,
      fraction = 0 && biased ≠ 1⟩

/-- Take a number apart. -/
def ofFloat (x : Float) : Binary := ofBits x.toBits.toNat

end Binary
end ClassLowering
