import ClassLowering.Number.Binary

/-!
# Shortest decimals

A positive binary number stands for all reals that round to it: an interval that
reaches half-way to each neighbour and holds its ends exactly when the mantissa
is even. The shortest decimal of the number is a point of that interval on the
coarsest possible grid of multiples of a power of ten, and of two such points
the one nearer to the number. A tie goes to the larger point.

Everything is computed with natural numbers over one common denominator. The
search starts at a grid so coarse that it misses the interval and ends at a grid
that holds the number itself.
-/

namespace ClassLowering

/-- A decimal `digits * 10 ^ exponent`. -/
structure Decimal where
  digits : Nat
  exponent : Int
  deriving DecidableEq, Repr

/-- A number and the interval that rounds to it, as multiples of `1 /
denominator`. -/
structure RoundingInterval where
  low : Nat
  value : Nat
  high : Nat
  denominator : Nat
  /-- Whether the two ends round to the number too. -/
  closed : Bool
  deriving DecidableEq, Repr

namespace RoundingInterval

/-- The interval of the reals that round to a number. -/
def ofMagnitude (number : Magnitude) : RoundingInterval :=
  let scale := Nat.pow 2 (number.exponent - 2).toNat
  { low := (4 * number.mantissa - if number.narrowBelow then 1 else 2) * scale
    value := 4 * number.mantissa * scale
    high := (4 * number.mantissa + 2) * scale
    denominator := Nat.pow 2 (2 - number.exponent).toNat
    closed := number.mantissa % 2 = 0 }

/-- The factor that makes a multiple of `10 ^ power` a natural number over
the denominator. -/
def gridScale (power : Int) : Nat := Nat.pow 10 (-power).toNat

/-- The step of the grid of multiples of `10 ^ power`. -/
def gridStep (interval : RoundingInterval) (power : Int) : Nat :=
  interval.denominator * Nat.pow 10 power.toNat

/-- Whether `count * 10 ^ power` lies in the interval. -/
def holds (interval : RoundingInterval) (power : Int) (count : Nat) : Bool :=
  let point := count * interval.gridStep power
  let low := interval.low * gridScale power
  let high := interval.high * gridScale power
  if interval.closed then low ≤ point && point ≤ high
    else low < point && point < high

/-- The last grid point that is not above the number. -/
def floorCount (interval : RoundingInterval) (power : Int) : Nat :=
  interval.value * gridScale power / interval.gridStep power

/-- Whether the number is nearer to the grid point below it than to the one
above. -/
def nearerBelow (interval : RoundingInterval) (power : Int) : Bool :=
  2 * (interval.value * gridScale power % interval.gridStep power) <
    interval.gridStep power

/-- The grid point in the interval that is nearest to the number. -/
def nearest? (interval : RoundingInterval) (power : Int) : Option Nat :=
  let below := interval.floorCount power
  match interval.holds power below, interval.holds power (below + 1) with
  | true, true => some (if interval.nearerBelow power then below else below + 1)
  | true, false => some below
  | false, true => some (below + 1)
  | false, false => none

/-- The coarsest grid that may meet the interval. -/
def coarsestPower (interval : RoundingInterval) : Int :=
  if interval.denominator ≤ interval.high then
    (Nat.toDigits 10 (interval.high / interval.denominator)).length
  else
    1 - ((Nat.toDigits 10 (interval.denominator / interval.high)).length : Int)

/-- Look for a grid that meets the interval, from a power of ten downwards. -/
def search (interval : RoundingInterval) : Nat -> Int -> Decimal
  | 0, power => ⟨interval.floorCount power, power⟩
  | steps + 1, power =>
      match interval.nearest? power with
      | some count => ⟨count, power⟩
      | none => interval.search steps (power - 1)

end RoundingInterval

namespace Magnitude

/-- The decimal with the fewest digits that rounds to a number, nearest to
it among those. -/
def shortest (number : Magnitude) : Decimal :=
  let interval := RoundingInterval.ofMagnitude number
  let start := interval.coarsestPower
  interval.search (start + (2 - number.exponent).toNat).toNat start

end Magnitude
end ClassLowering
