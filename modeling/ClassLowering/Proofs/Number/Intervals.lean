import ClassLowering.Number.Shortest
import ClassLowering.Proofs.Number.Rounding

/-!
# Intervals and grids

The search for a shortest decimal computes with natural numbers over one
denominator. What it compares are rationals: the ends of the interval
that rounds to a number, the number, and the points of a grid of
multiples of a power of ten.

A grid point is held by the interval just if it rounds to the number. The
point that is taken is the nearest of those that do, and where none is
taken none does.
-/

namespace ClassLowering

/-- The number that a decimal stands for. -/
def Decimal.value (decimal : Decimal) : ℚ :=
  decimal.digits * 10 ^ decimal.exponent

namespace RoundingInterval

/-- A power with a negative exponent is undone by the opposite power. -/
theorem zpow_mul_pow_toNat_neg {base : ℚ} (nonzero : base ≠ 0) (exponent : ℤ) :
    base ^ exponent * base ^ (-exponent).toNat = base ^ exponent.toNat := by
  obtain ⟨steps, rfl | rfl⟩ := exponent.eq_nat_or_neg
  · simp
  · simp [nonzero]

section Ends

variable {number : Magnitude}

/-- The powers of two that make the ends of the interval natural numbers over
the denominator. -/
theorem scale_eq (number : Magnitude) :
    ((2 ^ (number.exponent - 2).toNat : ℕ) : ℚ) =
      2 ^ (number.exponent - 2) * (ofMagnitude number).denominator := by
  have split := zpow_mul_pow_toNat_neg (two_ne_zero : (2 : ℚ) ≠ 0)
    (number.exponent - 2)
  rw [neg_sub] at split
  push_cast
  rw [← split]
  exact congrArg _ (by norm_cast)

/-- The lower end of the interval is the middle to the lower neighbour. -/
theorem low_eq (positive : 0 < number.mantissa) :
    ((ofMagnitude number).low : ℚ) = number.lowEnd *
      (ofMagnitude number).denominator := by
  have narrow : (if number.narrowBelow then 1 else 2) ≤ 4 *
      number.mantissa := by
    split <;> omega
  have low : (ofMagnitude number).low =
      (4 * number.mantissa - if number.narrowBelow then 1 else 2) *
        2 ^ (number.exponent - 2).toNat := rfl
  rw [low, Nat.cast_mul, scale_eq, Nat.cast_sub narrow, Magnitude.lowEnd]
  push_cast
  ring

/-- The number lies in the interval where it should. -/
theorem value_eq (number : Magnitude) :
    ((ofMagnitude number).value : ℚ) = number.value *
      (ofMagnitude number).denominator := by
  have value : (ofMagnitude number).value =
      4 * number.mantissa * 2 ^ (number.exponent - 2).toNat := rfl
  rw [value, Nat.cast_mul, scale_eq,
    Magnitude.value, ← Magnitude.four_mul_zpow number.exponent]
  push_cast
  ring

/-- The upper end of the interval is the middle to the upper neighbour. -/
theorem high_eq (number : Magnitude) :
    ((ofMagnitude number).high : ℚ) = number.highEnd *
      (ofMagnitude number).denominator := by
  have high : (ofMagnitude number).high =
      (4 * number.mantissa + 2) * 2 ^ (number.exponent - 2).toNat := rfl
  rw [high, Nat.cast_mul, scale_eq, Magnitude.highEnd]
  push_cast
  ring

/-- The denominator is a power of two. -/
theorem denominator_pos
    (number : Magnitude) :
    0 < (ofMagnitude number).denominator :=
  Nat.two_pow_pos _

end Ends

section Grid

variable {interval : RoundingInterval} {power : ℤ} {place : ℕ} {x : ℚ}

/-- What the natural numbers that are compared count. -/
def unit (interval : RoundingInterval) (power : ℤ) : ℚ :=
  interval.denominator * gridScale power

/-- The unit is positive. -/
theorem unit_pos
    (positive : 0 < interval.denominator)
    (power : ℤ) :
    0 < interval.unit power :=
  mul_pos (Nat.cast_pos.2 positive) (Nat.cast_pos.2 (Nat.pow_pos (by decide)))

/-- A place of the interval in units. -/
theorem place_mul_gridScale
    (same : (place : ℚ) = x * interval.denominator)
    (power : ℤ) :
    ((place * gridScale power : ℕ) : ℚ) = x * interval.unit power := by
  rw [Nat.cast_mul, same, unit]
  ring

/-- A grid point in units. -/
theorem count_mul_gridStep
    (interval : RoundingInterval)
    (power : ℤ)
    (count : ℕ) :
    ((count * interval.gridStep power : ℕ) : ℚ) = count * 10 ^ power *
      interval.unit power := by
  have split := zpow_mul_pow_toNat_neg (by norm_num : (10 : ℚ) ≠ 0) power
  have step : interval.gridStep power = interval.denominator * 10 ^
    power.toNat := rfl
  have scale : gridScale power = 10 ^ (-power).toNat := rfl
  rw [step, unit, scale]
  push_cast
  rw [← split]
  ring

/-- A place of the interval is not above a grid point just if its
rational is not. -/
theorem place_le_point_iff
    (positive : 0 < interval.denominator)
    (same : (place : ℚ) = x * interval.denominator)
    (power : ℤ)
    (count : ℕ) :
    place * gridScale power ≤ count * interval.gridStep power ↔
      x ≤ count * 10 ^ power := by
  rw [← Nat.cast_le (α := ℚ), place_mul_gridScale same, count_mul_gridStep,
    mul_le_mul_iff_of_pos_right (unit_pos positive power)]

/-- A grid point is not above a place of the interval just if its
rational is not. -/
theorem point_le_place_iff
    (positive : 0 < interval.denominator)
    (same : (place : ℚ) = x * interval.denominator)
    (power : ℤ)
    (count : ℕ) :
    count * interval.gridStep power ≤ place * gridScale power ↔
      count * 10 ^ power ≤ x := by
  rw [← Nat.cast_le (α := ℚ), place_mul_gridScale same, count_mul_gridStep,
    mul_le_mul_iff_of_pos_right (unit_pos positive power)]

/-- The step of a grid is positive. -/
theorem gridStep_pos (positive : 0 < interval.denominator) (power : ℤ) :
    0 < interval.gridStep power :=
  Nat.mul_pos positive (Nat.pow_pos (by decide))

end Grid

section Points

variable {number : Magnitude}

/-- Points are in the order of their counts. -/
theorem value_le_value (power : ℤ) {count other : ℕ} (le : count ≤ other) :
    Decimal.value ⟨count, power⟩ ≤ Decimal.value ⟨other, power⟩ :=
  mul_le_mul_of_nonneg_right (Nat.cast_le.2 le) (zpow_pos (by norm_num) _).le

/-- The interval holds a grid point just if the point rounds to the number. -/
theorem holds_iff (is : number.IsBinary64) (power : ℤ) (count : ℕ) :
    (ofMagnitude number).holds power count = true ↔
      number.RoundsFrom (Decimal.value ⟨count, power⟩) := by
  have positive := denominator_pos number
  have low := place_le_point_iff positive (low_eq is.pos) power count
  have high := point_le_place_iff positive (high_eq number) power count
  have belowLow := point_le_place_iff positive (low_eq is.pos) power count
  have aboveHigh := place_le_point_iff positive (high_eq number) power count
  have parity : (ofMagnitude number).closed =
    decide (number.mantissa % 2 = 0) := rfl
  rw [is.roundsFrom_iff, holds, Decimal.value, parity]
  by_cases even : number.mantissa % 2 = 0
  · simp only [even, decide_true, if_true, Bool.and_eq_true,
      decide_eq_true_eq, low, high, implies_true, and_true]
  · simp only [even, decide_false, Bool.false_eq_true, if_false,
      Bool.and_eq_true, decide_eq_true_eq, ← not_le, belowLow, aboveHigh]
    constructor
    · rintro ⟨above, below⟩
      refine ⟨(not_le.1 above).le, (not_le.1 below).le, ?_⟩
      rintro (same | same)
      · exact absurd same.le above
      · exact absurd same.ge below
    · rintro ⟨above, below, onEnds⟩
      exact ⟨fun le => onEnds (.inl (le_antisymm le above)),
        fun ge => onEnds (.inr (le_antisymm below ge))⟩

/-- The point that is counted down to is the last one that is not above the
number. -/
theorem floor_le_value (number : Magnitude) (power : ℤ) :
    Decimal.value ⟨(ofMagnitude number).floorCount power, power⟩ ≤
      number.value :=
  (point_le_place_iff (denominator_pos number) (value_eq number) power _).1
    (Nat.div_mul_le_self _ _)

/-- The next point is above the number. -/
theorem value_lt_ceiling (number : Magnitude) (power : ℤ) :
    number.value < Decimal.value
      ⟨(ofMagnitude number).floorCount power + 1, power⟩ := by
  have positive := denominator_pos number
  refine not_le.1
    (mt (point_le_place_iff positive (value_eq number) power _).2 (not_le.2 ?_))
  rw [mul_comm (_ + 1)]
  exact Nat.lt_mul_div_succ _ (gridStep_pos positive power)

/-- Whether the point below the number is nearer to it than the point above. -/
theorem nearerBelow_iff (number : Magnitude) (power : ℤ) :
    let below := (ofMagnitude number).floorCount power
    (ofMagnitude number).nearerBelow power = true ↔
      2 * number.value < Decimal.value ⟨below, power⟩ +
        Decimal.value ⟨below + 1, power⟩ := by
  intro below
  have positive := denominator_pos number
  let interval := ofMagnitude number
  let value := interval.value * gridScale power
  let step := interval.gridStep power
  have split : step * below + value % step = value := Nat.div_add_mod _ _
  have sides : 2 * (value % step) < step ↔
      2 * value < (2 * below + 1) * step := by
    constructor <;> intro less <;> nlinarith
  rw [nearerBelow, decide_eq_true_eq, sides, ← Nat.cast_lt (α := ℚ),
    Nat.cast_mul, place_mul_gridScale (value_eq number), count_mul_gridStep,
    ← mul_assoc, mul_lt_mul_iff_of_pos_right (unit_pos positive power),
    Decimal.value, Decimal.value]
  push_cast
  rw [show ((2 * below + 1 : ℚ) * 10 ^ power) = below * 10 ^ power +
      (below + 1) * 10 ^ power by
    ring]

/-- A point is nearest if it rounds to a number, and no point of its grid that
does is nearer. -/
structure IsNearest (number : Magnitude) (power : ℤ) (count : ℕ) : Prop where
  rounds : number.RoundsFrom (Decimal.value ⟨count, power⟩)
  nearest : ∀ other, number.RoundsFrom (Decimal.value ⟨other, power⟩) ->
    |Decimal.value ⟨count, power⟩ - number.value| ≤
      |Decimal.value ⟨other, power⟩ - number.value|

/-- If a point of a grid rounds to a number, so does the one of the two points
around the number that is on its side, and it is not farther from the number. -/
theorem rounds_around
    (is : number.IsBinary64)
    {power : ℤ}
    {count : ℕ}
    (rounds : number.RoundsFrom (Decimal.value ⟨count, power⟩)) :
    ∃ near, (near = (ofMagnitude number).floorCount power ∨
        near = (ofMagnitude number).floorCount power + 1) ∧
      number.RoundsFrom (Decimal.value ⟨near, power⟩) ∧
        |Decimal.value ⟨near, power⟩ - number.value| ≤
          |Decimal.value ⟨count, power⟩ - number.value| := by
  have floor := floor_le_value number power
  have ceiling := value_lt_ceiling number power
  rcases Nat.lt_or_ge ((ofMagnitude number).floorCount power) count
    with above | atMost
  · have order := value_le_value power (Nat.succ_le_of_lt above)
    refine ⟨_, .inr rfl, is.roundsFrom_of_between is.roundsFrom_value rounds
      ceiling.le order, ?_⟩
    rw [abs_of_nonneg (by linarith), abs_of_nonneg (by linarith)]
    linarith
  · have order := value_le_value power atMost
    refine ⟨_, .inl rfl, is.roundsFrom_of_between rounds is.roundsFrom_value
      order floor, ?_⟩
    rw [abs_of_nonpos (by linarith), abs_of_nonpos (by linarith)]
    linarith

/-- A point is nearest if it is not farther than those of the two around the
number that round. -/
theorem isNearest_of_around
    (is : number.IsBinary64)
    {power : ℤ}
    {count : ℕ}
    (rounds : number.RoundsFrom (Decimal.value ⟨count, power⟩))
    (around : ∀ near, near = (ofMagnitude number).floorCount power ∨
        near = (ofMagnitude number).floorCount power + 1 ->
      number.RoundsFrom (Decimal.value ⟨near, power⟩) ->
        |Decimal.value ⟨count, power⟩ - number.value| ≤
          |Decimal.value ⟨near, power⟩ - number.value|) :
    IsNearest number power count := by
  refine ⟨rounds, fun other otherRounds => ?_⟩
  obtain ⟨near, isAround, nearRounds, le⟩ := rounds_around is otherRounds
  exact (around near isAround nearRounds).trans le

/-- The point that is taken from a grid is the nearest, and one is taken if
any point rounds. -/
theorem nearest?_spec (is : number.IsBinary64) (power : ℤ) :
    match (ofMagnitude number).nearest? power with
    | some count => IsNearest number power count
    | none => ∀ count, ¬ number.RoundsFrom (Decimal.value ⟨count, power⟩) := by
  have floor := floor_le_value number power
  have ceiling := value_lt_ceiling number power
  have below := holds_iff is power ((ofMagnitude number).floorCount power)
  have above := holds_iff is power ((ofMagnitude number).floorCount power + 1)
  rw [nearest?]
  cases holdsBelow : (ofMagnitude number).holds power
      ((ofMagnitude number).floorCount power) <;>
    cases holdsAbove : (ofMagnitude number).holds power
      ((ofMagnitude number).floorCount power + 1) <;>
    simp only [holdsBelow, holdsAbove, Bool.false_eq_true, false_iff,
      true_iff] at below above ⊢
  case false.false =>
    intro count rounds
    obtain ⟨near, rfl | rfl, nearRounds, -⟩ := rounds_around is rounds
    · exact below nearRounds
    · exact above nearRounds
  case false.true =>
    refine isNearest_of_around is above ?_
    rintro near (rfl | rfl) nearRounds
    · exact absurd nearRounds below
    · exact le_rfl
  case true.false =>
    refine isNearest_of_around is below ?_
    rintro near (rfl | rfl) nearRounds
    · exact le_rfl
    · exact absurd nearRounds above
  case true.true =>
    have nearer := nearerBelow_iff number power
    dsimp only at nearer
    split
    next isNearer =>
      rw [nearer] at isNearer
      refine isNearest_of_around is below ?_
      rintro near (rfl | rfl) -
      · exact le_rfl
      · rw [abs_of_nonpos (by linarith), abs_of_nonneg (by linarith)]
        linarith
    next notNearer =>
      rw [nearer, not_lt] at notNearer
      refine isNearest_of_around is above ?_
      rintro near (rfl | rfl) -
      · rw [abs_of_nonneg (by linarith), abs_of_nonpos (by linarith)]
        linarith
      · exact le_rfl

end Points

end RoundingInterval
end ClassLowering
