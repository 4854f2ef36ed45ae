import ClassLowering.Number.Text
import ClassLowering.Proofs.Number.Intervals
import Mathlib.Tactic.LinearCombination

/-!
# Shortest decimals are shortest

The search goes through ever finer grids, from one that is too coarse to one
that holds the number itself, and stops at the first grid with a point that
rounds to the number. A decimal with fewer digits would be a point of a coarser
grid, or there would be a power of ten between it and the decimal that was
found, which is a point of a coarser grid too.

For the same reason a decimal with as many digits is on the same grid, unless it
has only one. Then a single number is left, the second to smallest of the
format, whose decimal is nearer to it than all digits of the next finer grid.
-/

namespace ClassLowering

namespace Decimal

/-- How many digits a decimal has. -/
def digitCount (decimal : Decimal) : ℕ := decimal.digitChars.length

/-- A decimal has a digit. -/
theorem digitCount_pos
    (decimal : Decimal) :
    0 < decimal.digitCount := Nat.length_toDigits_pos

/-- The first digit counts the last power of ten that the digits reach. -/
theorem leadingPower_eq (decimal : Decimal) :
    decimal.leadingPower = decimal.exponent + decimal.digitCount - 1 := rfl

/-- A power of ten is a decimal with a single digit. -/
theorem value_one (power : ℤ) : value ⟨1, power⟩ = 10 ^ power := by
  rw [value, Nat.cast_one, one_mul]

/-- A decimal is below the power of ten behind that of its first digit. -/
theorem value_lt
    (decimal : Decimal) :
    decimal.value < 10 ^ (decimal.leadingPower + 1) := by
  have digits : decimal.digits < 10 ^ decimal.digitCount :=
    (Nat.length_toDigits_le_iff (by decide) decimal.digitCount_pos).1 le_rfl
  have unit := zpow_pos (a := (10 : ℚ)) (by norm_num) decimal.exponent
  rw [value, leadingPower_eq, sub_add_cancel, add_comm, zpow_add₀ (by norm_num),
    zpow_natCast]
  exact mul_lt_mul_of_pos_right (by exact_mod_cast digits) unit

/-- A decimal that is not zero is not below the power of ten that its
first digit counts. -/
theorem le_value {decimal : Decimal} (positive : 0 < decimal.digits) :
    10 ^ decimal.leadingPower ≤ decimal.value := by
  obtain ⟨further, counts⟩ := Nat.exists_eq_add_of_lt decimal.digitCount_pos
  rw [zero_add] at counts
  have digits : 10 ^ further ≤ decimal.digits := by
    rcases Nat.eq_zero_or_pos further with rfl | more
    · exact positive
    · refine not_lt.1 fun less => ?_
      have le : decimal.digitCount ≤ further :=
        (Nat.length_toDigits_le_iff (by decide) more).2 less
      omega
  have unit := zpow_pos (a := (10 : ℚ)) (by norm_num) decimal.exponent
  have leading : decimal.leadingPower = further + decimal.exponent := by
    rw [leadingPower_eq, counts]
    push_cast
    ring
  rw [leading, zpow_add₀ (by norm_num), zpow_natCast]
  exact mul_le_mul_of_nonneg_right (by exact_mod_cast digits) unit.le

/-- The first digit of a decimal that is not zero counts a power just if the
decimal reaches it. -/
theorem le_leadingPower_iff
    {decimal : Decimal}
    (positive : 0 < decimal.digits)
    (power : ℤ) :
    power ≤ decimal.leadingPower ↔ 10 ^ power ≤ decimal.value := by
  constructor
  · intro le
    exact (zpow_le_zpow_right₀ (by norm_num) le).trans (le_value positive)
  · intro reaches
    refine Int.le_of_lt_add_one
      ((zpow_lt_zpow_iff_right₀ (a := (10 : ℚ)) (by norm_num)).1 ?_)
    exact reaches.trans_lt decimal.value_lt

end Decimal

namespace Magnitude

/-- A decimal rounds to a number; none with fewer digits does, and none with as
many is nearer. -/
structure IsShortest (number : Magnitude) (decimal : Decimal) : Prop where
  rounds : number.RoundsFrom decimal.value
  fewest : ∀ other : Decimal, number.RoundsFrom other.value ->
    decimal.digitCount ≤ other.digitCount
  nearest : ∀ other : Decimal, number.RoundsFrom other.value ->
    other.digitCount = decimal.digitCount ->
      |decimal.value - number.value| ≤ |other.value - number.value|

/-- A decimal is nearest on its grid, and coarser grids have no point that
rounds to the number. -/
structure IsCoarsest (number : Magnitude) (decimal : Decimal) : Prop where
  rounds : number.RoundsFrom decimal.value
  nearest : ∀ other, number.RoundsFrom
    (Decimal.value ⟨other, decimal.exponent⟩) ->
    |decimal.value - number.value| ≤ |Decimal.value ⟨other, decimal.exponent⟩ -
      number.value|
  coarsest : ∀ count power, decimal.exponent < power ->
    ¬ number.RoundsFrom (Decimal.value ⟨count, power⟩)

end Magnitude

namespace RoundingInterval

open Magnitude

variable {number : Magnitude}

/-- The first grid is so coarse that its step reaches the upper end of the
interval. -/
theorem highEnd_le (number : Magnitude) :
    number.highEnd ≤ 10 ^ (ofMagnitude number).coarsestPower := by
  let interval := ofMagnitude number
  have denominator : (0 : ℚ) < interval.denominator :=
    Nat.cast_pos.2 (denominator_pos number)
  rw [← mul_le_mul_iff_of_pos_right denominator, ← high_eq, coarsestPower]
  split
  next reaches =>
    have whole : interval.high / interval.denominator < 10 ^
        (Nat.toDigits 10 (interval.high / interval.denominator)).length :=
      (Nat.length_toDigits_le_iff (by decide) Nat.length_toDigits_pos).1 le_rfl
    have high := (Nat.div_lt_iff_lt_mul (denominator_pos number)).1 whole
    rw [zpow_natCast]
    exact_mod_cast high.le
  next small =>
    have high : 0 < interval.high :=
      Nat.mul_pos (Nat.succ_pos _) (Nat.two_pow_pos _)
    let quotient : Decimal := ⟨interval.denominator / interval.high, 0⟩
    have whole : 10 ^ quotient.leadingPower ≤ quotient.value :=
      Decimal.le_value (Nat.div_pos (not_le.1 small).le high)
    have below : quotient.value * interval.high ≤ interval.denominator := by
      rw [Decimal.value, zpow_zero, mul_one]
      exact_mod_cast Nat.div_mul_le_self _ _
    have opposite : 1 - ((Nat.toDigits 10 quotient.digits).length : ℤ) =
        -quotient.leadingPower := by
      rw [Decimal.leadingPower, Decimal.digitChars]
      ring
    rw [opposite, zpow_neg, ← div_eq_inv_mul,
      le_div_iff₀' (zpow_pos (by norm_num) _)]
    exact (mul_le_mul_of_nonneg_right whole (Nat.cast_nonneg _)).trans below

/-- No grid that is coarser than the first has a point that rounds to the
number. -/
theorem coarser_misses (is : number.IsBinary64) :
    ∀ count power, (ofMagnitude number).coarsestPower < power ->
      ¬ number.RoundsFrom (Decimal.value ⟨count, power⟩) := by
  intro count power coarser rounds
  have high := (is.roundsFrom_iff.1 rounds).2.1
  have step : (10 : ℚ) ^ (ofMagnitude number).coarsestPower < 10 ^ power :=
    zpow_lt_zpow_right₀ (by norm_num) coarser
  have positive : 0 < count := by
    refine Nat.pos_of_ne_zero fun zero => ?_
    have nonzero := is.pos_of_roundsFrom rounds
    rw [Decimal.value, zero, Nat.cast_zero, zero_mul] at nonzero
    exact lt_irrefl _ nonzero
  have reaches := value_le_value power (Nat.succ_le_of_lt positive)
  rw [Decimal.value_one] at reaches
  linarith [highEnd_le number]

/-- The power of ten for which every number of some power of two is on the
grid. -/
def exactPower (number : Magnitude) : ℤ := -((2 - number.exponent).toNat : ℤ)

/-- A number is on a grid that is fine enough. -/
theorem value_eq_exact (number : Magnitude) :
    number.value = Decimal.value
      ⟨(ofMagnitude number).value * 5 ^ (2 - number.exponent).toNat,
        exactPower number⟩ := by
  have denominator : (ofMagnitude number).denominator = 2 ^
    (2 - number.exponent).toNat := rfl
  have ten : (10 : ℚ) ^ exactPower number * (2 ^ (2 - number.exponent).toNat *
      5 ^ (2 - number.exponent).toNat) = 1 := by
    rw [← mul_pow, exactPower, zpow_neg, zpow_natCast]
    norm_num
  rw [Decimal.value, Nat.cast_mul, value_eq, denominator]
  push_cast
  linear_combination (-number.value) * ten

/-- The first grid is coarser than one that holds the number. -/
theorem exactPower_lt (is : number.IsBinary64) :
    exactPower number < (ofMagnitude number).coarsestPower := by
  have exact := value_eq_exact number
  have positive := is.value_pos
  rw [exact] at positive
  have digits : 0 < (ofMagnitude number).value * 5 ^
      (2 - number.exponent).toNat := by
    refine Nat.pos_of_ne_zero fun zero => ?_
    rw [Decimal.value, zero, Nat.cast_zero, zero_mul] at positive
    exact lt_irrefl _ positive
  have reaches := value_le_value (exactPower number) (Nat.succ_le_of_lt digits)
  rw [Decimal.value_one, ← exact] at reaches
  refine (zpow_lt_zpow_iff_right₀ (a := (10 : ℚ)) (by norm_num)).1 ?_
  linarith [highEnd_le number, value_lt_highEnd number]

/-- A search that starts where coarser grids miss, and can go on to a grid that
holds the number, finds a nearest point of the coarsest grid that has one. -/
theorem isCoarsest_search
    (is : number.IsBinary64)
    (steps : ℕ)
    (power : ℤ)
    (misses : ∀ count coarser, power < coarser ->
      ¬ number.RoundsFrom (Decimal.value ⟨count, coarser⟩))
    (exact : ∃ count, number.value = Decimal.value ⟨count, power - steps⟩) :
    number.IsCoarsest ((ofMagnitude number).search steps power) := by
  induction steps generalizing power with
  | zero =>
      obtain ⟨count, same⟩ := exact
      rw [Nat.cast_zero, sub_zero] at same
      have unit := zpow_pos (a := (10 : ℚ)) (by norm_num) power
      have counted : (ofMagnitude number).floorCount power = count := by
        have floor := floor_le_value number power
        have ceiling := value_lt_ceiling number power
        rw [same, Decimal.value, Decimal.value,
          mul_le_mul_iff_of_pos_right unit, Nat.cast_le] at floor
        rw [same, Decimal.value, Decimal.value,
          mul_lt_mul_iff_of_pos_right unit, Nat.cast_lt] at ceiling
        dsimp only at floor ceiling
        omega
      have found : ((ofMagnitude number).search 0 power).value =
          number.value := by
        rw [search, counted, same]
      refine ⟨found ▸ is.roundsFrom_value, fun other _ => ?_, misses⟩
      rw [found, sub_self, abs_zero]
      exact abs_nonneg _
  | succ steps hypothesis =>
      have spec := nearest?_spec is power
      rw [search]
      split
      next count taken =>
        rw [taken] at spec
        exact ⟨spec.rounds, spec.nearest, misses⟩
      next none =>
        rw [none] at spec
        refine hypothesis (power - 1) ?_ ?_
        · intro count coarser above
          rcases (Int.le_of_sub_one_lt above).eq_or_lt with rfl | further
          · exact spec count
          · exact misses count coarser further
        · obtain ⟨count, same⟩ := exact
          refine ⟨count, same.trans ?_⟩
          rw [Nat.cast_add_one, add_comm (steps : ℤ), sub_add_eq_sub_sub]

end RoundingInterval

namespace Magnitude

variable {number other : Magnitude} {decimal : Decimal}

/-- The decimal of a number is nearest on the coarsest grid that has one. -/
theorem isCoarsest_shortest
    (is : number.IsBinary64) :
    number.IsCoarsest number.shortest := by
  refine RoundingInterval.isCoarsest_search is _ _
    (RoundingInterval.coarser_misses is) ?_
  have finer := RoundingInterval.exactPower_lt is
  have last : (RoundingInterval.ofMagnitude number).coarsestPower -
      ((RoundingInterval.ofMagnitude number).coarsestPower +
        ((2 - number.exponent).toNat : ℤ)).toNat =
          RoundingInterval.exactPower number := by
    rw [RoundingInterval.exactPower] at finer ⊢
    omega
  rw [last]
  exact ⟨_, RoundingInterval.value_eq_exact number⟩

/-- A decimal that rounds to a number is not zero. -/
theorem IsBinary64.digits_pos
    (is : number.IsBinary64)
    (rounds : number.RoundsFrom decimal.value) :
    0 < decimal.digits := by
  refine Nat.pos_of_ne_zero fun zero => ?_
  have positive := is.pos_of_roundsFrom rounds
  rw [Decimal.value, zero, Nat.cast_zero, zero_mul] at positive
  exact lt_irrefl _ positive

/-- No decimal that rounds to the number has a greater power than the
coarsest. -/
theorem IsCoarsest.exponent_le
    (coarsest : number.IsCoarsest decimal)
    {rival : Decimal}
    (rounds : number.RoundsFrom rival.value) :
    rival.exponent ≤ decimal.exponent :=
  not_lt.1 fun coarser =>
    coarsest.coarsest rival.digits rival.exponent coarser rounds

/-- A decimal that stays below the power of the first digit leaves the coarsest
only that digit. -/
theorem IsCoarsest.digitCount_eq_one
    (coarsest : number.IsCoarsest decimal)
    (is : number.IsBinary64)
    {rival : Decimal}
    (rounds : number.RoundsFrom rival.value)
    (below : rival.value ≤ 10 ^ decimal.leadingPower) :
    decimal.digitCount = 1 := by
  have between :
      number.RoundsFrom (Decimal.value ⟨1, decimal.leadingPower⟩) := by
    rw [Decimal.value_one]
    exact is.roundsFrom_of_between rounds coarsest.rounds below
      (Decimal.le_value (is.digits_pos coarsest.rounds))
  have le : decimal.leadingPower ≤ decimal.exponent :=
    coarsest.exponent_le between
  have positive := decimal.digitCount_pos
  rw [Decimal.leadingPower_eq] at le
  omega

/-- A decimal that ends before another one, counted from the point, stays below
its first digit. -/
theorem value_lt_leading
    {rival decimal : Decimal}
    (fewer : rival.exponent + rival.digitCount < decimal.exponent +
      decimal.digitCount) :
    rival.value < 10 ^ decimal.leadingPower := by
  refine rival.value_lt.trans_le (zpow_le_zpow_right₀ (by norm_num) ?_)
  rw [Decimal.leadingPower_eq, Decimal.leadingPower_eq]
  omega

section OneDigit

/-- An interval that holds a power of ten and a digit of the next finer grid is
around a number with a small mantissa. -/
theorem IsBinary64.mantissa_lt_ten
    (is : number.IsBinary64)
    {power : ℤ}
    {x : ℚ}
    (fromPower : number.RoundsFrom (10 ^ power))
    (rounds : number.RoundsFrom x)
    (digit : x ≤ 9 * 10 ^ (power - 1)) :
    number.mantissa < 10 := by
  have low := (is.roundsFrom_iff.1 rounds).1
  have high := (is.roundsFrom_iff.1 fromPower).2.1
  have ten : (10 : ℚ) * 10 ^ (power - 1) = 10 ^ power := by
    rw [← zpow_one_add₀ (by norm_num), add_sub_cancel]
  have quarter := zpow_pos (two_pos (α := ℚ)) (number.exponent - 2)
  have lowEnd : (4 * number.mantissa - 2) * 2 ^ (number.exponent - 2) ≤
      number.lowEnd := by
    refine mul_le_mul_of_nonneg_right ?_ quarter.le
    split <;> linarith
  rw [highEnd] at high
  -- The interval is one unit wide at most, and so is the step of the finer
  -- grid.
  have step : (10 : ℚ) ^ (power - 1) ≤ 4 * 2 ^ (number.exponent - 2) := by
    linarith
  have bound : (4 * number.mantissa - 2) * (2 : ℚ) ^ (number.exponent - 2) ≤
      36 * 2 ^ (number.exponent - 2) := by
    linarith
  have mantissa := le_of_mul_le_mul_right bound quarter
  have cast : (number.mantissa : ℚ) < 10 := by linarith
  exact_mod_cast cast

/-- The least number of the format between two multiples of a power of ten. -/
theorem least_bounds :
    (494 : ℚ) * 10 ^ (-324 : ℤ) ≤ 100 * 2 ^ (-1074 : ℤ) ∧
      (100 : ℚ) * 2 ^ (-1074 : ℤ) ≤ 495 * 10 ^ (-324 : ℤ) := by
  have bounds :
      (494 * 2 ^ 1074 ≤ 100 * 10 ^ 324 ∧ 100 * 10 ^ 324 ≤ 495 * 2 ^ 1074) ∧
      0 < 2 ^ 1074 ∧ 0 < 10 ^ 324 := by
    decide +kernel
  have ten : (10 : ℚ) ^ (-324 : ℤ) = ((10 ^ 324 : ℕ) : ℚ)⁻¹ := by
    rw [zpow_neg, Nat.cast_pow]
    rfl
  have two : (2 : ℚ) ^ (-1074 : ℤ) = ((2 ^ 1074 : ℕ) : ℚ)⁻¹ := by
    rw [zpow_neg, Nat.cast_pow]
    rfl
  rw [ten, two]
  generalize 2 ^ 1074 = twos, 10 ^ 324 = tens at bounds ⊢
  obtain ⟨⟨low, high⟩, twosPos, tensPos⟩ := bounds
  have twosCast : (0 : ℚ) < twos := Nat.cast_pos.2 twosPos
  have tensCast : (0 : ℚ) < tens := Nat.cast_pos.2 tensPos
  rw [← div_eq_mul_inv, ← div_eq_mul_inv, ← div_eq_mul_inv,
    div_le_div_iff₀ tensCast twosCast, div_le_div_iff₀ twosCast tensCast]
  exact ⟨by exact_mod_cast low, by exact_mod_cast high⟩

/-- Where a power of ten above a number rounds to it, no digit of the next finer
grid is nearer. -/
theorem IsBinary64.ten_zpow_nearest
    (is : number.IsBinary64)
    {power : ℤ}
    {x : ℚ}
    (fromPower : number.RoundsFrom (10 ^ power))
    (above : number.value < 10 ^ power)
    (rounds : number.RoundsFrom x)
    (digit : x ≤ 9 * 10 ^ (power - 1)) :
    |10 ^ power - number.value| ≤ |x - number.value| := by
  have small := is.mantissa_lt_ten fromPower rounds digit
  have high := (is.roundsFrom_iff.1 fromPower).2.1
  have least : number.exponent = -1074 := by
    refine le_antisymm (not_lt.1 fun normal => ?_) is.le_exponent
    have := is.normal normal
    omega
  obtain ⟨lower, upper⟩ := least_bounds
  have unitPos := zpow_pos (two_pos (α := ℚ)) (-1074)
  have stepPos := zpow_pos (a := (10 : ℚ)) (by norm_num) (-324)
  have onTwo : (10 : ℚ) ^ (-322 : ℤ) = 100 * 10 ^ (-324 : ℤ) := by
    rw [show (-322 : ℤ) = 2 + -324 by norm_num, zpow_add₀ (by norm_num)]
    rfl
  have onOne : (10 : ℚ) ^ (-323 : ℤ) = 10 * 10 ^ (-324 : ℤ) := by
    rw [show (-323 : ℤ) = 1 + -324 by
      norm_num, zpow_add₀ (by norm_num), zpow_one]
  rw [highEnd, least, show ((4 : ℚ) * number.mantissa + 2) * 2 ^
    (-1074 - 2 : ℤ) =
    (number.mantissa + 1 / 2) * (4 * 2 ^ (-1074 - 2 : ℤ)) by
      ring, four_mul_zpow, add_mul] at high
  rw [value, least] at above ⊢
  have mantissaPos : (1 : ℚ) ≤ number.mantissa := by exact_mod_cast is.pos
  have mantissaLe : (number.mantissa : ℚ) ≤ 9 := by
    exact_mod_cast Nat.le_of_lt_succ small
  have most := mul_le_mul_of_nonneg_right mantissaLe unitPos.le
  have some := mul_le_mul_of_nonneg_right mantissaPos unitPos.le
  -- There is only one power of ten so little above so small a number.
  have isPower : power = -323 := by
    have belowNext : (10 : ℚ) ^ power < 10 ^ (-322 : ℤ) := by linarith
    have aboveLast : (10 : ℚ) ^ (-324 : ℤ) < 10 ^ power := by linarith
    have less :=
      (zpow_lt_zpow_iff_right₀ (a := (10 : ℚ)) (by norm_num)).1 belowNext
    have more :=
      (zpow_lt_zpow_iff_right₀ (a := (10 : ℚ)) (by norm_num)).1 aboveLast
    omega
  subst isPower
  rw [show (-323 - 1 : ℤ) = -324 by norm_num] at digit
  have second : number.mantissa = 2 := by
    have notMore : ¬ 3 ≤ number.mantissa := by
      intro more
      have cast : (3 : ℚ) ≤ number.mantissa := by exact_mod_cast more
      linarith [mul_le_mul_of_nonneg_right cast unitPos.le]
    have notLess : ¬ number.mantissa ≤ 1 := by
      intro less
      have cast : (number.mantissa : ℚ) ≤ 1 := by exact_mod_cast less
      linarith [mul_le_mul_of_nonneg_right cast unitPos.le]
    omega
  rw [second, Nat.cast_ofNat] at above ⊢
  rw [abs_of_pos (by linarith), abs_of_neg (by linarith)]
  linarith

end OneDigit

/-- The nearest decimal of the coarsest grid is a shortest one, and
nearest among them. -/
theorem IsCoarsest.isShortest
    (coarsest : number.IsCoarsest decimal)
    (is : number.IsBinary64) :
    number.IsShortest decimal := by
  have positive := is.digits_pos coarsest.rounds
  refine ⟨coarsest.rounds, ?_, ?_⟩
  · intro rival rounds
    by_contra fewer
    have finer := coarsest.exponent_le rounds
    have below : rival.value < 10 ^ decimal.leadingPower :=
      value_lt_leading (by omega)
    have single := coarsest.digitCount_eq_one is rounds below.le
    have some := rival.digitCount_pos
    omega
  · intro rival rounds sameCount
    rcases (coarsest.exponent_le rounds).eq_or_lt with same | finer
    · have nearest := coarsest.nearest rival.digits
      rw [← same] at nearest
      exact nearest rounds
    · -- A decimal on a finer grid has a single digit, and stays below the
      -- power of ten.
      have below : rival.value < 10 ^ decimal.leadingPower :=
        value_lt_leading (by omega)
      have single := coarsest.digitCount_eq_one is rounds below.le
      have leading : decimal.leadingPower = decimal.exponent := by
        rw [Decimal.leadingPower_eq, single]
        ring
      have reaches := Decimal.le_value positive
      rw [leading] at reaches below
      have fromPower : number.RoundsFrom (10 ^ decimal.exponent) :=
        is.roundsFrom_of_between rounds coarsest.rounds below.le reaches
      have nearest := coarsest.nearest 1
      rw [Decimal.value_one] at nearest
      refine (nearest fromPower).trans ?_
      rcases lt_or_ge number.value (10 ^ decimal.exponent) with above | beyond
      · refine is.ten_zpow_nearest fromPower above rounds ?_
        have digit : rival.digits ≤ 9 := by
          have limit :=
            (Nat.length_toDigits_le_iff (b := 10)
              (n := rival.digits) (by decide)
              rival.digitCount_pos).1 le_rfl
          have one : (Nat.toDigits 10 rival.digits).length = 1 :=
            sameCount.trans single
          rw [Decimal.digitCount, Decimal.digitChars, one] at limit
          omega
        exact mul_le_mul (by exact_mod_cast digit)
          (zpow_le_zpow_right₀ (by norm_num) (Int.le_sub_one_of_lt finer))
          (zpow_pos (by norm_num) _).le (by norm_num)
      · rw [abs_of_nonpos (by linarith), abs_of_nonpos (by linarith)]
        linarith

/-- The decimal of a number reaches a power of ten just if the number reaches
the one that the power rounds to. -/
theorem IsCoarsest.ten_zpow_le_iff
    (coarsest : number.IsCoarsest decimal)
    (is : number.IsBinary64)
    {bound : Magnitude}
    (boundIs : bound.IsBinary64)
    {power : ℤ}
    (rounds : bound.RoundsFrom (10 ^ power)) :
    10 ^ power ≤ decimal.value ↔ bound.value ≤ number.value := by
  constructor
  · intro reaches
    by_contra below
    exact absurd (is.lt_of_value_lt boundIs coarsest.rounds rounds
      (not_le.1 below)) (not_lt.2 reaches)
  · intro reaches
    rcases reaches.eq_or_lt with same | above
    · -- The power of ten is on the grid, or a coarser one.
      obtain rfl := boundIs.eq_of_value_eq is same
      have onePower : bound.RoundsFrom (Decimal.value ⟨1, power⟩) := by
        rwa [Decimal.value_one]
      have onGrid : power ≤ decimal.exponent := coarsest.exponent_le onePower
      have positive := is.digits_pos coarsest.rounds
      refine (zpow_le_zpow_right₀ (by norm_num) onGrid).trans ?_
      refine le_mul_of_one_le_left (zpow_pos (by norm_num) _).le ?_
      exact_mod_cast positive
    · exact (boundIs.lt_of_value_lt is rounds coarsest.rounds above).le

end Magnitude
end ClassLowering
