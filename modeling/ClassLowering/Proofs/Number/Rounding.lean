import ClassLowering.Number.Binary
import Mathlib.Algebra.Order.Field.Rat
import Mathlib.Algebra.Order.Field.Power
import Mathlib.Tactic.Linarith
import Mathlib.Tactic.Ring
import Mathlib.Tactic.Zify
import Mathlib.Tactic.NormNum

/-!
# Rounding to the nearest binary number

A number of the format has 53 bits and a power of two that is not below `2 ^
-1074`. A rational rounds to the nearest such number, and from the middle
between two of them to the one with an even mantissa. No power is too great for
this: what is nearer to `2 ^ 1024` than to the greatest number of the format
does not round to it.

The rationals that round to a number reach half-way to its two neighbours,
and include the two ends just if the mantissa is even. No rational rounds
to two numbers.
-/

namespace ClassLowering

/-- A number that 53 bits and a power of two can hold, however great the power
is. -/
def IsRepresentable (x : ℚ) : Prop :=
  ∃ (mantissa : ℕ) (exponent : ℤ),
    mantissa < 2 ^ 53 ∧ -1074 ≤ exponent ∧ x = mantissa * 2 ^ exponent

namespace Magnitude

/-- The number that a magnitude stands for. -/
def value (number : Magnitude) : ℚ := number.mantissa * 2 ^ number.exponent

/-- A magnitude as the format writes it: only the least power has mantissas
below `2 ^ 52`. -/
structure IsBinary64 (number : Magnitude) : Prop where
  pos : 0 < number.mantissa
  lt : number.mantissa < 2 ^ 53
  le_exponent : -1074 ≤ number.exponent
  exponent_le : number.exponent ≤ 971
  normal : -1074 < number.exponent -> 2 ^ 52 ≤ number.mantissa
  narrowBelow_iff :
    number.narrowBelow = true ↔ number.mantissa = 2 ^ 52 ∧
      -1074 < number.exponent

/-- A rational rounds to the nearest number, in the middle of two to the
one that is even. -/
structure RoundsFrom (number : Magnitude) (x : ℚ) : Prop where
  nearest : ∀ other, IsRepresentable other -> |x - number.value| ≤ |x - other|
  even : ∀ other, IsRepresentable other -> other ≠ number.value ->
    |x - number.value| = |x - other| -> number.mantissa % 2 = 0

/-- The middle between a number and its lower neighbour. -/
def lowEnd (number : Magnitude) : ℚ :=
  (4 * number.mantissa - if number.narrowBelow then 1 else 2) * 2 ^
    (number.exponent - 2)

/-- The middle between a number and its upper neighbour. -/
def highEnd (number : Magnitude) : ℚ :=
  (4 * number.mantissa + 2) * 2 ^ (number.exponent - 2)

end Magnitude

section Distances

variable {x near far : ℚ}

/-- A point on the near side of the middle is nearer to the number below it. -/
theorem abs_sub_le_iff_of_lt (apart : near < far) :
    |x - near| ≤ |x - far| ↔ 2 * x ≤ near + far := by
  rw [← sq_le_sq]
  constructor
  · intro squares
    by_contra beyond
    nlinarith
  · intro before
    nlinarith

/-- A point on the near side of the middle is nearer to the number above it. -/
theorem abs_sub_le_iff_of_gt (apart : far < near) :
    |x - near| ≤ |x - far| ↔ near + far ≤ 2 * x := by
  rw [← sq_le_sq]
  constructor
  · intro squares
    by_contra beyond
    nlinarith
  · intro behind
    nlinarith

/-- Two different numbers are equally near to a point just if it is the
middle between them. -/
theorem abs_sub_eq_iff_of_ne (apart : near ≠ far) :
    |x - near| = |x - far| ↔ 2 * x = near + far := by
  rcases lt_or_gt_of_ne apart with below | above
  · rw [le_antisymm_iff, abs_sub_le_iff_of_lt below, abs_sub_le_iff_of_gt below,
      le_antisymm_iff]
    rw [add_comm far near]
  · rw [le_antisymm_iff, abs_sub_le_iff_of_gt above, abs_sub_le_iff_of_lt above,
      le_antisymm_iff, and_comm, add_comm far near]

end Distances

namespace Magnitude

variable {number other : Magnitude} {x y : ℚ}

/-- A power of two is four times the second one below it. -/
theorem four_mul_zpow
    (exponent : ℤ) :
    (4 : ℚ) * 2 ^ (exponent - 2) = 2 ^ exponent := by
  rw [zpow_sub₀ two_ne_zero]
  norm_num
  ring

/-- A power of two is twice the one below it. -/
theorem two_mul_zpow
    (exponent : ℤ) :
    (2 : ℚ) * 2 ^ (exponent - 1) = 2 ^ exponent := by
  rw [← zpow_one_add₀ two_ne_zero, add_sub_cancel]

/-- A number of the format is positive. -/
theorem IsBinary64.value_pos (is : number.IsBinary64) : 0 < number.value :=
  mul_pos (Nat.cast_pos.2 is.pos) (zpow_pos two_pos _)

/-- A number of the format is representable. -/
theorem IsBinary64.representable
    (is : number.IsBinary64) :
    IsRepresentable number.value :=
  ⟨number.mantissa, number.exponent, is.lt, is.le_exponent, rfl⟩

section Neighbours

/-- The upper neighbour is as far above the middle as the number is below it. -/
theorem upper_eq (number : Magnitude) :
    2 * number.highEnd - number.value = (number.mantissa + 1) * 2 ^
      number.exponent := by
  rw [highEnd, value, ← four_mul_zpow number.exponent]
  ring

/-- The lower neighbour of a number in the midst of its binade. -/
theorem lower_eq (wide : number.narrowBelow = false) :
    2 * number.lowEnd - number.value = (number.mantissa - 1) * 2 ^
      number.exponent := by
  rw [lowEnd, value, ← four_mul_zpow number.exponent, wide,
    if_neg Bool.false_ne_true]
  ring

/-- The lower neighbour of a number that starts its binade. -/
theorem lower_eq_of_narrow (narrow : number.narrowBelow = true) :
    2 * number.lowEnd - number.value =
      (2 * number.mantissa - 1) * 2 ^ (number.exponent - 1) := by
  have half := two_mul_zpow (number.exponent - 1)
  rw [sub_sub, one_add_one_eq_two] at half
  rw [lowEnd, value, ← four_mul_zpow number.exponent, ← half, if_pos narrow]
  ring

/-- A number is below the middle to its upper neighbour. -/
theorem value_lt_highEnd
    (number : Magnitude) :
    number.value < number.highEnd := by
  have unit := zpow_pos (two_pos (α := ℚ)) number.exponent
  have upper := upper_eq number
  rw [add_mul, ← value] at upper
  linarith

/-- A number is above the middle to its lower neighbour. -/
theorem lowEnd_lt_value
    (number : Magnitude) :
    number.lowEnd < number.value := by
  have unit := zpow_pos (two_pos (α := ℚ)) (number.exponent - 2)
  rw [lowEnd, value, ← four_mul_zpow number.exponent]
  split <;> linarith

/-- The next higher mantissa is representable, also where it starts
another binade. -/
theorem IsBinary64.representable_upper (is : number.IsBinary64) :
    IsRepresentable (2 * number.highEnd - number.value) := by
  rw [upper_eq]
  rcases Nat.lt_or_eq_of_le (Nat.succ_le_of_lt is.lt) with inside | last
  · exact ⟨number.mantissa + 1, number.exponent, inside,
      is.le_exponent, by push_cast; ring⟩
  · refine ⟨2 ^ 52, number.exponent +
      1, by norm_num, by linarith [is.le_exponent], ?_⟩
    have total : (number.mantissa : ℚ) + 1 = 2 ^ 53 := by exact_mod_cast last
    rw [total, zpow_add_one₀ two_ne_zero]
    push_cast
    ring

/-- The next lower mantissa is representable, also where it ends the binade
below. -/
theorem IsBinary64.representable_lower (is : number.IsBinary64) :
    IsRepresentable (2 * number.lowEnd - number.value) := by
  cases narrow : number.narrowBelow with
  | false =>
      rw [lower_eq narrow]
      refine ⟨number.mantissa - 1, number.exponent, ?_, is.le_exponent, ?_⟩
      · exact lt_of_le_of_lt (Nat.sub_le _ _) is.lt
      · rw [Nat.cast_pred is.pos]
  | true =>
      obtain ⟨first, above⟩ := is.narrowBelow_iff.1 narrow
      rw [lower_eq_of_narrow narrow, first]
      exact ⟨2 ^ 53 - 1, number.exponent -
        1, by norm_num, by omega, by norm_num⟩

/-- A mantissa of a lower power is one of a higher power. -/
theorem mul_zpow_of_le {low high : ℤ} (le : low ≤ high) (mantissa : ℕ) :
    (mantissa : ℚ) * 2 ^ high = (mantissa * 2 ^ (high - low).toNat : ℕ) *
      2 ^ low := by
  have steps : (2 : ℚ) ^ high = 2 ^ (high - low).toNat * 2 ^ low := by
    rw [← zpow_natCast, ← zpow_add₀ two_ne_zero, Int.toNat_sub_of_le le,
      sub_add_cancel]
  rw [steps]
  push_cast
  ring

/-- What 53 bits hold with a power is not above the last number of a binade
of that power. -/
theorem mul_zpow_le_last
    {mantissa : ℕ}
    {exponent last : ℤ}
    (small : mantissa < 2 ^ 53)
    (le : exponent ≤ last) :
    (mantissa : ℚ) * 2 ^ exponent ≤ (2 ^ 53 - 1) * 2 ^ last := by
  have bound : (mantissa : ℚ) ≤ 2 ^ 53 - 1 := by
    have cast : (mantissa : ℚ) + 1 ≤ 2 ^ 53 := by exact_mod_cast small
    linarith
  exact mul_le_mul bound (zpow_le_zpow_right₀ one_le_two le)
    (zpow_pos two_pos _).le (by norm_num)

/-- The last number of the binade below a normal number is below the number. -/
theorem IsBinary64.last_lt_value
    (is : number.IsBinary64)
    (above : -1074 < number.exponent) :
    (2 ^ 53 - 1) * 2 ^ (number.exponent - 1) < number.value := by
  have normal : (2 : ℚ) ^ 52 ≤ number.mantissa := by
    exact_mod_cast is.normal above
  have unit := zpow_pos (two_pos (α := ℚ)) (number.exponent - 1)
  rw [value, ← two_mul_zpow number.exponent]
  nlinarith

/-- No representable number lies between a number and its upper neighbour. -/
theorem IsBinary64.upper_le
    (is : number.IsBinary64)
    (representable : IsRepresentable y)
    (above : number.value < y) :
    2 * number.highEnd - number.value ≤ y := by
  obtain ⟨mantissa, exponent, small, least, rfl⟩ := representable
  have unit := zpow_pos (two_pos (α := ℚ)) number.exponent
  rcases lt_or_ge exponent number.exponent with lower | higher
  · have before := mul_zpow_le_last small (Int.le_sub_one_of_lt lower)
    have behind := is.last_lt_value (by omega)
    linarith
  · rw [upper_eq, mul_zpow_of_le higher]
    rw [value, mul_zpow_of_le higher] at above
    have next : number.mantissa < mantissa * 2 ^
        (exponent - number.exponent).toNat := by
      exact_mod_cast lt_of_mul_lt_mul_right above unit.le
    exact mul_le_mul_of_nonneg_right (by exact_mod_cast next) unit.le

/-- The next lower mantissa is not above the lower neighbour. -/
theorem pred_le_lower (number : Magnitude) :
    (number.mantissa - 1) * 2 ^ number.exponent ≤ 2 * number.lowEnd -
      number.value := by
  cases narrow : number.narrowBelow with
  | false => exact (lower_eq narrow).ge
  | true =>
      have unit := zpow_pos (two_pos (α := ℚ)) (number.exponent - 1)
      rw [lower_eq_of_narrow narrow, ← two_mul_zpow number.exponent]
      linarith

/-- No representable number lies between a number and its lower neighbour. -/
theorem IsBinary64.le_lower
    (is : number.IsBinary64)
    (representable : IsRepresentable y)
    (below : y < number.value) :
    y ≤ 2 * number.lowEnd - number.value := by
  obtain ⟨mantissa, exponent, small, least, rfl⟩ := representable
  have unit := zpow_pos (two_pos (α := ℚ)) number.exponent
  rcases lt_or_ge exponent number.exponent with lower | higher
  · refine (mul_zpow_le_last small (Int.le_sub_one_of_lt lower)).trans ?_
    cases narrow : number.narrowBelow with
    | true =>
        obtain ⟨first, -⟩ := is.narrowBelow_iff.1 narrow
        rw [lower_eq_of_narrow narrow, first]
        norm_num
    | false =>
        -- A number in the midst of its binade has the first number of the
        -- binade below it.
        have above : -1074 < number.exponent := by omega
        have midst : 2 ^ 52 < number.mantissa := by
          refine lt_of_le_of_ne (is.normal above) fun first => ?_
          exact Bool.false_ne_true
            (narrow ▸ is.narrowBelow_iff.2 ⟨first.symm, above⟩)
        have cast : (2 : ℚ) ^ 52 + 1 ≤ number.mantissa := by
          exact_mod_cast midst
        rw [lower_eq narrow, ← two_mul_zpow number.exponent]
        have half := zpow_pos (two_pos (α := ℚ)) (number.exponent - 1)
        nlinarith
  · refine le_trans ?_ (pred_le_lower number)
    rw [mul_zpow_of_le higher]
    rw [value, mul_zpow_of_le higher] at below
    have previous : mantissa * 2 ^ (exponent - number.exponent).toNat <
        number.mantissa := by
      exact_mod_cast lt_of_mul_lt_mul_right below unit.le
    refine mul_le_mul_of_nonneg_right ?_ unit.le
    have cast :
        ((mantissa * 2 ^ (exponent - number.exponent).toNat : ℕ) : ℚ) + 1 ≤
        number.mantissa := by
      exact_mod_cast previous
    linarith

end Neighbours

section Ends

/-- What rounds to a number is not beyond the middles to its neighbours, and on
one of them only if the mantissa is even. -/
theorem IsBinary64.roundsFrom_iff (is : number.IsBinary64) :
    number.RoundsFrom x ↔
      number.lowEnd ≤ x ∧ x ≤ number.highEnd ∧
        (x = number.lowEnd ∨ x = number.highEnd ->
          number.mantissa % 2 = 0) := by
  have lowEnd := lowEnd_lt_value number
  have highEnd := value_lt_highEnd number
  constructor
  · intro rounds
    have lower := rounds.nearest _ is.representable_lower
    have upper := rounds.nearest _ is.representable_upper
    rw [abs_sub_le_iff_of_gt (by linarith)] at lower
    rw [abs_sub_le_iff_of_lt (by linarith)] at upper
    refine ⟨by linarith, by linarith, ?_⟩
    rintro (rfl | rfl)
    · exact rounds.even _ is.representable_lower (by linarith)
        ((abs_sub_eq_iff_of_ne (by linarith)).2 (by ring))
    · exact rounds.even _ is.representable_upper (by linarith)
        ((abs_sub_eq_iff_of_ne (by linarith)).2 (by ring))
  · rintro ⟨low, high, onEnds⟩
    constructor
    · intro other representable
      rcases lt_trichotomy number.value other with above | rfl | below
      · have beyond := is.upper_le representable above
        exact (abs_sub_le_iff_of_lt above).2 (by linarith)
      · exact le_rfl
      · have beyond := is.le_lower representable below
        exact (abs_sub_le_iff_of_gt below).2 (by linarith)
    · intro other representable apart equal
      rw [abs_sub_eq_iff_of_ne apart.symm] at equal
      rcases lt_or_gt_of_ne apart with below | above
      · have beyond := is.le_lower representable below
        exact onEnds (.inl (by linarith))
      · have beyond := is.upper_le representable above
        exact onEnds (.inr (by linarith))

/-- A number rounds to itself. -/
theorem IsBinary64.roundsFrom_value
    (is : number.IsBinary64) :
    number.RoundsFrom number.value := by
  have lowEnd := lowEnd_lt_value number
  have highEnd := value_lt_highEnd number
  refine is.roundsFrom_iff.2 ⟨lowEnd.le, highEnd.le, ?_⟩
  rintro (same | same)
  · exact absurd same lowEnd.ne'
  · exact absurd same highEnd.ne

/-- What lies between two rationals that round to a number rounds to it. -/
theorem IsBinary64.roundsFrom_of_between
    (is : number.IsBinary64)
    {low high : ℚ}
    (fromLow : number.RoundsFrom low)
    (fromHigh : number.RoundsFrom high)
    (aboveLow : low ≤ x)
    (belowHigh : x ≤ high) :
    number.RoundsFrom x := by
  obtain ⟨lowIn, -, lowOnEnd⟩ := is.roundsFrom_iff.1 fromLow
  obtain ⟨-, highIn, highOnEnd⟩ := is.roundsFrom_iff.1 fromHigh
  refine is.roundsFrom_iff.2 ⟨lowIn.trans aboveLow, belowHigh.trans highIn, ?_⟩
  rintro (same | same)
  · exact lowOnEnd (.inl (le_antisymm (aboveLow.trans same.le) lowIn))
  · exact highOnEnd (.inr (le_antisymm highIn (same.ge.trans belowHigh)))

/-- What rounds to a number is positive. -/
theorem IsBinary64.pos_of_roundsFrom
    (is : number.IsBinary64)
    (rounds : number.RoundsFrom x) :
    0 < x := by
  have mantissa : (1 : ℚ) ≤ number.mantissa := by exact_mod_cast is.pos
  have unit := zpow_pos (two_pos (α := ℚ)) (number.exponent - 2)
  have low : 0 < number.lowEnd := by
    rw [lowEnd]
    split <;> nlinarith
  exact low.trans_le (is.roundsFrom_iff.1 rounds).1

end Ends

section Uniqueness

/-- A number with a lower power is less, since a higher power goes with a
full mantissa. -/
theorem IsBinary64.value_lt_of_exponent_lt
    (is : number.IsBinary64)
    (otherIs : other.IsBinary64)
    (lower : number.exponent < other.exponent) :
    number.value < other.value := by
  have before := mul_zpow_le_last is.lt (Int.le_sub_one_of_lt lower)
  have behind := otherIs.last_lt_value (lt_of_le_of_lt is.le_exponent lower)
  exact before.trans_lt behind

/-- Two numbers of the format with one value are written in the same way. -/
theorem IsBinary64.eq_of_value_eq
    (is : number.IsBinary64)
    (otherIs : other.IsBinary64)
    (same : number.value = other.value) :
    number = other := by
  have exponents : number.exponent = other.exponent :=
    le_antisymm (not_lt.1 fun lower =>
      (otherIs.value_lt_of_exponent_lt is lower).ne same.symm)
      (not_lt.1 fun lower => (is.value_lt_of_exponent_lt otherIs lower).ne same)
  have mantissas : number.mantissa = other.mantissa := by
    rw [value, value, exponents] at same
    exact_mod_cast mul_right_cancel₀ (zpow_pos two_pos _).ne' same
  have narrow : number.narrowBelow = other.narrowBelow := by
    rw [Bool.eq_iff_iff, is.narrowBelow_iff, otherIs.narrowBelow_iff,
      exponents, mantissas]
  cases number
  cases other
  congr

/-- The upper neighbour of a number with an even mantissa has an odd one. -/
theorem IsBinary64.odd_of_upper
    (is : number.IsBinary64)
    (otherIs : other.IsBinary64)
    (even : number.mantissa % 2 = 0)
    (upper : other.value = 2 * number.highEnd - number.value) :
    other.mantissa % 2 = 1 := by
  have small : number.mantissa + 1 < 2 ^ 53 := by
    have := is.lt
    omega
  -- The next mantissa never starts a binade whose lower neighbour is nearer.
  let next : Magnitude := ⟨number.mantissa + 1, number.exponent, false⟩
  have nextIs : next.IsBinary64 := by
    refine ⟨number.mantissa.succ_pos, small, is.le_exponent,
      is.exponent_le, ?_, ?_⟩
    · exact fun above => (is.normal above).trans (Nat.le_succ _)
    · refine iff_of_false Bool.false_ne_true ?_
      rintro ⟨first, above⟩
      have normal := is.normal above
      have start : number.mantissa + 1 = 2 ^ 52 := first
      omega
  have same : other = next := by
    refine otherIs.eq_of_value_eq nextIs ?_
    rw [upper, upper_eq, value, Nat.cast_add_one]
  rw [same]
  show (number.mantissa + 1) % 2 = 1
  omega

/-- The greater of two numbers is not rounded to from below what rounds
to the lesser. -/
theorem RoundsFrom.le_of_value_lt
    (rounds : number.RoundsFrom x)
    (otherRounds : other.RoundsFrom y)
    (representable : IsRepresentable number.value)
    (otherRepresentable : IsRepresentable other.value)
    (below : number.value < other.value) :
    x ≤ y := by
  have first := (abs_sub_le_iff_of_lt below).1
    (rounds.nearest _ otherRepresentable)
  have second := (abs_sub_le_iff_of_gt below).1
    (otherRounds.nearest _ representable)
  linarith

/-- No rational rounds to two numbers. -/
theorem IsBinary64.eq_of_roundsFrom
    (is : number.IsBinary64)
    (otherIs : other.IsBinary64)
    (rounds : number.RoundsFrom x)
    (otherRounds : other.RoundsFrom x) :
    number = other := by
  -- Two numbers that are equally near are neighbours, and only one of them is
  -- even.
  have notBelow : ∀ {left right : Magnitude}, left.IsBinary64 ->
      right.IsBinary64 ->
      left.RoundsFrom x -> right.RoundsFrom x ->
        ¬ left.value < right.value := by
    intro left right leftIs rightIs fromLeft fromRight below
    have equal : |x - left.value| = |x - right.value| :=
      le_antisymm (fromLeft.nearest _ rightIs.representable)
        (fromRight.nearest _ leftIs.representable)
    have leftEven := fromLeft.even _ rightIs.representable below.ne' equal
    have rightEven := fromRight.even _ leftIs.representable below.ne equal.symm
    have middle := (abs_sub_eq_iff_of_ne below.ne).1 equal
    have next := leftIs.upper_le rightIs.representable below
    have high := (leftIs.roundsFrom_iff.1 fromLeft).2.1
    have odd := leftIs.odd_of_upper rightIs leftEven (by linarith)
    omega
  exact is.eq_of_value_eq otherIs
    (le_antisymm (not_lt.1 (notBelow otherIs is otherRounds rounds))
      (not_lt.1 (notBelow is otherIs rounds otherRounds)))

/-- A rational that rounds to the lesser of two numbers is below all that round
to the greater. -/
theorem IsBinary64.lt_of_value_lt
    (is : number.IsBinary64)
    (otherIs : other.IsBinary64)
    (rounds : number.RoundsFrom x)
    (otherRounds : other.RoundsFrom y)
    (below : number.value < other.value) :
    x < y := by
  refine lt_of_le_of_ne (rounds.le_of_value_lt otherRounds is.representable
    otherIs.representable below) ?_
  rintro rfl
  exact below.ne
    (congrArg value (is.eq_of_roundsFrom otherIs rounds otherRounds))

end Uniqueness
section Range

/-- The least rational that is too great to round to a number of the format. -/
def leastInfinite : ℚ := (2 ^ 54 - 1) * 2 ^ (970 : ℤ)

/-- The greatest rational that is too small to round to another number than
zero. -/
def greatestZero : ℚ := 2 ^ (-1075 : ℤ)

/-- What rounds to a number of the format is not too great. -/
theorem IsBinary64.lt_leastInfinite
    (is : number.IsBinary64)
    (rounds : number.RoundsFrom x) :
    x < leastInfinite := by
  obtain ⟨-, high, onEnds⟩ := is.roundsFrom_iff.1 rounds
  have unit := zpow_pos (two_pos (α := ℚ)) 969
  have power : (2 : ℚ) ^ (number.exponent - 2) ≤ 2 ^ (969 : ℤ) :=
    zpow_le_zpow_right₀ one_le_two (by linarith [is.exponent_le])
  have limit : leastInfinite = (2 ^ 55 - 2) * 2 ^ (969 : ℤ) := by
    have half := two_mul_zpow 970
    rw [show (970 - 1 : ℤ) = 969 by norm_num] at half
    rw [leastInfinite, ← half, ← mul_assoc]
    norm_num
  rw [limit]
  rw [highEnd] at high onEnds
  generalize (2 : ℚ) ^ (969 : ℤ) = greatest at unit power
  have below : ∀ bound : ℚ, 4 * number.mantissa + 2 ≤ bound ->
      (4 * number.mantissa + 2) * 2 ^ (number.exponent - 2) ≤ bound *
        greatest := by
    intro bound le
    have positive : (0 : ℚ) ≤ number.mantissa := Nat.cast_nonneg _
    exact mul_le_mul le power (zpow_pos two_pos _).le (by linarith)
  have mantissa : (number.mantissa : ℚ) + 1 ≤ 2 ^ 53 := by exact_mod_cast is.lt
  rcases high.eq_or_lt with same | inside
  · -- An end that rounds has an even mantissa, and the greatest mantissa is
    -- odd.
    have even := onEnds (.inr same)
    have less : number.mantissa + 2 ≤ 2 ^ 53 := by
      have less := is.lt
      omega
    have cast : (number.mantissa : ℚ) + 2 ≤ 2 ^ 53 := by exact_mod_cast less
    have far := below (2 ^ 55 - 6) (by linarith)
    linarith
  · exact inside.trans_le (below _ (by linarith))

/-- What rounds to a number of the format is not too small. -/
theorem IsBinary64.greatestZero_lt
    (is : number.IsBinary64)
    (rounds : number.RoundsFrom x) :
    greatestZero < x := by
  obtain ⟨low, -, onEnds⟩ := is.roundsFrom_iff.1 rounds
  have unit := zpow_pos (two_pos (α := ℚ)) (-1076)
  have power : (2 : ℚ) ^ (-1076 : ℤ) ≤ 2 ^ (number.exponent - 2) :=
    zpow_le_zpow_right₀ one_le_two (by linarith [is.le_exponent])
  have limit : greatestZero = 2 * 2 ^ (-1076 : ℤ) := by
    rw [greatestZero, ← two_mul_zpow (-1075)]
    norm_num
  have above : ∀ bound : ℚ, 0 ≤ bound -> bound ≤ 4 * number.mantissa - 2 ->
      bound * 2 ^ (-1076 : ℤ) ≤ number.lowEnd := by
    intro bound positive le
    refine mul_le_mul ?_ power unit.le (by split <;> linarith)
    split <;> linarith
  have mantissa : (1 : ℚ) ≤ number.mantissa := by exact_mod_cast is.pos
  rw [limit]
  rcases low.eq_or_lt with same | inside
  · -- An end that rounds has an even mantissa, and the least mantissa is odd.
    have even := onEnds (.inl same.symm)
    have more : 2 ≤ number.mantissa := by
      have := is.pos
      omega
    have cast : (2 : ℚ) ≤ number.mantissa := by exact_mod_cast more
    have := above 6 (by norm_num) (by linarith)
    linarith
  · exact (above 2 (by norm_num) (by linarith)).trans_lt inside

/-- The limits are apart. -/
theorem greatestZero_lt_leastInfinite : greatestZero < leastInfinite := by
  have small : greatestZero < 1 := zpow_lt_one_of_neg₀ one_lt_two (by norm_num)
  have great : 1 ≤ (2 : ℚ) ^ (970 : ℤ) := one_le_zpow₀ one_le_two (by norm_num)
  rw [leastInfinite]
  generalize (2 : ℚ) ^ (970 : ℤ) = unit at great
  linarith

end Range
end Magnitude
end ClassLowering
