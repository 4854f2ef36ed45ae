import ClassLowering.Proofs.Number.Rounding
import Mathlib

/-!
# Numbers and their parts

A number is taken apart from its bits. The comparisons of numbers are told by
their model, which takes them apart in its own way: the two ways agree, and all
parts are those of a number of the format.

So two numbers are equal just if their parts are, up to the sign of a zero, and
magnitudes are compared as the rationals that they stand for.
-/

namespace ClassLowering

open Float.Model

section Fields

variable (bits : BitVec 64)

/-- The biased exponent of the bits. -/
theorem toNat_unpackExponent :
    (@UnpackedFloat.unpackExponent Format.binary64 bits).toNat =
      bits.toNat / 2 ^ 52 % 2 ^ 11 := by
  simp [UnpackedFloat.unpackExponent, BitVec.extractLsb, BitVec.extractLsb',
    Nat.shiftRight_eq_div_pow]

/-- The fraction of the bits. -/
theorem toNat_unpackMantissa :
    (@UnpackedFloat.unpackMantissa Format.binary64 bits).toNat = bits.toNat %
      2 ^ 52 := by
  simp [UnpackedFloat.unpackMantissa, BitVec.extractLsb, BitVec.extractLsb',
    Nat.shiftRight_eq_div_pow]

/-- The sign of the bits. -/
theorem toNat_unpackSign :
    (@UnpackedFloat.unpackSign Format.binary64 bits).toNat = bits.toNat /
      2 ^ 63 := by
  have limit := bits.isLt
  simp [UnpackedFloat.unpackSign, BitVec.extractLsb, BitVec.extractLsb',
    Nat.shiftRight_eq_div_pow]
  omega

/-- The leading bit of a mantissa adds its power to the fraction. -/
theorem toNat_one_append (fraction : BitVec 52) :
    (1#1 ++ fraction).toNat = 2 ^ 52 + fraction.toNat := by
  rw [BitVec.toNat_append, ← Nat.shiftLeft_add_eq_or_of_lt fraction.isLt]
  rfl

end Fields

/-- Two numbers are equal, or neither of them is a number. -/
def SameNumber (x y : Float) : Prop :=
  (x == y) = true ∨ x.isNaN = true ∧ y.isNaN = true

namespace Binary

/-- Whether a sign is negative. -/
def isNegative : UnpackedFloat.Sign -> Bool
  | .negative => true
  | .positive => false

/-- The cases of a number as its model has them. -/
def ofUnpacked : UnpackedFloat -> Binary
  | .notANumber => .nan
  | .infinity sign => .infinite (isNegative sign)
  | .zero sign => .zero (isNegative sign)
  | .finite sign mantissa exponent _ =>
      .finite (isNegative sign)
        ⟨mantissa, exponent, mantissa = 2 ^ 52 && -1074 < exponent⟩

/-- The sign bit says whether a number is negative. -/
theorem isNegative_ofBitVec (bits : BitVec 64) :
    isNegative (.ofBitVec (@UnpackedFloat.unpackSign Format.binary64 bits)) =
      decide (2 ^ 63 ≤ bits.toNat) := by
  have field := toNat_unpackSign bits
  by_cases positive : @UnpackedFloat.unpackSign Format.binary64 bits = 0#1
  · rw [positive, BitVec.toNat_zero] at field
    have small : ¬ 2 ^ 63 ≤ bits.toNat := by omega
    rw [UnpackedFloat.Sign.ofBitVec, if_pos positive, decide_eq_false small]
    rfl
  · have great : 2 ^ 63 ≤ bits.toNat := by
      rw [← BitVec.toNat_inj, BitVec.toNat_zero] at positive
      omega
    rw [UnpackedFloat.Sign.ofBitVec, if_neg positive, decide_eq_true great]
    rfl

/-- The model takes bits apart in the same way. -/
theorem ofBits_eq (bits : BitVec 64) :
    ofBits bits.toNat = ofUnpacked
      (UnpackedFloat.unpack Format.binary64 bits) := by
  have biased := toNat_unpackExponent bits
  have fraction := toNat_unpackMantissa bits
  have negative := isNegative_ofBitVec bits
  have allOnes : @UnpackedFloat.unpackExponent Format.binary64 bits = -1#11 ↔
      bits.toNat / 2 ^ 52 % 2 ^ 11 = 2047 := by
    rw [← BitVec.toNat_inj, biased]
    rfl
  have noOnes : @UnpackedFloat.unpackExponent Format.binary64 bits = 0#11 ↔
      bits.toNat / 2 ^ 52 % 2 ^ 11 = 0 := by
    rw [← BitVec.toNat_inj, biased]
    rfl
  have noFraction : @UnpackedFloat.unpackMantissa Format.binary64 bits = 0#52 ↔
      bits.toNat % 2 ^ 52 = 0 := by
    rw [← BitVec.toNat_inj, fraction]
    rfl
  have bias : Format.binary64.exponentBias = 1023 := rfl
  have less : bits.toNat % 2 ^ 52 < 2 ^ 52 := Nat.mod_lt _ (Nat.two_pow_pos _)
  rw [UnpackedFloat.unpack, ofBits]
  simp only [allOnes, noOnes, noFraction, Nat.pow_eq]
  by_cases special : bits.toNat / 2 ^ 52 % 2 ^ 11 = 2047
  · rw [if_pos special, if_pos special]
    split
    · exact congrArg infinite negative.symm
    · rfl
  rw [if_neg special, if_neg special]
  by_cases subnormal : bits.toNat / 2 ^ 52 % 2 ^ 11 = 0
  · rw [if_pos subnormal, if_pos subnormal]
    split
    · exact congrArg zero negative.symm
    · rw [ofUnpacked, negative, biased, fraction, subnormal, bias,
        decide_eq_false less.ne]
      rfl
  · have first : 2 ^ 52 + bits.toNat % 2 ^ 52 = 2 ^ 52 ↔
      bits.toNat % 2 ^ 52 = 0 := by omega
    have above : -1074 < ((bits.toNat / 2 ^ 52 % 2 ^ 11 : ℕ) : ℤ) -
        ((1023 : ℕ) + (52 : ℕ)) ↔ bits.toNat / 2 ^ 52 % 2 ^ 11 ≠ 1 := by
      omega
    rw [if_neg subnormal, if_neg subnormal, ofUnpacked, negative, biased,
      toNat_one_append, fraction, bias]
    simp only [first, above]
    rfl

/-- A number has the parts that its model has. -/
theorem ofFloat_eq (x : Float) : ofFloat x = ofUnpacked x.toModel.unpack :=
  ofBits_eq x.toModel.toBits.toBitVec

/-- The parts of a number, with its magnitude as the format writes it. -/
def IsBinary64 : Binary -> Prop
  | .finite _ magnitude => magnitude.IsBinary64
  | _ => True

/-- Bits have the parts of a number of the format. -/
theorem isBinary64_ofBits (bits : ℕ) : (ofBits bits).IsBinary64 := by
  have fraction : bits % 2 ^ 52 < 2 ^ 52 := Nat.mod_lt _ (Nat.two_pow_pos _)
  have biased : bits / 2 ^ 52 % 2 ^ 11 < 2 ^ 11 :=
    Nat.mod_lt _ (Nat.two_pow_pos _)
  rw [ofBits]
  simp only [Nat.pow_eq]
  split
  · split <;> trivial
  next finite =>
    split
    · split
      · trivial
      next nonzero =>
        exact
          { pos := Nat.pos_of_ne_zero nonzero
            lt := by dsimp only; omega
            le_exponent := le_rfl
            exponent_le := by dsimp only; omega
            normal := fun above => absurd above (lt_irrefl _)
            narrowBelow_iff := by simp }
    next normal =>
      constructor <;> dsimp only
      case narrowBelow_iff =>
        rw [Bool.and_eq_true, decide_eq_true_eq, decide_eq_true_eq]
        omega
      all_goals omega

/-- The parts of a number are those of a number of the format. -/
theorem isBinary64_ofFloat
    (x : Float) :
    (ofFloat x).IsBinary64 := isBinary64_ofBits _

/-- The magnitude of a number is as the format writes it. -/
theorem isBinary64_of_ofFloat
    {x : Float}
    {negative : Bool}
    {magnitude : Magnitude}
    (parts : ofFloat x = .finite negative magnitude) :
    magnitude.IsBinary64 := by
  have is := isBinary64_ofFloat x
  rwa [parts] at is

/-- A number with the sign of a zero left out. -/
def unsignedZero : Binary -> Binary
  | .zero _ => .zero false
  | other => other

section Comparisons

/-- The model holds two numbers for equal just if their parts are, up to the
sign of a zero. -/
theorem beq_unpacked_iff (left right : UnpackedFloat) :
    left.beq right = true ↔
      (ofUnpacked left).unsignedZero = (ofUnpacked right).unsignedZero ∧
        ofUnpacked left ≠ .nan := by
  rw [UnpackedFloat.beq_iff_ne_notANumber_and_eq]
  rcases left with (_ | _) | _ | (_ | _) | ⟨_ | _, mantissa, exponent, _⟩ <;>
    rcases right with (_ | _) | _ | (_ | _) | ⟨_ | _, otherMantissa,
      otherExponent, _⟩ <;>
    simp [ofUnpacked, unsignedZero, isNegative]
  all_goals
    rintro rfl rfl
    rfl

/-- The model knows what is not a number. -/
theorem isNaN_unpacked_iff (unpacked : UnpackedFloat) :
    unpacked.isNaN = true ↔ ofUnpacked unpacked = .nan := by
  rw [UnpackedFloat.isNaN_iff]
  cases unpacked <;> simp [ofUnpacked]

/-- Two numbers are the same just if their parts are, up to the sign of a
zero. -/
theorem sameNumber_iff (x y : Float) :
    SameNumber x y ↔ (ofFloat x).unsignedZero = (ofFloat y).unsignedZero := by
  have equal : (x == y) = true ↔ _ :=
    beq_unpacked_iff x.toModel.unpack y.toModel.unpack
  have leftNaN : x.isNaN = true ↔ _ := isNaN_unpacked_iff x.toModel.unpack
  have rightNaN : y.isNaN = true ↔ _ := isNaN_unpacked_iff y.toModel.unpack
  rw [SameNumber, equal, leftNaN, rightNaN, ← ofFloat_eq, ← ofFloat_eq]
  cases ofFloat x <;> cases ofFloat y <;> simp [unsignedZero]

end Comparisons
end Binary

namespace Magnitude

/-- Numbers of the format are compared by their powers first, and then by
their mantissas. -/
theorem compare_eq
    {left right : Magnitude}
    (leftIs : left.IsBinary64)
    (rightIs : right.IsBinary64) :
    (compare left.exponent right.exponent).then
      (compare left.mantissa right.mantissa) =
      compare left.value right.value := by
  rcases lt_trichotomy left.exponent right.exponent with lower | same | higher
  · rw [compare_lt_iff_lt.2 lower,
      compare_lt_iff_lt.2 (leftIs.value_lt_of_exponent_lt rightIs lower)]
    rfl
  · have unit := zpow_pos (two_pos (α := ℚ)) right.exponent
    have monotone : StrictMono fun mantissa : ℕ =>
        (mantissa : ℚ) * 2 ^ right.exponent :=
      fun less more apart => mul_lt_mul_of_pos_right (Nat.cast_lt.2 apart) unit
    rw [compare_eq_iff_eq.2 same, value, value,
      same, ← cmp_eq_compare, ← cmp_eq_compare]
    exact (monotone.cmp_map_eq _ _).symm
  · rw [compare_gt_iff_gt.2 higher,
      compare_gt_iff_gt.2 (rightIs.value_lt_of_exponent_lt leftIs higher)]
    rfl

end Magnitude

namespace Binary

section Absolute

/-- Bits without a sign are a biased exponent before a fraction. -/
theorem toNat_packComponents (biased : BitVec 11) (fraction : BitVec 52) :
    (UnpackedFloat.packComponents .binary64 .positive biased fraction).toNat =
      biased.toNat * 2 ^ 52 + fraction.toNat := by
  have high : (0#1 ++ biased).toNat = biased.toNat := by
    rw [BitVec.toNat_append]
    exact Nat.zero_or _
  refine (BitVec.toNat_append (0#1 ++ biased) fraction).trans ?_
  rw [high, ← Nat.shiftLeft_add_eq_or_of_lt fraction.isLt, Nat.shiftLeft_eq]

/-- Bits without a sign are taken apart into the biased exponent and the
fraction. -/
theorem ofBits_fields
    {biased fraction : ℕ}
    (finite : biased < 2047)
    (small : fraction < 2 ^ 52)
    (nonzero : biased ≠ 0 ∨ fraction ≠ 0) :
    ofBits (biased * 2 ^ 52 + fraction) = .finite false
      (if biased = 0 then ⟨fraction, -1074, false⟩
        else ⟨2 ^ 52 + fraction, biased - 1075,
          fraction = 0 && biased ≠ 1⟩) := by
  have high : (biased * 2 ^ 52 + fraction) / 2 ^ 52 % 2 ^ 11 = biased := by
    omega
  have low : (biased * 2 ^ 52 + fraction) % 2 ^ 52 = fraction := by omega
  have positive : ¬ 2 ^ 63 ≤ biased * 2 ^ 52 + fraction := by omega
  rw [ofBits]
  simp only [Nat.pow_eq, high, low, decide_eq_false positive, if_neg finite.ne]
  split
  next subnormal =>
    rw [if_neg (nonzero.resolve_left (not_not_intro subnormal))]
  next normal => rfl

/-- A number without a sign is packed into the biased exponent and the
fraction. -/
theorem toNat_pack
    {mantissa : ℕ}
    {exponent : ℤ}
    {positive : 0 < mantissa}
    (is : (ofUnpacked
      (.finite .positive mantissa exponent positive)).IsBinary64) :
    (UnpackedFloat.pack .binary64
      (.finite .positive mantissa exponent positive)).toNat =
      (if 2 ^ 52 ≤ mantissa then (exponent + 1075).toNat else 0) * 2 ^ 52 +
        mantissa % 2 ^ 52 := by
  obtain ⟨-, small, least, greatest, normal, -⟩ := is
  dsimp only at small least greatest normal
  have length : mantissa.log2 + 1 = 53 ↔ 2 ^ 52 ≤ mantissa := by
    have short := (Nat.log2_lt positive.ne').2 small
    rw [← Nat.le_log2 positive.ne']
    omega
  have packed :
      UnpackedFloat.pack .binary64
        (.finite .positive mantissa exponent positive) =
      if 2 ^ 11 ≤ (exponent + 1023 + 52).toNat + 1 then
        UnpackedFloat.packedInfinity .binary64 .positive
      else if mantissa.log2 + 1 = 53 then
        UnpackedFloat.packComponents .binary64 .positive
          (BitVec.ofNat 11 (exponent + 1023 + 52).toNat)
          (BitVec.ofNat 52 mantissa)
      else UnpackedFloat.packComponents .binary64 .positive (0#11)
      (BitVec.ofNat 52 mantissa) := rfl
  rw [packed, if_neg (by omega)]
  by_cases leading : 2 ^ 52 ≤ mantissa
  · rw [if_pos (length.2 leading), if_pos leading, toNat_packComponents,
      BitVec.toNat_ofNat, BitVec.toNat_ofNat]
    omega
  · rw [if_neg (mt length.1 leading), if_neg leading, toNat_packComponents,
      BitVec.toNat_ofNat]
    rfl

/-- A packed number without a sign has the parts that it was packed from. -/
theorem ofBits_pack
    {mantissa : ℕ}
    {exponent : ℤ}
    {positive : 0 < mantissa}
    (is : (ofUnpacked
      (.finite .positive mantissa exponent positive)).IsBinary64) :
    ofBits (UnpackedFloat.pack .binary64
      (.finite .positive mantissa exponent positive)).toNat =
      ofUnpacked (.finite .positive mantissa exponent positive) := by
  rw [toNat_pack is]
  obtain ⟨-, small, least, greatest, normal, -⟩ := is
  dsimp only at small least greatest normal
  have first : mantissa % 2 ^ 52 = 0 ↔ mantissa = 0 ∨ mantissa = 2 ^ 52 := by
    omega
  by_cases leading : 2 ^ 52 ≤ mantissa
  · have whole : 2 ^ 52 + mantissa % 2 ^ 52 = mantissa := by omega
    have power : ((exponent + 1075).toNat : ℤ) - 1075 = exponent := by omega
    have narrow : (mantissa % 2 ^ 52 = 0 ∧ (exponent + 1075).toNat ≠ 1) ↔
        (mantissa = 2 ^ 52 ∧ -1074 < exponent) := by
      omega
    rw [if_pos leading, ofBits_fields (by omega) (by omega) (.inl (by omega)),
      if_neg (by omega), whole, power,
      ofUnpacked, ← Bool.decide_and, ← Bool.decide_and,
      decide_eq_decide.2 narrow]
    rfl
  · have fraction : mantissa % 2 ^ 52 = mantissa := by omega
    have least : exponent = -1074 := by omega
    rw [if_neg leading, ofBits_fields (by omega) (by omega)
      (.inr (by omega)), if_pos rfl, fraction, least, ofUnpacked,
      decide_eq_false (by omega)]
    rfl

/-- A finite number has a finite model, with the same parts. -/
theorem exists_unpacked
    {x : Float}
    {negative : Bool}
    {magnitude : Magnitude}
    (parts : ofFloat x = .finite negative magnitude) :
    ∃ sign positive, x.toModel.unpack =
        .finite sign magnitude.mantissa magnitude.exponent positive ∧
      isNegative sign = negative ∧
        ofUnpacked
          (.finite .positive magnitude.mantissa magnitude.exponent positive) =
          .finite false magnitude := by
  rw [ofFloat_eq] at parts
  cases unpacked : x.toModel.unpack with
  | finite sign mantissa exponent positive =>
      rw [unpacked] at parts
      cases parts
      exact ⟨sign, positive, rfl, rfl, rfl⟩
  | _ =>
      rw [unpacked] at parts
      cases parts

/-- The absolute value of a finite number has its magnitude and no sign. -/
theorem ofFloat_abs
    {x : Float}
    {negative : Bool}
    {magnitude : Magnitude}
    (parts : ofFloat x = .finite negative magnitude) :
    ofFloat x.abs = .finite false magnitude := by
  obtain ⟨sign, positive, unpacked, -, unsigned⟩ := exists_unpacked parts
  have is : (Binary.finite false magnitude).IsBinary64 :=
    isBinary64_of_ofFloat parts
  rw [← unsigned] at is
  have packed : x.abs.toBits.toBitVec = UnpackedFloat.pack .binary64
      (.finite .positive magnitude.mantissa magnitude.exponent positive) := by
    change UnpackedFloat.pack .binary64 x.toModel.unpack.abs = _
    rw [unpacked]
    rfl
  rw [ofFloat, ← UInt64.toNat_toBitVec, packed, ofBits_pack is, unsigned]

/-- Numbers without a sign are compared as the rationals that they stand for. -/
theorem compare_unpacked
    {x y : Float}
    {left right : Magnitude}
    (leftParts : ofFloat x = .finite false left)
    (rightParts : ofFloat y = .finite false right) :
    x.toModel.unpack.compare y.toModel.unpack =
      some (compare left.value right.value) := by
  obtain ⟨leftSign, _, leftUnpacked, leftNegative, -⟩ :=
    exists_unpacked leftParts
  obtain ⟨rightSign, _, rightUnpacked, rightNegative, -⟩ :=
    exists_unpacked rightParts
  have leftIs := isBinary64_of_ofFloat leftParts
  have rightIs := isBinary64_of_ofFloat rightParts
  cases leftSign with
  | negative => cases leftNegative
  | positive =>
      cases rightSign with
      | negative => cases rightNegative
      | positive =>
          rw [leftUnpacked, rightUnpacked, ← Magnitude.compare_eq
            leftIs rightIs]
          rfl

/-- A number without a sign is not above another just if its rational is not. -/
theorem le_iff
    {x y : Float}
    {left right : Magnitude}
    (leftParts : ofFloat x = .finite false left)
    (rightParts : ofFloat y = .finite false right) :
    x ≤ y ↔ left.value ≤ right.value := by
  have model : x ≤ y ↔ x.toModel.unpack.le y.toModel.unpack = true :=
    decide_eq_true_iff
  rw [model, UnpackedFloat.le,
    compare_unpacked leftParts rightParts, ← compare_le_iff_le]
  exact Ordering.isLE_iff_ne_gt

/-- A number without a sign is below another just if its rational is. -/
theorem lt_iff
    {x y : Float}
    {left right : Magnitude}
    (leftParts : ofFloat x = .finite false left)
    (rightParts : ofFloat y = .finite false right) :
    x < y ↔ left.value < right.value := by
  have model : x < y ↔ x.toModel.unpack.lt y.toModel.unpack = true :=
    decide_eq_true_iff
  rw [model, UnpackedFloat.lt,
    compare_unpacked leftParts rightParts, ← compare_lt_iff_lt]
  simp

end Absolute

end Binary
end ClassLowering
