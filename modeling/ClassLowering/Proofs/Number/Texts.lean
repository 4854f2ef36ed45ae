import ClassLowering.Proofs.Number.Readings
import ClassLowering.Semantics.KeyConversion

/-!
# The texts of numbers

The text of a number is the one that the standard gives it: a word, or a sign
before a numeral of a shortest decimal. The numeral has no exponent just if the
number is not below the number that `10 ^ -6` rounds to, and below `10 ^ 21`. To
decide it by these thresholds and to write the sign of the exponent afterwards
comes to the same as to decide it by the place of the first digit.

Read back, the text is the number again, and no other. So two numbers have one
text, and are one property key, just if they are the same number.
-/

namespace ClassLowering

/-- A text is the one of a number. Two decimals that are shortest and equally
near to the number are equally good. -/
inductive IsNumberText : Binary -> List Char -> Prop
  | nan : IsNumberText .nan "NaN".toList
  | infinite {negative : Bool} :
      IsNumberText (.infinite negative) (signed negative infinityWord)
  | zero {negative : Bool} : IsNumberText (.zero negative) "0".toList
  | finite
      {negative : Bool}
      {magnitude : Magnitude}
      {decimal : Decimal}
      {numeral : List Char} :
      magnitude.IsShortest decimal ->
      IsNumeral decimal.digitChars (decimal.leadingPower + 1) numeral ->
      IsNumberText (.finite negative magnitude) (signed negative numeral)

namespace Binary

/-- The text of a number that was taken apart. -/
def text : Binary -> String
  | .nan => "NaN"
  | .infinite negative => if negative then "-Infinity" else "Infinity"
  | .zero _ => "0"
  | .finite negative magnitude =>
      let chars := magnitude.shortest.chars
      .ofList (if negative then '-' :: chars else chars)

variable {number : Binary}

/-- A text has the characters that it is made of. -/
theorem toList_text (number : Binary) :
    number.text.toList =
      match number with
      | .nan => "NaN".toList
      | .infinite negative => signed negative infinityWord
      | .zero _ => "0".toList
      | .finite negative magnitude =>
          signed negative magnitude.shortest.chars := by
  cases number with
  | nan => rfl
  | infinite negative => cases negative <;> rfl
  | zero negative => rfl
  | finite negative magnitude => exact String.toList_ofList

/-- The text of a number of the format is one of the texts that the
standard allows. -/
theorem isNumberText_text
    (is : number.IsBinary64) :
    IsNumberText number number.text.toList := by
  rw [toList_text]
  cases number with
  | nan => exact .nan
  | infinite negative => exact .infinite
  | zero negative => exact .zero
  | finite negative magnitude =>
      exact .finite ((Magnitude.isCoarsest_shortest is).isShortest is)
        magnitude.shortest.isNumeral_chars

/-- The text of a number of the format is read as what rounds to it. -/
theorem exists_reading (is : number.IsBinary64) :
    ∃ reading, readNumber number.text.toList = some reading ∧
      number.unsignedZero.RoundsFrom reading := by
  rw [toList_text]
  cases number with
  | nan => exact ⟨.nan, rfl, trivial⟩
  | infinite negative =>
      exact ⟨.infinite negative, by cases negative <;> rfl, rfl⟩
  | zero negative =>
      refine ⟨_, readNumber_signed_chars false ⟨0, 0⟩, rfl, ?_⟩
      rw [Decimal.value, Nat.cast_zero, zero_mul]
      exact (zpow_pos two_pos _).le
  | finite negative magnitude =>
      exact ⟨_, readNumber_signed_chars negative magnitude.shortest, rfl,
        (Magnitude.isCoarsest_shortest is).rounds⟩

/-- A number of the format is one without the sign of a zero. -/
theorem isBinary64_unsignedZero
    (is : number.IsBinary64) :
    number.unsignedZero.IsBinary64 := by
  cases number <;> exact is

/-- Numbers of the format with one text are the same, up to the sign of a
zero. -/
theorem text_eq_iff
    {left right : Binary}
    (leftIs : left.IsBinary64)
    (rightIs : right.IsBinary64) :
    left.text = right.text ↔ left.unsignedZero = right.unsignedZero := by
  have text_unsignedZero : ∀ number : Binary,
      number.unsignedZero.text = number.text := by
    rintro (_ | _ | _ | _) <;> rfl
  constructor
  · intro same
    obtain ⟨reading, read, leftRounds⟩ := exists_reading leftIs
    obtain ⟨other, otherRead, rightRounds⟩ := exists_reading rightIs
    rw [same, otherRead] at read
    cases read
    exact eq_of_roundsFrom (isBinary64_unsignedZero leftIs)
      (isBinary64_unsignedZero rightIs) leftRounds rightRounds
  · intro same
    rw [← text_unsignedZero left, same, text_unsignedZero]

end Binary

section Thresholds

/-- The number that a millionth rounds to. -/
def millionth : Magnitude := ⟨4722366482869645, -72, false⟩

/-- The number that is the power of ten from which on numbers are written
with an exponent. -/
def sextillion : Magnitude := ⟨7629394531250000, 17, false⟩

/-- The lower threshold is a number of the format. -/
theorem ofFloat_millionth : Binary.ofFloat 1e-6 = .finite false millionth := by
  decide +kernel

/-- The upper threshold is a number of the format. -/
theorem ofFloat_sextillion : Binary.ofFloat 1e21 =
    .finite false sextillion := by decide +kernel

/-- A millionth rounds to the lower threshold. -/
theorem roundsFrom_millionth : millionth.RoundsFrom (10 ^ (-6 : ℤ)) := by
  rw [(Binary.isBinary64_of_ofFloat ofFloat_millionth).roundsFrom_iff,
    Magnitude.lowEnd, Magnitude.highEnd, millionth]
  norm_num

/-- The upper threshold is a power of ten. -/
theorem roundsFrom_sextillion : sextillion.RoundsFrom (10 ^ (21 : ℤ)) := by
  have same : sextillion.value = 10 ^ (21 : ℤ) := by
    rw [Magnitude.value, sextillion]
    norm_num
  rw [← same]
  exact (Binary.isBinary64_of_ofFloat ofFloat_sextillion).roundsFrom_value

/-- A number is written out just if it is between the thresholds. -/
theorem isPositional_iff
    {x : Float}
    {negative : Bool}
    {magnitude : Magnitude}
    (parts : Binary.ofFloat x = .finite negative magnitude) :
    Decimal.isPositional magnitude.shortest.leadingPower = true ↔ 1e-6 ≤ x.abs ∧
      x.abs < 1e21 := by
  have is := Binary.isBinary64_of_ofFloat parts
  have absolute := Binary.ofFloat_abs parts
  have coarsest := Magnitude.isCoarsest_shortest is
  have positive := is.digits_pos coarsest.rounds
  have lower := coarsest.ten_zpow_le_iff is
    (Binary.isBinary64_of_ofFloat ofFloat_millionth) roundsFrom_millionth
  have upper := coarsest.ten_zpow_le_iff is
    (Binary.isBinary64_of_ofFloat ofFloat_sextillion) roundsFrom_sextillion
  rw [Binary.le_iff ofFloat_millionth absolute,
    Binary.lt_iff absolute
    ofFloat_sextillion, ← lower, ← not_le, ← upper, ←
    Decimal.le_leadingPower_iff positive, ← Decimal.le_leadingPower_iff
    positive, Decimal.isPositional, Bool.and_eq_true, decide_eq_true_eq,
    decide_eq_true_eq]
  omega

/-- A number is beyond neither threshold just if it is between them. -/
theorem not_beyond_iff
    {x : Float}
    {negative : Bool}
    {magnitude : Magnitude}
    (parts : Binary.ofFloat x = .finite negative magnitude) :
    ¬ (1e21 ≤ x.abs ∨ x.abs < 1e-6) ↔ 1e-6 ≤ x.abs ∧ x.abs < 1e21 := by
  have absolute := Binary.ofFloat_abs parts
  rw [Binary.le_iff ofFloat_sextillion absolute,
    Binary.lt_iff absolute ofFloat_millionth,
    Binary.le_iff ofFloat_millionth absolute,
    Binary.lt_iff absolute ofFloat_sextillion, not_or, not_le, not_lt, and_comm]

/-- The text of a number is the one of its parts. -/
theorem numberText_eq (x : Float) : numberText x = (Binary.ofFloat x).text := by
  rw [numberText]
  cases parts : Binary.ofFloat x with
  | finite negative magnitude =>
      dsimp only [Binary.text]
      rw [Decimal.chars]
      by_cases written :
        Decimal.isPositional magnitude.shortest.leadingPower = true
      · rw [if_neg ((not_beyond_iff parts).2
          ((isPositional_iff parts).1 written)), if_pos written]
        rfl
      · have far := mt (not_beyond_iff parts).1
          (mt (isPositional_iff parts).2 written)
        rw [if_pos (not_not.1 far), if_neg written,
          signExponent_exponential magnitude.shortest.isDigit_digitChars]
        rfl
  | _ => rfl

/-- A number is written without an exponent just if it is between the
thresholds. -/
theorem e_notMem_text_iff
    {x : Float}
    {negative : Bool}
    {magnitude : Magnitude}
    (parts : Binary.ofFloat x = .finite negative magnitude) :
    'e' ∉ (numberText x).toList ↔ 1e-6 ≤ x.abs ∧ x.abs < 1e21 := by
  have exponent := e_mem_numeral_iff magnitude.shortest.isNumeral_chars
    magnitude.shortest.isDigit_digitChars magnitude.shortest.digitChars_ne_nil
  have written : 'e' ∈ (numberText x).toList ↔
      'e' ∈ magnitude.shortest.chars := by
    rw [numberText_eq, parts, Binary.toList_text]
    cases negative <;> simp [signed]
  rw [← isPositional_iff parts, written, exponent, Decimal.isPositional,
    Bool.and_eq_true, decide_eq_true_eq, decide_eq_true_eq]
  omega

end Thresholds

section Reading

variable {x y : Float}

/-- Some number is the same without the sign of a zero. -/
theorem exists_unsignedZero (x : Float) :
    ∃ y, Binary.ofFloat y = (Binary.ofFloat x).unsignedZero := by
  have zero : Binary.ofFloat 0 = .zero false := by decide +kernel
  cases parts : Binary.ofFloat x with
  | zero negative => exact ⟨0, zero⟩
  | _ => exact ⟨x, parts⟩

/-- A number without the sign of a zero is the same number. -/
theorem sameNumber_of_eq_unsignedZero
    (same : Binary.ofFloat y = (Binary.ofFloat x).unsignedZero) :
    SameNumber x y := by
  rw [Binary.sameNumber_iff, same]
  cases Binary.ofFloat x <;> rfl

/-- The text of a number is one of the texts that the standard allows. -/
theorem isNumberText_numberText (x : Float) :
    IsNumberText (Binary.ofFloat x) (numberText x).toList := by
  rw [numberText_eq]
  exact Binary.isNumberText_text (Binary.isBinary64_ofFloat x)

/-- The text of a number is read as the same number. -/
theorem exists_readsAs_numberText
    (x : Float) :
    ∃ y, ReadsAs (numberText x) y ∧ SameNumber x y := by
  obtain ⟨y, unsigned⟩ := exists_unsignedZero x
  obtain ⟨reading, read, rounds⟩ :=
    Binary.exists_reading (Binary.isBinary64_ofFloat x)
  rw [← numberText_eq] at read
  exact ⟨y, ⟨reading, read, unsigned ▸ rounds⟩,
    sameNumber_of_eq_unsignedZero unsigned⟩

/-- The text of a number is read as no other number. -/
theorem sameNumber_of_readsAs
    (reads : ReadsAs (numberText x) y) :
    SameNumber x y := by
  have is := Binary.isBinary64_ofFloat x
  obtain ⟨reading, read, rounds⟩ := Binary.exists_reading is
  obtain ⟨other, otherRead, otherRounds⟩ := reads
  rw [numberText_eq] at otherRead
  obtain rfl : reading = other := Option.some.inj (read.symm.trans otherRead)
  exact sameNumber_of_eq_unsignedZero
    (Binary.eq_of_roundsFrom (Binary.isBinary64_ofFloat y)
      (Binary.isBinary64_unsignedZero is) otherRounds rounds)

/-- The key of a number is its text. -/
theorem toKey_number
    (x : Float)
    (call : Invoker)
    (depth : Depth)
    (state : State) :
    toKey call (.number x) depth state =
      .ok (.ofText (numberText x)) state := rfl

/-- Two numbers have one key just if they are the same number. -/
theorem toKey_number_eq_iff
    (x y : Float)
    (call : Invoker)
    (depth : Depth)
    (state : State) :
    toKey call (.number x) depth state = toKey call (.number y) depth state ↔
      SameNumber x y := by
  rw [toKey_number, toKey_number, Binary.sameNumber_iff,
    ← Binary.text_eq_iff (Binary.isBinary64_ofFloat x)
      (Binary.isBinary64_ofFloat y),
    ← numberText_eq, ← numberText_eq]
  constructor
  · intro same
    injection same with key
    injection key
  · intro same
    rw [same]

end Reading

/-- Every number has the text that the standard gives it: a numeral of a
shortest decimal where it is finite and not zero, which has no exponent just
between the thresholds. The text is read as the same number and no other, and is
a key that only the same number shares. -/
theorem numberText_is_standard
    (x : Float)
    (call : Invoker)
    (depth : Depth)
    (state : State) :
    IsNumberText (Binary.ofFloat x) (numberText x).toList ∧
      (∀ negative magnitude, Binary.ofFloat x = .finite negative magnitude ->
        ('e' ∉ (numberText x).toList ↔ 1e-6 ≤ x.abs ∧ x.abs < 1e21)) ∧
      (∃ y, ReadsAs (numberText x) y ∧ SameNumber x y) ∧
      (∀ y, ReadsAs (numberText x) y -> SameNumber x y) ∧
      toKey call (.number x) depth state = .ok (.ofText (numberText x)) state ∧
      ∀ y, toKey call (.number x) depth state =
        toKey call (.number y) depth state ↔ SameNumber x y :=
  ⟨isNumberText_numberText x,
    fun _ _ parts => e_notMem_text_iff parts,
    exists_readsAs_numberText x,
    fun _ reads => sameNumber_of_readsAs reads,
    toKey_number x call depth state,
    fun y => toKey_number_eq_iff x y call depth state⟩

/-- The upper threshold itself is written with an exponent, and its text is read
as the number. -/
theorem numberText_sextillion_is_standard :
    Binary.ofFloat 1e21 = .finite false sextillion ∧
      ReadsAs (numberText 1e21) 1e21 ∧
      ('e' ∉ (numberText 1e21).toList ↔ 1e-6 ≤ Float.abs 1e21 ∧
        Float.abs 1e21 < 1e21) ∧
      'e' ∈ (numberText 1e21).toList ∧ SameNumber 1e21 1e21 := by
  have reads : ReadsAs (numberText 1e21) 1e21 := by
    have text : (numberText 1e21).toList =
        signed false (Decimal.chars ⟨1, 21⟩) := by
      decide +kernel
    refine ⟨_, text ▸ readNumber_signed_chars false ⟨1, 21⟩, ?_⟩
    rw [ofFloat_sextillion, Decimal.value_one]
    exact ⟨rfl, roundsFrom_sextillion⟩
  obtain ⟨-, exponent, -, same, -⟩ :=
    numberText_is_standard 1e21 (fun _ => pure .undefined) 0 .empty
  exact ⟨ofFloat_sextillion, reads,
    exponent false sextillion ofFloat_sextillion,
    by decide +kernel, same 1e21 reads⟩

end ClassLowering
