import ClassLowering.Proofs.Number.Shortest

/-!
# Numerals

A numeral is written from the digits of a decimal and the place of its point.
The point is between the digits, or zeros fill the place between it and them;
where it would be too far from the first digit, it is behind that digit, and an
exponent with a sign says where it belongs.

A reader takes the digits before and after the point for one natural
number and moves the point back. It reads the value of the decimal from
each of its numerals.
-/

namespace ClassLowering

/-- The digits behind the first one, with a point before them if there are
any. -/
def pointed (digits : List Char) : List Char :=
  if digits = [] then [] else '.' :: digits

/-- A text is written with some digits, the given number of places of which are
before the point. -/
inductive IsNumeral : List Char -> ℤ -> List Char -> Prop
  /-- Zeros go on from the digits to the point, which is left out. -/
  | whole
      {digits : List Char}
      {zeros : ℕ} :
      digits.length + zeros ≤ 21 ->
      IsNumeral digits (digits.length + zeros) (digits ++ .replicate zeros '0')
  /-- The point is between the digits. -/
  | divided
      {whole fraction : List Char} :
      whole ≠ [] ->
      whole.length ≤ 21 ->
      fraction ≠ [] ->
      IsNumeral (whole ++ fraction) whole.length (whole ++ '.' :: fraction)
  /-- Zeros go on from the point to the digits. -/
  | fraction
      {digits : List Char}
      {zeros : ℕ} :
      zeros ≤ 5 ->
      IsNumeral digits (-zeros) ('0' :: '.' :: (.replicate zeros '0' ++ digits))
  /-- The digits count a high power of ten. -/
  | great
      {first : Char}
      {others : List Char}
      {power : ℕ} :
      21 ≤ power ->
      IsNumeral (first :: others) (power + 1)
        (first :: (pointed others ++ 'e' :: '+' :: Nat.toDigits 10 power))
  /-- The digits count a low power of ten. -/
  | small
      {first : Char}
      {others : List Char}
      {power : ℕ} :
      7 ≤ power ->
      IsNumeral (first :: others) (1 - power)
        (first :: (pointed others ++ 'e' :: '-' :: Nat.toDigits 10 power))

namespace Decimal

/-- One digit, a point before the others, and a signed exponent. -/
def scientific (digits : List Char) (leading : Int) : List Char :=
  let tail := digits.drop 1
  digits.take 1 ++ (if tail = [] then [] else '.' :: tail) ++
    'e' :: (if leading < 0 then '-' else '+') :: Nat.toDigits 10 leading.natAbs

/-- Whether a leading power of ten is written without an exponent. -/
def isPositional (leading : Int) : Bool := -7 < leading && leading < 21

/-- The text of a positive decimal. -/
def chars (decimal : Decimal) : List Char :=
  let leading := decimal.leadingPower
  if isPositional leading then positional decimal.digitChars leading
  else scientific decimal.digitChars leading

/-- All characters of the digits are digits. -/
theorem isDigit_digitChars
    (decimal : Decimal) :
    ∀ char ∈ decimal.digitChars, char.isDigit = true :=
  fun _ present => Nat.isDigit_of_mem_toDigits (by decide) (by decide) present

/-- A decimal has a first digit. -/
theorem digitChars_ne_nil (decimal : Decimal) : decimal.digitChars ≠ [] :=
  List.ne_nil_of_length_pos decimal.digitCount_pos

/-- Positional notation is a numeral of the digits. -/
theorem isNumeral_positional
    {digits : List Char}
    {leading : ℤ}
    (positional : isPositional leading = true)
    (some : digits ≠ []) :
    IsNumeral digits (leading + 1) (Decimal.positional digits leading) := by
  rw [isPositional, Bool.and_eq_true, decide_eq_true_eq,
    decide_eq_true_eq] at positional
  rw [Decimal.positional]
  split
  next below =>
    have numeral : IsNumeral digits (-((-leading - 1).toNat : ℤ)) _ :=
      .fraction (by omega)
    rwa [Int.toNat_of_nonneg (by omega), neg_sub, sub_neg_eq_add,
      add_comm] at numeral
  next above =>
    have places : (leading.toNat : ℤ) = leading :=
      Int.toNat_of_nonneg (not_lt.1 above)
    dsimp only
    split
    next short =>
      have numeral : IsNumeral digits
          (digits.length + ((leading.toNat + 1 - digits.length : ℕ) : ℤ)) _ :=
            .whole (by omega)
      rwa [← Nat.cast_add, Nat.add_sub_cancel' short, Nat.cast_add_one,
        places] at numeral
    next long =>
      have whole : (digits.take (leading.toNat + 1)).length =
          leading.toNat + 1 :=
        List.length_take_of_le (by omega)
      have numeral :
          IsNumeral (digits.take (leading.toNat + 1) ++
            digits.drop (leading.toNat + 1))
          (digits.take (leading.toNat + 1)).length _ :=
        .divided (by simp [some]) (by omega) (by simpa using not_le.1 long)
      rwa [List.take_append_drop, whole, Nat.cast_add_one, places] at numeral

/-- Scientific notation is a numeral of the digits. -/
theorem isNumeral_scientific
    {digits : List Char}
    {leading : ℤ}
    (scientific : isPositional leading = false)
    (some : digits ≠ []) :
    IsNumeral digits (leading + 1) (Decimal.scientific digits leading) := by
  obtain ⟨first, others, rfl⟩ := List.exists_cons_of_ne_nil some
  rw [isPositional, Bool.and_eq_false_iff, decide_eq_false_iff_not,
    decide_eq_false_iff_not, not_lt, not_lt] at scientific
  rcases scientific with low | high
  · have numeral : IsNumeral (first :: others) (1 - (leading.natAbs : ℤ)) _ :=
      .small (by omega)
    have power : (1 - (leading.natAbs : ℤ)) = leading + 1 := by omega
    have sign : (if leading < 0 then '-' else '+') = '-' := if_pos (by omega)
    rw [power] at numeral
    rw [Decimal.scientific, sign]
    exact numeral
  · have numeral : IsNumeral (first :: others) (leading.natAbs + 1) _ :=
      .great (by omega)
    have power : (leading.natAbs : ℤ) = leading := by omega
    have sign : (if leading < 0 then '-' else '+') = '+' := if_neg (by omega)
    rw [power] at numeral
    rw [Decimal.scientific, sign]
    exact numeral

/-- The text of a decimal is a numeral of its digits. -/
theorem isNumeral_chars (decimal : Decimal) :
    IsNumeral decimal.digitChars (decimal.leadingPower + 1) decimal.chars := by
  rw [chars]
  split
  next positional =>
    exact isNumeral_positional positional decimal.digitChars_ne_nil
  next scientific =>
    exact isNumeral_scientific (Bool.eq_false_iff.2 scientific)
      decimal.digitChars_ne_nil

end Decimal

section Reading

/-- A natural number is read from at least one digit. -/
def readDigits (text : List Char) : Option ℕ :=
  if text ≠ [] ∧ text.all Char.isDigit
    then some (Nat.ofDigitChars 10 text 0) else none

/-- The digits after a point, and what follows them. -/
def splitFraction : List Char -> List Char × List Char
  | '.' :: text => (text.takeWhile Char.isDigit, text.dropWhile Char.isDigit)
  | text => ([], text)

/-- What follows the digits of a numeral is an exponent or nothing. -/
def readExponent : List Char -> Option ℤ
  | [] => some 0
  | 'e' :: '+' :: text => (readDigits text).map fun power => power
  | 'e' :: '-' :: text => (readDigits text).map fun power => -power
  | _ => none

/-- The rational that a numeral stands for. -/
def readDecimal (text : List Char) : Option ℚ :=
  let whole := text.takeWhile Char.isDigit
  let (fraction, rest) := splitFraction (text.dropWhile Char.isDigit)
  match readDigits (whole ++ fraction), readExponent rest with
  | some digits, some power => some (digits * 10 ^ (power - fraction.length))
  | _, _ => none

variable {digits whole fraction rest text : List Char} {point power : ℤ}

/-- The digits of a natural number are read back. -/
theorem readDigits_toDigits
    (number : ℕ) :
    readDigits (Nat.toDigits 10 number) = some number := by
  have all : (Nat.toDigits 10 number).all Char.isDigit = true :=
    List.all_eq_true.2 fun _ present =>
      Nat.isDigit_of_mem_toDigits (by decide) (by decide) present
  have some : Nat.toDigits 10 number ≠ [] :=
    List.ne_nil_of_length_pos Nat.length_toDigits_pos
  rw [readDigits, if_pos ⟨some, all⟩,
    Nat.ofDigitChars_toDigits (by decide) (by decide)]

/-- Digits in front of a text that does not start with a digit are split off. -/
theorem splitDigits
    (digit : ∀ char ∈ digits, char.isDigit = true)
    (stop : ∀ char, rest.head? = some char -> char.isDigit = false) :
    (digits ++ rest).takeWhile Char.isDigit = digits ∧
      (digits ++ rest).dropWhile Char.isDigit = rest := by
  rw [List.takeWhile_append_of_pos digit, List.dropWhile_append_of_pos digit]
  cases rest with
  | nil => exact ⟨List.append_nil _, rfl⟩
  | cons first later =>
      have stops := stop first rfl
      rw [List.takeWhile_cons_of_neg (by simp [stops]),
        List.dropWhile_cons_of_neg (by simp [stops])]
      exact ⟨List.append_nil _, rfl⟩

/-- An exponent starts with neither a digit nor a point. -/
theorem head?_of_readExponent (exponent : readExponent rest = some power) :
    ∀ char, rest.head? = some char -> char.isDigit = false ∧ char ≠ '.' := by
  unfold readExponent at exponent
  split at exponent
  · rintro char ⟨⟩
  · rintro char ⟨⟩
    decide
  · rintro char ⟨⟩
    decide
  · cases exponent

/-- Digits behind a point are split off from an exponent. -/
theorem splitFraction_pointed
    (digit : ∀ char ∈ fraction, char.isDigit = true)
    (exponent : readExponent rest = some power) :
    splitFraction (pointed fraction ++ rest) = (fraction, rest) := by
  have stop := head?_of_readExponent exponent
  cases fraction with
  | nil =>
      cases rest with
      | nil => rfl
      | cons first later =>
          rw [pointed, if_pos rfl, List.nil_append, splitFraction]
          rintro text ⟨⟩
          exact (stop '.' rfl).2 rfl
  | cons first later =>
      have split := splitDigits digit fun char starts => (stop char starts).1
      rw [pointed, if_neg (List.cons_ne_nil _ _), List.cons_append,
        splitFraction, split.1, split.2]

/-- Digits before a point are split off from the point, or from an
exponent without one. -/
theorem splitDigits_pointed
    (fraction : List Char)
    (digit : ∀ char ∈ whole, char.isDigit = true)
    (exponent : readExponent rest = some power) :
    (whole ++ (pointed fraction ++ rest)).takeWhile Char.isDigit = whole ∧
      (whole ++ (pointed fraction ++ rest)).dropWhile Char.isDigit =
        pointed fraction ++ rest := by
  refine splitDigits digit fun char starts => ?_
  cases fraction with
  | nil => exact (head?_of_readExponent exponent char starts).1
  | cons first later =>
      cases starts
      decide

/-- A text is read from its digits, its point and its exponent. -/
theorem readDecimal_append
    (whole fraction : List Char)
    (digit : ∀ char ∈ whole ++ fraction, char.isDigit = true)
    (nonempty : whole ++ fraction ≠ [])
    (exponent : readExponent rest = some power) :
    readDecimal (whole ++ (pointed fraction ++ rest)) =
      some ((Nat.ofDigitChars 10 (whole ++ fraction) 0 : ℚ) * 10 ^
        (power - fraction.length)) := by
  obtain ⟨digitWhole, digitFraction⟩ := List.forall_mem_append.1 digit
  have front := splitDigits_pointed fraction digitWhole exponent
  have back := splitFraction_pointed digitFraction exponent
  have number : readDigits (whole ++ fraction) = _ :=
    if_pos ⟨nonempty, List.all_eq_true.2 digit⟩
  rw [readDecimal, front.1, front.2, back]
  dsimp only
  rw [exponent, number]

/-- Zeros are digits. -/
theorem isDigit_replicate_zero (zeros : ℕ) :
    ∀ char ∈ List.replicate zeros '0', char.isDigit = true := by
  intro char present
  rw [List.eq_of_mem_replicate present]
  rfl

/-- A missing exponent is read as zero. -/
theorem readExponent_nil : readExponent [] = some 0 := rfl

/-- An exponent with a plus sign is read as a natural number. -/
theorem readExponent_plus (power : ℕ) :
    readExponent ('e' :: '+' :: Nat.toDigits 10 power) = some (power : ℤ) := by
  rw [readExponent, readDigits_toDigits]
  rfl

/-- An exponent with a minus sign is read as the opposite of a natural
number. -/
theorem readExponent_minus (power : ℕ) :
    readExponent ('e' :: '-' :: Nat.toDigits 10 power) = some (-power : ℤ) := by
  rw [readExponent, readDigits_toDigits]
  rfl

/-- A numeral is read as its digits with the point moved to its place. -/
theorem readDecimal_numeral
    (numeral : IsNumeral digits point text)
    (digit : ∀ char ∈ digits, char.isDigit = true)
    (nonempty : digits ≠ []) :
    readDecimal text =
      some ((Nat.ofDigitChars 10 digits 0 : ℚ) * 10 ^
        (point - digits.length)) := by
  cases numeral with
  | @whole _ zeros bound =>
      have read := readDecimal_append (digits ++ .replicate zeros '0') []
        (List.forall_mem_append.2 ⟨List.forall_mem_append.2
          ⟨digit, isDigit_replicate_zero zeros⟩, List.forall_mem_nil _⟩)
        (by simp [nonempty]) readExponent_nil
      rw [pointed, if_pos rfl, List.append_nil, List.append_nil,
        Nat.ofDigitChars_append, Nat.ofDigitChars_replicate_zero,
        List.length_nil, Nat.cast_zero, sub_zero, zpow_zero, mul_one,
        Nat.cast_mul, Nat.cast_pow, Nat.cast_ofNat, mul_comm] at read
      rw [read, add_sub_cancel_left, zpow_natCast]
  | @divided whole fraction wholeSome bound fractionSome =>
      have read := readDecimal_append whole fraction digit nonempty
        readExponent_nil
      have place : (0 : ℤ) - fraction.length = whole.length -
          (whole ++ fraction).length := by
        rw [List.length_append]
        push_cast
        ring
      rwa [pointed, if_neg fractionSome, List.append_nil, place] at read
  | @fraction _ zeros bound =>
      have read := readDecimal_append ['0'] (.replicate zeros '0' ++ digits)
        (List.forall_mem_append.2
          ⟨isDigit_replicate_zero 1, List.forall_mem_append.2
            ⟨isDigit_replicate_zero zeros, digit⟩⟩)
          (List.cons_ne_nil _ _) readExponent_nil
      have number :
          Nat.ofDigitChars 10 (['0'] ++ (.replicate zeros '0' ++ digits)) 0 =
          Nat.ofDigitChars 10 digits 0 := by
        rw [Nat.ofDigitChars_append, Nat.ofDigitChars_append,
          Nat.ofDigitChars_replicate_zero]
        rfl
      have place : (0 : ℤ) - (List.replicate zeros '0' ++ digits).length =
          -zeros - digits.length := by
        rw [List.length_append, List.length_replicate]
        push_cast
        ring
      rwa [pointed, if_neg (List.append_ne_nil_of_right_ne_nil _ nonempty),
        List.append_nil, number, place] at read
  | @great first others power bound =>
      have read := readDecimal_append [first] others digit nonempty
        (readExponent_plus power)
      have place : (power : ℤ) - others.length = power + 1 -
          (first :: others).length := by
        rw [List.length_cons]
        push_cast
        ring
      rwa [place] at read
  | @small first others power bound =>
      have read := readDecimal_append [first] others digit nonempty
        (readExponent_minus power)
      have place : -(power : ℤ) - others.length = 1 - power -
          (first :: others).length := by
        rw [List.length_cons]
        push_cast
        ring
      rwa [place] at read

/-- The text of a decimal is read as its value. -/
theorem Decimal.readDecimal_chars (decimal : Decimal) :
    readDecimal decimal.chars = some decimal.value := by
  have read := readDecimal_numeral decimal.isNumeral_chars
    decimal.isDigit_digitChars decimal.digitChars_ne_nil
  have number : Nat.ofDigitChars 10 decimal.digitChars 0 = decimal.digits :=
    Nat.ofDigitChars_toDigits (by decide) (by decide)
  have place : decimal.leadingPower + 1 - decimal.digitChars.length =
      decimal.exponent := by
    rw [Decimal.leadingPower_eq, Decimal.digitCount]
    ring
  rwa [number, place] at read

end Reading

section Exponents

/-- A numeral has an exponent just if its point is too far from its first
digit. -/
theorem e_mem_numeral_iff
    {digits text : List Char}
    {point : ℤ}
    (numeral : IsNumeral digits point text)
    (digit : ∀ char ∈ digits, char.isDigit = true)
    (nonempty : digits ≠ []) :
    'e' ∈ text ↔ point < -5 ∨ 21 < point := by
  have noDigit : 'e' ∉ digits := fun present =>
    absurd (digit _ present) (by decide)
  have some := List.length_pos_iff.2 nonempty
  cases numeral with
  | @whole _ zeros bound =>
      simp only [List.mem_append, noDigit, List.mem_replicate, false_or]
      constructor
      · rintro ⟨-, same⟩
        cases same
      · omega
  | divided wholeSome bound fractionSome =>
      simp only [List.mem_append, not_or] at noDigit
      simp only [List.mem_append, List.mem_cons, noDigit, false_or, or_false]
      constructor
      · intro same
        cases same
      · omega
  | fraction bound =>
      simp only [List.mem_append, List.mem_cons, noDigit,
        List.mem_replicate, or_false]
      constructor
      · rintro (same | same | ⟨-, same⟩) <;> cases same
      · omega
  | great bound =>
      simp only [List.mem_append, List.mem_cons, true_or, or_true, true_iff]
      omega
  | small bound =>
      simp only [List.mem_append, List.mem_cons, true_or, or_true, true_iff]
      omega

/-- The sign of an exponent is written behind the first mark of an exponent. -/
theorem signExponent_append
    {mantissa : List Char}
    (unmarked : 'e' ∉ mantissa)
    (exponent : List Char) :
    signExponent (mantissa ++ 'e' :: exponent) =
      if exponent.head? = some '-' then mantissa ++ 'e' :: exponent
      else mantissa ++ 'e' :: '+' :: exponent := by
  have before : ∀ char ∈ mantissa, decide (char ≠ 'e') = true := by
    intro char present
    exact decide_eq_true fun same => unmarked (same ▸ present)
  rw [signExponent, List.dropWhile_append_of_pos before,
    List.takeWhile_append_of_pos before]
  simp

/-- With the sign of its exponent, an exponential notation is the
scientific one. -/
theorem signExponent_exponential
    {digits : List Char}
    (digit : ∀ char ∈ digits, char.isDigit = true)
    (negative : Bool)
    (leading : ℤ) :
    signExponent (signed negative (Decimal.exponential digits leading)) =
      signed negative (Decimal.scientific digits leading) := by
  have noDigit : 'e' ∉ digits := fun present =>
    absurd (digit _ present) (by decide)
  let mantissa := signed negative (digits.take 1 ++ pointed (digits.drop 1))
  have unmarked : 'e' ∉ mantissa := by
    have first : 'e' ∉ digits.take 1 := mt List.mem_of_mem_take noDigit
    have others : 'e' ∉ digits.tail := mt List.mem_of_mem_tail noDigit
    simp only [mantissa, signed, pointed]
    split <;> split <;> simp [first, others]
  have behind :
      ∀ rest, signed negative
        (digits.take 1 ++ pointed (digits.drop 1) ++ rest) =
      mantissa ++ rest := by
    cases negative <;> exact fun rest => rfl
  have power : (Nat.toDigits 10 leading.natAbs).head? ≠ some '-' := by
    intro starts
    have isDigit := Nat.isDigit_of_mem_toDigits (by decide) (by decide)
      (List.mem_of_head? starts)
    exact absurd isDigit (by decide)
  rw [Decimal.exponential, Decimal.scientific, ← pointed, behind, behind,
    signExponent_append unmarked]
  by_cases below : leading < 0
  · simp [below]
  · simp [below, power]

end Exponents
end ClassLowering
