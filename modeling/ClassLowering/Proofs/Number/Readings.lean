import ClassLowering.Proofs.Number.Floats
import ClassLowering.Proofs.Number.Numerals

/-!
# Reading numbers

A text is read as a rational, which is rounded to a number, or as one of the
words for what is not a rational. A text is never read as two numbers.
-/

namespace ClassLowering

/-- The word for the infinite numbers. -/
def infinityWord : List Char := "Infinity".toList

/-- What a text says, before it is rounded. -/
inductive Reading
  | nan
  | infinite (negative : Bool)
  | finite (negative : Bool) (size : ℚ)

/-- Read a text behind its sign. -/
def readSize (negative : Bool) (text : List Char) : Option Reading :=
  if text = infinityWord then some (.infinite negative)
  else (readDecimal text).map (.finite negative)

/-- Read the text of a number. -/
def readNumber : List Char -> Option Reading
  | ['N', 'a', 'N'] => some .nan
  | '-' :: text => readSize true text
  | text => readSize false text

namespace Binary

/-- A reading rounds to a number, which is infinite or zero where it is too
great or too small. -/
def RoundsFrom : Binary -> Reading -> Prop
  | .nan, .nan => True
  | .infinite negative, .infinite other => negative = other
  | .infinite negative, .finite other size =>
      negative = other ∧ Magnitude.leastInfinite ≤ size
  | .zero negative, .finite other size =>
      negative = other ∧ size ≤ Magnitude.greatestZero
  | .finite negative magnitude, .finite other size =>
      negative = other ∧ magnitude.RoundsFrom size
  | _, _ => False

/-- A reading does not round to two numbers. -/
theorem eq_of_roundsFrom
    {left right : Binary}
    {reading : Reading}
    (leftIs : left.IsBinary64)
    (rightIs : right.IsBinary64)
    (leftRounds : left.RoundsFrom reading)
    (rightRounds : right.RoundsFrom reading) :
    left = right := by
  have limits := Magnitude.greatestZero_lt_leastInfinite
  cases reading with
  | nan =>
      cases left <;> cases right <;>
        first | rfl | exact leftRounds.elim | exact rightRounds.elim
  | infinite negative =>
      cases left <;> cases right <;> try
        first | exact leftRounds.elim | exact rightRounds.elim
      exact congrArg infinite (leftRounds.trans rightRounds.symm)
  | finite negative size =>
      cases left <;> cases right <;> try
        first | exact leftRounds.elim | exact rightRounds.elim
      all_goals
        obtain ⟨rfl, leftSize⟩ := leftRounds
        obtain ⟨rfl, rightSize⟩ := rightRounds
      case infinite.infinite => rfl
      case infinite.zero =>
        exact absurd (leftSize.trans rightSize) (not_le.2 limits)
      case infinite.finite =>
        exact absurd leftSize (not_le.2 (rightIs.lt_leastInfinite rightSize))
      case zero.infinite =>
        exact absurd (rightSize.trans leftSize) (not_le.2 limits)
      case zero.zero => rfl
      case zero.finite =>
        exact absurd leftSize (not_le.2 (rightIs.greatestZero_lt rightSize))
      case finite.infinite =>
        exact absurd rightSize (not_le.2 (leftIs.lt_leastInfinite leftSize))
      case finite.zero =>
        exact absurd rightSize (not_le.2 (leftIs.greatestZero_lt leftSize))
      case finite.finite =>
        exact congrArg (finite _)
          (leftIs.eq_of_roundsFrom rightIs leftSize rightSize)

end Binary

/-- What is read as a rational starts with a digit or a point. -/
theorem readDecimal_cons_eq_none
    {first : Char}
    (noDigit : first.isDigit = false)
    (noPoint : first ≠ '.')
    (rest : List Char) :
    readDecimal (first :: rest) = none := by
  have split : splitFraction (first :: rest) = ([], first :: rest) := by
    rw [splitFraction]
    rintro text ⟨⟩
    exact noPoint rfl
  rw [readDecimal, List.takeWhile_cons_of_neg (by simp [noDigit]),
    List.dropWhile_cons_of_neg (by simp [noDigit]), split]
  rfl

/-- The text of a decimal is read behind a sign. -/
theorem readNumber_signed_chars (negative : Bool) (decimal : Decimal) :
    readNumber (signed negative decimal.chars) =
      some (.finite negative decimal.value) := by
  have read := decimal.readDecimal_chars
  have starts : ∀ first rest, decimal.chars = first :: rest ->
      first.isDigit = true ∨ first = '.' := by
    intro first rest same
    by_contra other
    rw [not_or, Bool.not_eq_true] at other
    rw [same, readDecimal_cons_eq_none other.1 other.2] at read
    cases read
  have size : readSize negative decimal.chars =
      some (.finite negative decimal.value) := by
    have noWord : decimal.chars ≠ infinityWord := fun same =>
      absurd (starts 'I' _ same) (by decide)
    rw [readSize, if_neg noWord, read]
    rfl
  cases negative with
  | true => exact size
  | false =>
      refine Eq.trans ?_ size
      rw [signed, if_neg Bool.false_ne_true, readNumber]
      · exact fun same => absurd (starts 'N' _ same) (by decide)
      · exact fun rest same => absurd (starts '-' _ same) (by decide)

/-- A text is read as a number. -/
def ReadsAs (text : String) (x : Float) : Prop :=
  ∃ reading, readNumber text.toList = some reading ∧
    (Binary.ofFloat x).RoundsFrom reading

end ClassLowering
