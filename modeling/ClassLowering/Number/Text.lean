import ClassLowering.Number.Shortest

/-!
# The text of a number

Numbers are written with their shortest decimal. It is written out for numbers
from `10 ^ -6` on that are below `10 ^ 21`, and otherwise has one digit before
the point and an exponent, whose sign is always written. Zero has no sign.
-/

namespace ClassLowering

namespace Decimal

/-- The digits, most significant first. -/
def digitChars (decimal : Decimal) : List Char := Nat.toDigits 10 decimal.digits

/-- The power of ten that the first digit counts. -/
def leadingPower (decimal : Decimal) : Int :=
  decimal.exponent + decimal.digitChars.length - 1

/-- Digits with the point after the given number of them, filled with zeros. -/
def positional (digits : List Char) (leading : Int) : List Char :=
  if leading < 0 then
    '0' :: '.' :: (List.replicate (-leading - 1).toNat '0' ++ digits)
  else
    let whole := leading.toNat + 1
    if digits.length ≤ whole then
      digits ++ List.replicate (whole - digits.length) '0'
    else
      digits.take whole ++ '.' :: digits.drop whole

/-- One digit, a point before the others, and an exponent, which has a sign if
it is negative. -/
def exponential (digits : List Char) (leading : Int) : List Char :=
  let tail := digits.drop 1
  let sign := if leading < 0 then ['-'] else []
  digits.take 1 ++ (if tail = [] then [] else '.' :: tail) ++
    'e' :: (sign ++ Nat.toDigits 10 leading.natAbs)

end Decimal

/-- A text with a sign, if the number is negative. -/
def signed (negative : Bool) (text : List Char) : List Char :=
  if negative then '-' :: text else text

/-- Write the sign of an exponent that has none. -/
def signExponent (text : List Char) : List Char :=
  match text.dropWhile (· ≠ 'e') with
  | mark :: exponent =>
      if exponent.head? = some '-' then text
      else text.takeWhile (· ≠ 'e') ++ mark :: '+' :: exponent
  | [] => text

/-- The text of a number. -/
def numberText (x : Float) : String :=
  match Binary.ofFloat x with
  | .nan => "NaN"
  | .infinite negative => if negative then "-Infinity" else "Infinity"
  | .zero _ => "0"
  | .finite negative magnitude =>
      let decimal := magnitude.shortest
      if 1e21 ≤ x.abs ∨ x.abs < 1e-6 then
        .ofList (signExponent
          (signed negative
            (Decimal.exponential decimal.digitChars decimal.leadingPower)))
      else
        .ofList (signed negative
          (Decimal.positional decimal.digitChars decimal.leadingPower))

end ClassLowering
