import ClassLowering.Text.CharacterTable

/-!
# Classes of characters

A character is a letter when it is alphabetic in the sense of Unicode, a numeral
when it is a decimal digit, a letter number or another number, and blank when it
has the property `White_Space`.

Identifiers start with a letter, `_` or `$` and go on with letters, numerals,
`_` and `$`. The class is wider than the identifiers of the language standard:
it has superscript digits and fractions, and it lacks combining marks that are
not alphabetic.
-/

namespace ClassLowering
namespace CharacterClass

/-- Whether a code point lies in one of a list of ranges. -/
def inRanges (ranges : List (Nat × Nat)) (code : Nat) : Bool :=
  ranges.any fun range => range.1 ≤ code && code ≤ range.2

/-- Whether a character is alphabetic. -/
def isLetter (c : Char) : Bool := inRanges letterRanges c.toNat

/-- Whether a character is a numeral that is no letter. -/
def isNumeral (c : Char) : Bool := inRanges numeralRanges c.toNat

/-- Whether a character may start an identifier. -/
def startsIdentifier (c : Char) : Bool := c = '_' || c = '$' || isLetter c

/-- Whether a character may follow the first one of an identifier. -/
def continuesIdentifier (c : Char) : Bool := startsIdentifier c || isNumeral c

/-- Whether a text is an identifier: a starting character, then
continuing ones. -/
def isIdentifier (text : String) : Bool :=
  match text.toList with
  | [] => false
  | first :: rest => startsIdentifier first && rest.all continuesIdentifier

/-- The code points with the property `White_Space`. -/
def blankRanges : List (Nat × Nat) := [
  (0x9, 0xd), (0x20, 0x20), (0x85, 0x85), (0xa0, 0xa0), (0x1680, 0x1680),
  (0x2000, 0x200a), (0x2028, 0x2029), (0x202f, 0x202f), (0x205f, 0x205f),
  (0x3000, 0x3000)]

/-- Whether a character is white space. -/
def isBlank (c : Char) : Bool := inRanges blankRanges c.toNat

/-- A text without the white space at its two ends. -/
def trimBlanks (text : String) : String :=
  .ofList ((text.toList.dropWhile isBlank).reverse.dropWhile isBlank).reverse

end CharacterClass
end ClassLowering
