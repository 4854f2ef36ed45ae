/-!
# Styles of texts

A terminal shows a text in a style when the text stands between two escape
sequences: one that turns the style on, and one that turns all styles off. A
plain text has neither.
-/

namespace ClassLowering

/-- The ways in which a terminal can set off a text. -/
inductive TextStyle
  | bold
  | dimmed
  | red
  | green
  deriving DecidableEq, Repr

namespace TextStyle

/-- The number by which an escape sequence names a style. -/
def code : TextStyle -> Nat
  | .bold => 1
  | .dimmed => 2
  | .red => 31
  | .green => 32

/-- The escape sequence for a number. -/
def escape (code : Nat) : String := "\x1b[" ++ toString code ++ "m"

/-- A text in a style if texts are styled at all. -/
def apply (style : TextStyle) (isStyled : Bool) (text : String) : String :=
  if isStyled then escape style.code ++ text ++ escape 0 else text

end TextStyle
end ClassLowering
