/-!
# Settings of colors

Three optional variables and the kind of the output settle whether texts are
styled. Forcing styles outweighs suppressing them, and suppressing them
outweighs the rest. If neither is asked for, a terminal gets styles unless they
are not preferred, and any other output gets none.

The value `0` turns forcing and preferring off; every other value, the empty one
too, turns them on. Suppressing takes any value.
-/

namespace ClassLowering

/-- The variables that ask for styles or against them, and what the output
is. -/
structure ColorSettings where
  forced : Option String
  suppressed : Option String
  preferred : Option String
  isTerminal : Bool
  deriving DecidableEq, Repr

namespace ColorSettings

/-- The settings without variables for output that goes to no terminal. -/
def plain : ColorSettings := ⟨none, none, none, false⟩

/-- Whether the value of a variable turns it on. -/
def turnsOn (value : String) : Bool := value ≠ "0"

/-- Whether texts are styled. -/
def isStyled (settings : ColorSettings) : Bool :=
  if settings.forced.any turnsOn then true
  else if settings.suppressed.isSome then false
  else settings.preferred.all turnsOn && settings.isTerminal

end ColorSettings
end ClassLowering
