import ClassLowering.Text.CharacterClass

/-!
# Settings of the log

The log is off unless a filter is given; a filter of its own outweighs the
general one. Its format is read without regard to case and to white space at the
ends, and anything unknown means plain text.

The names of the formats are ASCII, and no other character has a letter of
theirs as its lower-case form, so it is enough to lower ASCII letters.
-/

namespace ClassLowering

/-- The forms in which the log can be written. -/
inductive LogFormat
  | text
  | tree
  | json
  deriving DecidableEq, Repr

namespace LogFormat

/-- The format that a text asks for. -/
def parse (value : String) : LogFormat :=
  let name := (CharacterClass.trimBlanks value).toLower
  if name = "tree" then .tree else if name = "json" then .json else .text

end LogFormat

/-- Whether to log, what, and how. -/
structure LogSettings where
  directives : Option String
  format : LogFormat
  deriving DecidableEq, Repr

namespace LogSettings

/-- The settings that three optional texts ask for. -/
def resolve (filter general format : Option String) : LogSettings :=
  ⟨filter.or general, (format.map LogFormat.parse).getD .text⟩

end LogSettings
end ClassLowering
