import ClassLowering.Outline.FunctionForm
import Mathlib.Data.List.Basic

/-!
# String literals of the standard

The standard reads a string literal character by character up to the quote that
ends it. A character stands for its code units, and a backslash starts an
escape, or a line that goes on. Between the quotes there may be no other quote,
and no character that ends a line: a line feed, a carriage return, or one of the
two separators.

What is written for a text is read as the text, if it has no separator. A
separator is written as it is, and ends the line inside of the literal.
-/

namespace ClassLowering
namespace StringLiteral

/-- The line separator and the paragraph separator. -/
def separators : List Char := ['\u2028', '\u2029']

/-- The characters that end a line. -/
def lineTerminators : List Char := ['\n', '\r'] ++ separators

/-- The code units of a character: two surrogates where one unit is too
small. -/
def codeUnits (c : Char) : List ℕ :=
  if c.toNat < 0x10000 then [c.toNat]
  else [0xd800 + (c.toNat - 0x10000) / 0x400,
    0xdc00 + (c.toNat - 0x10000) % 0x400]

/-- The code units of a text. -/
def textUnits (text : String) : List ℕ := text.toList.flatMap codeUnits

/-- The unit that a single character stands for behind a backslash. -/
def singleEscape? (c : Char) : Option ℕ :=
  [('\'', 0x27), ('"', 0x22), ('\\', 0x5c), ('b', 0x08), ('f', 0x0c),
    ('n', 0x0a), ('r', 0x0d), ('t', 0x09), ('v', 0x0b)].lookup c

/-- The value of a hexadecimal digit. -/
def hexValue? (c : Char) : Option ℕ :=
  if c.isDigit then some (c.toNat - '0'.toNat)
  else if 'a' ≤ c ∧ c ≤ 'f' then some (c.toNat - 'a'.toNat + 10)
  else if 'A' ≤ c ∧ c ≤ 'F' then some (c.toNat - 'A'.toNat + 10)
  else none

/-- Read the unit that some number of hexadecimal digits stand for, behind
a higher part. -/
def readHex : ℕ -> ℕ -> List Char -> Option (List ℕ × List Char)
  | 0, unit, source => some ([unit], source)
  | count + 1, high, c :: source =>
      (hexValue? c).bind fun digit => readHex count (16 * high + digit) source
  | _ + 1, _, [] => none

/-- Read what is behind a backslash: the units that it stands for, and the
rest. -/
def readEscape : List Char -> Option (List ℕ × List Char)
  | [] => none
  | '\r' :: '\n' :: source => some ([], source)
  | c :: source =>
      if c ∈ lineTerminators then some ([], source)
      else if let some unit := singleEscape? c then some ([unit], source)
      else if c = 'x' then readHex 2 0 source
      else if c = 'u' then readHex 4 0 source
      else if c = '0' ∧ source.head?.any Char.isDigit = false
        then some ([0], source)
      else if c.isDigit then none
      else some (codeUnits c, source)

/-- Read one character between double quotes. -/
def readCharacter : List Char -> Option (List ℕ × List Char)
  | [] => none
  | '\\' :: source => readEscape source
  | c :: source =>
      if c = '"' ∨ c ∈ lineTerminators then none else some (codeUnits c, source)

/-- Characters up to a quote are read as units, with something left
behind the quote. -/
inductive ReadsCharacters : List Char -> List ℕ -> List Char -> Prop
  | quote
      {rest : List Char} :
      ReadsCharacters ('"' :: rest) [] rest
  | character
      {source middle rest : List Char}
      {first units : List ℕ} :
      readCharacter source = some (first, middle) ->
      ReadsCharacters middle units rest ->
      ReadsCharacters source (first ++ units) rest

/-- A string literal is read as units, with something left behind it. -/
def Reads (source : List Char) (units : List ℕ) (rest : List Char) : Prop :=
  ∃ inside, source = '"' :: inside ∧ ReadsCharacters inside units rest

section Units

/-- A character is told apart by the units that come first. -/
theorem codeUnits_append_inj
    {left right : Char}
    {rest other : List ℕ}
    (same : codeUnits left ++ rest = codeUnits right ++ other) :
    left = right ∧ rest = other := by
  have leftValid : left.toNat < 0xd800 ∨ 0xdfff < left.toNat ∧
    left.toNat < 0x110000 := left.valid
  have rightValid : right.toNat < 0xd800 ∨ 0xdfff < right.toNat ∧
      right.toNat < 0x110000 :=
    right.valid
  have ofCode : left.toNat = right.toNat -> left = right := fun code =>
    Char.toNat_inj.1 code
  rw [codeUnits, codeUnits] at same
  split at same <;> split at same <;>
    simp only [List.cons_append, List.nil_append, List.cons.injEq] at same
  · exact ⟨ofCode same.1, same.2⟩
  · omega
  · omega
  · exact ⟨ofCode (by omega), same.2.2⟩

/-- Different texts have different units. -/
theorem textUnits_injective : Function.Injective textUnits := by
  suffices read : ∀ left right : List Char,
      left.flatMap codeUnits = right.flatMap codeUnits -> left = right from
    fun left right same => String.toList_injective (read _ _ same)
  have some : ∀ (c : Char) (rest : List ℕ), codeUnits c ++ rest ≠ [] := by
    intro c rest
    rw [codeUnits]
    split <;> exact List.cons_ne_nil _ _
  intro left
  induction left with
  | nil =>
      rintro (_ | ⟨c, others⟩) same
      · rfl
      · exact absurd same.symm (some c _)
  | cons c chars hypothesis =>
      rintro (_ | ⟨d, others⟩) same
      · exact absurd same (some c _)
      · obtain ⟨rfl, behind⟩ := codeUnits_append_inj same
        rw [hypothesis others behind]

end Units

section Steps

variable {source middle rest : List Char} {first units : List ℕ}

/-- The quote that ends a literal is read as no character. -/
theorem readCharacter_quote
    (rest : List Char) :
    readCharacter ('"' :: rest) = none := rfl

/-- What starts with a character is read as it goes on behind the character. -/
theorem readsCharacters_iff_of_readCharacter
    (read : readCharacter source = some (first, middle)) :
    ReadsCharacters source units rest ↔
      ∃ others, units = first ++ others ∧
        ReadsCharacters middle others rest := by
  constructor
  · rintro (- | ⟨otherRead, reads⟩)
    · rw [readCharacter_quote] at read
      cases read
    · rw [read] at otherRead
      cases otherRead
      exact ⟨_, rfl, reads⟩
  · rintro ⟨others, rfl, reads⟩
    exact .character read reads

/-- What starts with neither a character nor a quote is not read. -/
theorem not_readsCharacters
    (stuck : readCharacter source = none)
    (noQuote : source.head? ≠ some '"') :
    ¬ ReadsCharacters source units rest := by
  rintro (- | ⟨read, -⟩)
  · exact noQuote rfl
  · rw [stuck] at read
    cases read

end Steps

section Written

open FunctionForm

/-- The value of a written digit. -/
theorem hexValue?_upperHexDigit
    (n : ℕ) :
    hexValue? (upperHexDigit n) = some (n % 16) := by
  have digits : ∀ digit < 16, hexValue? (upperHexDigit digit) = some digit := by
    decide +kernel
  have same : upperHexDigit n = upperHexDigit (n % 16) := by
    rw [upperHexDigit, upperHexDigit, Nat.mod_mod]
  rw [same]
  exact digits _ (Nat.mod_lt n (by decide))

/-- The escape of a control character is read as the character. -/
theorem readEscape_control {code : ℕ} (small : code < 256) (rest : List Char) :
    readEscape ('u' :: '0' :: '0' :: upperHexDigit (code / 16) ::
      upperHexDigit code :: rest) = some ([code], rest) := by
  have digits : readHex 4 0
      ('0' :: '0' :: upperHexDigit (code / 16) :: upperHexDigit code :: rest) =
        (hexValue? (upperHexDigit (code / 16))).bind fun high =>
          (hexValue? (upperHexDigit code)).bind fun low =>
            some ([16 * (16 * 0 + high) + low], rest) := rfl
  have sum : 16 * (16 * 0 + code / 16 % 16) + code % 16 = code := by omega
  refine Eq.trans digits ?_
  rw [hexValue?_upperHexDigit, hexValue?_upperHexDigit]
  dsimp only [Option.bind]
  rw [sum]

/-- A character that needs no escape is read as it is. -/
theorem readCharacter_plain
    {c : Char}
    (noBackslash : c ≠ '\\')
    (noQuote : c ≠ '"')
    (inLine : c ∉ lineTerminators)
    (rest : List Char) :
    readCharacter (c :: rest) = some (codeUnits c, rest) := by
  rw [readCharacter, if_neg (not_or.2 ⟨noQuote, inLine⟩)]
  exact noBackslash

/-- What is written for a character is read as the character, if it is no
separator. -/
theorem readCharacter_literalChar
    {c : Char}
    (noSeparator : c ∉ separators)
    (rest : List Char) :
    readCharacter (literalChar c ++ rest) = some (codeUnits c, rest) := by
  rw [literalChar]
  split
  next quote => subst quote; rfl
  next noQuote =>
  split
  next backslash => subst backslash; rfl
  next noBackslash =>
  split
  next lineFeed => subst lineFeed; rfl
  next noLineFeed =>
  split
  next carriageReturn => subst carriageReturn; rfl
  next noCarriageReturn =>
  split
  next tabulator => subst tabulator; rfl
  next =>
  split
  next control =>
    rw [Bool.or_eq_true, decide_eq_true_eq, decide_eq_true_eq] at control
    have unit : codeUnits c = [c.toNat] := if_pos (by omega)
    rw [unit]
    exact readEscape_control (by omega) rest
  next =>
    refine readCharacter_plain noBackslash noQuote ?_ rest
    rw [lineTerminators, List.mem_append, List.mem_cons, List.mem_singleton]
    exact not_or.2 ⟨not_or.2 ⟨noLineFeed, noCarriageReturn⟩, noSeparator⟩

/-- A separator is written as it is, which no literal goes on with. -/
theorem not_readsCharacters_separator
    {c : Char}
    (separator : c ∈ separators)
    (source : List Char)
    {units : List ℕ}
    {rest : List Char} :
    ¬ ReadsCharacters (literalChar c ++ source) units rest := by
  rw [separators, List.mem_cons, List.mem_singleton] at separator
  rcases separator with rfl | rfl
  · exact not_readsCharacters rfl fun same =>
      absurd (Option.some.inj same : '\u2028' = '"') (by decide)
  · exact not_readsCharacters rfl fun same =>
      absurd (Option.some.inj same : '\u2029' = '"') (by decide)

/-- Characters are read as their units up to the quote, if there is no separator
among them, and not at all otherwise. -/
theorem readsCharacters_literalChars_iff
    {chars rest after : List Char}
    {units : List ℕ} :
    ReadsCharacters (chars.flatMap literalChar ++ '"' :: rest) units after ↔
      (∀ c ∈ chars, c ∉ separators) ∧ units = chars.flatMap codeUnits ∧
        after = rest := by
  induction chars generalizing units with
  | nil =>
      constructor
      · rintro (- | ⟨read, -⟩)
        · exact ⟨List.forall_mem_nil _, rfl, rfl⟩
        · cases read
      · rintro ⟨-, rfl, rfl⟩
        exact .quote
  | cons c chars hypothesis =>
      rw [List.flatMap_cons, List.append_assoc, List.forall_mem_cons,
        List.flatMap_cons]
      by_cases separator : c ∈ separators
      · exact iff_of_false (not_readsCharacters_separator separator _)
          fun written => written.1.1 separator
      · rw [readsCharacters_iff_of_readCharacter
          (readCharacter_literalChar separator _)]
        constructor
        · rintro ⟨others, rfl, reads⟩
          obtain ⟨noSeparator, rfl, rfl⟩ := hypothesis.1 reads
          exact ⟨⟨separator, noSeparator⟩, rfl, rfl⟩
        · rintro ⟨⟨-, noSeparator⟩, rfl, rfl⟩
          exact ⟨_, rfl, hypothesis.2 ⟨noSeparator, rfl, rfl⟩⟩

/-- A string literal is read as its text and ends where it was written to end,
if there is no separator in the text, and is no string literal otherwise. -/
theorem reads_literal_iff
    {text : String}
    {rest after : List Char}
    {units : List ℕ} :
    Reads ((literal text).toList ++ rest) units after ↔
      (∀ c ∈ text.toList, c ∉ separators) ∧ units = textUnits text ∧
        after = rest := by
  have written : (literal text).toList ++ rest =
      '"' :: (text.toList.flatMap literalChar ++ '"' :: rest) := by
    rw [literal, String.toList_ofList, literalChars, List.cons_append,
      List.append_assoc]
    rfl
  rw [written, textUnits, ← readsCharacters_literalChars_iff]
  constructor
  · rintro ⟨_, same, reads⟩
    cases same
    exact reads
  · exact fun reads => ⟨_, rfl, reads⟩

end Written
end StringLiteral
end ClassLowering
