import ClassLowering.Outline.FunctionForm
import ClassLowering.Proofs.Outline.CharacterRanges
import Mathlib.Data.List.Basic

/-!
# Texts that can be taken apart

What a printer writes one after another can be told apart again where the first
part ends at a character that it lacks, or where its end can be read off from
its start. Identifiers lack all punctuation, and indentation ends where the code
starts. String literals end at their first quote that no backslash escapes, so
that a literal is read back from whatever follows.
-/

namespace ClassLowering

/-- Two lists that go on behind the first place of an element are equal before
and behind it. -/
theorem append_stop_inj
    {α : Type}
    {stop : α}
    {left right rest other : List α}
    (lacksLeft : stop ∉ left)
    (lacksRight : stop ∉ right)
    (same : left ++ stop :: rest = right ++ stop :: other) :
    left = right ∧ rest = other := by
  induction left generalizing right with
  | nil =>
      cases right with
      | nil => exact ⟨rfl, List.tail_eq_of_cons_eq same⟩
      | cons first later =>
          obtain ⟨rfl, -⟩ := List.cons.inj same
          exact absurd List.mem_cons_self lacksRight
  | cons first later hypothesis =>
      cases right with
      | nil =>
          obtain ⟨rfl, -⟩ := List.cons.inj same
          exact absurd List.mem_cons_self lacksLeft
      | cons otherFirst otherLater =>
          obtain ⟨rfl, behind⟩ := List.cons.inj same
          obtain ⟨rfl, rfl⟩ := hypothesis
            (fun present => lacksLeft (List.mem_cons_of_mem _ present))
            (fun present => lacksRight (List.mem_cons_of_mem _ present)) behind
          exact ⟨rfl, rfl⟩

/-- Spaces in front of two lists that do not start with a space can be
counted. -/
theorem replicate_append_inj
    {α : Type}
    {space : α}
    {left right : Nat}
    {rest other : List α}
    (restStarts : rest.head? ≠ some space)
    (otherStarts : other.head? ≠ some space)
    (same : List.replicate left space ++ rest =
      List.replicate right space ++ other) :
    left = right ∧ rest = other := by
  induction left generalizing right with
  | zero =>
      cases right with
      | zero => exact ⟨rfl, same⟩
      | succ right => exact absurd (congrArg List.head? same) restStarts
  | succ left hypothesis =>
      cases right with
      | zero => exact absurd (congrArg List.head? same.symm) otherStarts
      | succ right =>
          obtain ⟨rfl, rfl⟩ := hypothesis (List.cons.inj same).2
          exact ⟨rfl, rfl⟩

namespace CharacterClass

/-- In front of the digits only the dollar sign may follow in an identifier. -/
theorem continuesIdentifier_eq_false
    {c : Char}
    (front : c.toNat < 48 ∧ c ≠ '$') :
    continuesIdentifier c = false := by
  obtain ⟨front, other⟩ := front
  obtain ⟨⟨⟨letters, numerals⟩, -⟩, -⟩ := areIncreasing_tables
  have noLetter : isLetter c = false :=
    inRanges_eq_false_of_le 47 (by decide) letters (Nat.le_of_lt_succ front)
  have noNumeral : isNumeral c = false :=
    inRanges_eq_false_of_le 47 (by decide) numerals (Nat.le_of_lt_succ front)
  have noLine : c ≠ '_' := by
    rintro rfl
    exact absurd front (by decide)
  simp [continuesIdentifier, startsIdentifier, noLetter, noNumeral,
    other, noLine]

/-- All characters of an identifier may follow in one. -/
theorem continues_of_isIdentifier
    {text : String}
    (identifier : isIdentifier text = true) :
    ∀ c ∈ text.toList, continuesIdentifier c = true := by
  rw [isIdentifier] at identifier
  cases written : text.toList with
  | nil => exact fun _ inNil => absurd inNil List.not_mem_nil
  | cons first rest =>
      rw [written, Bool.and_eq_true, List.all_eq_true] at identifier
      refine List.forall_mem_cons.2 ⟨?_, identifier.2⟩
      rw [continuesIdentifier, identifier.1, Bool.true_or]

/-- An identifier has nothing in front of the digits but the dollar sign, and so
no punctuation. -/
theorem notMem_of_isIdentifier
    {text : String}
    {c : Char}
    (identifier : isIdentifier text = true)
    (front : c.toNat < 48 ∧ c ≠ '$') :
    c ∉ text.toList :=
  fun present => absurd (continues_of_isIdentifier identifier c present)
    (by simp [continuesIdentifier_eq_false front])

/-- An identifier has a character. -/
theorem toList_ne_nil_of_isIdentifier
    {text : String}
    (identifier : isIdentifier text = true) :
    text.toList ≠ [] := by
  intro empty
  rw [isIdentifier, empty] at identifier
  cases identifier

end CharacterClass

/-- Joined texts lack a character that the separator and all of them lack. -/
theorem notMem_intercalate
    {c : Char}
    {separator : String}
    {items : List String}
    (inSeparator : c ∉ separator.toList)
    (inItems : ∀ item ∈ items, c ∉ item.toList) :
    c ∉ (separator.intercalate items).toList := by
  rw [String.toList_intercalate]
  induction items with
  | nil => simp
  | cons first rest hypothesis =>
      obtain ⟨inFirst, inRest⟩ := List.forall_mem_cons.1 inItems
      cases rest with
      | nil => simpa using inFirst
      | cons second rest =>
          simp only [List.map_cons, List.intercalate_cons_cons,
            List.mem_append, not_or]
          exact ⟨⟨inFirst, inSeparator⟩, hypothesis inRest⟩

/-- Items that lack the separator, and are not empty, can be told apart when
they are joined. -/
theorem intercalate_inj
    {α : Type}
    {separator : α}
    {padding : List α}
    {items others : List (List α)}
    (parts : ∀ item ∈ items, separator ∉ item ∧ item ≠ [])
    (otherParts : ∀ item ∈ others, separator ∉ item ∧ item ≠ [])
    (same : (separator :: padding).intercalate items =
      (separator :: padding).intercalate others) :
    items = others := by
  induction items generalizing others with
  | nil =>
      rcases others with - | ⟨first, - | ⟨second, rest⟩⟩
      · rfl
      · simpa using (otherParts first List.mem_cons_self).2
          (by simpa using same.symm)
      · simp [List.intercalate_cons_cons] at same
  | cons item items hypothesis =>
      obtain ⟨⟨lacks, some⟩, further⟩ := List.forall_mem_cons.1 parts
      rcases others with - | ⟨other, others⟩
      · cases items with
        | nil => exact absurd (by simpa using same) some
        | cons second rest => simp [List.intercalate_cons_cons] at same
      · obtain ⟨⟨otherLacks, -⟩, otherFurther⟩ :=
          List.forall_mem_cons.1 otherParts
        -- One of two lists that go on has the separator behind its first item.
        rcases items with - | ⟨second, rest⟩ <;> rcases others
          with - | ⟨otherSecond, otherRest⟩
        · simpa using same
        · refine absurd ?_ lacks
          rw [List.intercalate_singleton, List.intercalate_cons_cons] at same
          simp [same]
        · refine absurd ?_ otherLacks
          rw [List.intercalate_singleton, List.intercalate_cons_cons] at same
          simp [← same]
        · rw [List.intercalate_cons_cons, List.intercalate_cons_cons,
            List.append_assoc, List.append_assoc, List.cons_append,
            List.cons_append] at same
          obtain ⟨rfl, behind⟩ := append_stop_inj lacks otherLacks same
          rw [hypothesis further otherFurther (List.append_cancel_left behind)]

namespace FunctionForm

/-- The value of an upper-case hexadecimal digit. -/
def upperHexValue (c : Char) : Nat :=
  if c.toNat < 65 then c.toNat - 48 else c.toNat - 55

/-- Read one character of a string literal, and what follows it. -/
def readLiteralChar : List Char -> Option (Char × List Char)
  | '\\' :: 'n' :: rest => some ('\n', rest)
  | '\\' :: 'r' :: rest => some ('\r', rest)
  | '\\' :: 't' :: rest => some ('\t', rest)
  | '\\' :: 'u' :: '0' :: '0' :: high :: low :: rest =>
      some (Char.ofNat (16 * upperHexValue high + upperHexValue low), rest)
  | '\\' :: c :: rest => some (c, rest)
  | '"' :: _ => none
  | c :: rest => some (c, rest)
  | [] => none

/-- The two digits of a control character stand for it. -/
theorem upperHexValue_upperHexDigit {code : Nat} (small : code < 128) :
    16 * upperHexValue (upperHexDigit (code / 16)) +
      upperHexValue (upperHexDigit code) = code := by
  revert code
  decide +kernel

/-- What is written for a character is read back as the character. -/
theorem readLiteralChar_append (c : Char) (rest : List Char) :
    readLiteralChar (literalChar c ++ rest) = some (c, rest) := by
  rw [literalChar]
  split
  next quote => subst quote; rfl
  next noQuote =>
  split
  next backslash => subst backslash; rfl
  next noBackslash =>
  split
  next lineEnd => subst lineEnd; rfl
  next =>
  split
  next returns => subst returns; rfl
  next =>
  split
  next tabulator => subst tabulator; rfl
  next =>
  split
  next control =>
    have small : c.toNat < 128 := by
      rw [Bool.or_eq_true, decide_eq_true_eq, decide_eq_true_eq] at control
      omega
    show some (Char.ofNat (16 * _ + _), rest) = _
    rw [upperHexValue_upperHexDigit small, Char.ofNat_toNat]
  next =>
    rw [List.singleton_append, readLiteralChar.eq_def]
    split <;> simp_all

/-- A string literal ends at the same place for every reader. -/
theorem literalChars_append_inj
    {left right : String}
    {rest other : List Char}
    (same : literalChars left ++ '"' :: rest = literalChars right ++
      '"' :: other) :
    left = right ∧ rest = other := by
  suffices read : ∀ {left right : List Char},
      left.flatMap literalChar ++ '"' :: rest =
      right.flatMap literalChar ++ '"' :: other -> left = right ∧
        rest = other from
    ⟨String.toList_injective (read same).1, (read same).2⟩
  clear same left right
  intro left right same
  have ends : ∀ tail, readLiteralChar ('"' :: tail) = none := fun _ => rfl
  induction left generalizing right with
  | nil =>
      cases right with
      | nil => exact ⟨rfl, (List.cons.inj same).2⟩
      | cons c others =>
          have reads := congrArg readLiteralChar same
          rw [List.flatMap_cons, List.append_assoc,
            readLiteralChar_append] at reads
          cases reads
  | cons c chars hypothesis =>
      have reads := congrArg readLiteralChar same
      rw [List.flatMap_cons, List.append_assoc, readLiteralChar_append] at reads
      cases right with
      | nil => cases reads
      | cons d others =>
          rw [List.flatMap_cons, List.append_assoc,
            readLiteralChar_append] at reads
          obtain ⟨rfl, behind⟩ := Prod.mk.inj (Option.some.inj reads)
          obtain ⟨rfl, rfl⟩ := hypothesis behind
          exact ⟨rfl, rfl⟩

/-- A digit is no line end. -/
theorem upperHexDigit_ne_lineEnd (n : Nat) : upperHexDigit n ≠ '\n' := by
  have digits : ∀ digit < 16, upperHexDigit digit ≠ '\n' := by decide +kernel
  have same : upperHexDigit n = upperHexDigit (n % 16) := by
    rw [upperHexDigit, upperHexDigit, Nat.mod_mod]
  rw [same]
  exact digits _ (Nat.mod_lt n (by omega))

/-- A string literal stays on its line. -/
theorem lineEnd_notMem_literalChars
    (text : String) :
    '\n' ∉ literalChars text := by
  rw [literalChars, List.mem_flatMap]
  rintro ⟨c, -, present⟩
  have high := upperHexDigit_ne_lineEnd (c.toNat / 16)
  have low := upperHexDigit_ne_lineEnd c.toNat
  rw [literalChar] at present
  split_ifs at present with quote backslash lineEnd returns tabulator control
  case neg => exact lineEnd (List.mem_singleton.1 present).symm
  all_goals simp [high.symm, low.symm] at present

end FunctionForm
end ClassLowering
