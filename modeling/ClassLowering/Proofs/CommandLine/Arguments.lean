import ClassLowering.CommandLine
import Mathlib.Data.List.TakeWhile

/-!
# Written arguments

The scenario, the output format and the depth are each written in one or two
arguments, in any order. The value of an option follows the option, or is joined
to it. What is written so is what the command line is taken to ask for, for
every depth of 32 bits.
-/

namespace ClassLowering

namespace Selection

/-- The name of a selection. -/
def name : Selection -> String
  | .all => "all"
  | .single scenario => scenario.name

/-- A selection is found by its name. -/
theorem parse?_name
    (selection : Selection) :
    parse? selection.name = some selection := by
  rcases selection with _ | scenario
  · rfl
  · cases scenario <;> decide

/-- The name of a selection does not start like an option. -/
theorem head?_name
    (selection : Selection) :
    selection.name.toList.head? ≠ some '-' := by
  rcases selection with _ | scenario
  · decide
  · cases scenario <;> decide

end Selection

namespace OutputFormat

/-- The name of a format. -/
def name : OutputFormat -> String
  | .text => "text"
  | .json => "json"
  | .functionForm => "es5"

/-- A format is found by its name. -/
theorem parse?_name
    (format : OutputFormat) :
    parse? format.name = some format := by
  cases format <;> decide

/-- The name of a format does not start like an option. -/
theorem head?_name
    (format : OutputFormat) :
    format.name.toList.head? ≠ some '-' := by
  cases format <;> decide

end OutputFormat

namespace Arguments

/-- What does not start with a hyphen does not look like an option. -/
theorem looksLikeOption_of_head?_ne
    {text : String}
    (plain : text.toList.head? ≠ some '-') :
    looksLikeOption text = false := by
  have start : text.startsWith "-" = false := by
    rw [← Bool.not_eq_true, String.startsWith_string_iff]
    rintro ⟨rest, written⟩
    exact plain (by rw [← written]; rfl)
  rw [looksLikeOption, start, Bool.and_false]

/-- The decimal digits of a number are read back. -/
theorem parseDigits?_toDigits (number : Nat) :
    parseDigits? (Nat.toDigits 10 number) = some number := by
  have digits : (Nat.toDigits 10 number).all Char.isDigit = true :=
    List.all_eq_true.2 fun _ present =>
      Nat.isDigit_of_mem_toDigits (by decide) (by decide) present
  have some : Nat.toDigits 10 number ≠ [] :=
    List.ne_nil_of_length_pos Nat.length_toDigits_pos
  have value : Nat.ofDigitChars 10 (Nat.toDigits 10 number) 0 = number :=
    Nat.ofDigitChars_ten_toDigits
  unfold parseDigits?
  split
  · exact absurd ‹_› some
  · rw [if_pos digits]
    exact congrArg _ value

/-- The first digit of a number is no sign. -/
theorem head?_toDigits_ne
    {sign : Char}
    (noDigit : sign.isDigit = false)
    (number : Nat) :
    (Nat.toDigits 10 number).head? ≠ some sign := by
  intro first
  have digit : sign.isDigit = true :=
    Nat.isDigit_of_mem_toDigits (by decide) (by decide)
      (List.mem_of_mem_head? first)
  exact Bool.false_ne_true (noDigit.symm.trans digit)

/-- A depth is read back from its decimal digits. -/
theorem parseDepth?_toString (depth : Depth) :
    parseDepth? (toString depth.toNat) = some depth := by
  have written : (toString depth.toNat).toList = Nat.toDigits 10 depth.toNat :=
    Nat.toList_repr
  have bound : depth.toNat < Nat.pow 2 32 := depth.toNat_lt
  unfold parseDepth?
  rw [written]
  split
  next digits starts =>
    exact absurd (congrArg List.head? starts) (head?_toDigits_ne rfl _)
  next digits starts =>
    exact absurd (congrArg List.head? starts) (head?_toDigits_ne rfl _)
  next =>
    rw [parseDigits?_toDigits, Option.filter_some,
      if_pos (decide_eq_true bound), Option.map_some, UInt32.ofNat_toNat]

/-- The two ways in which an option with a value is written. -/
def optionForms (name value : String) : List (List String) :=
  [["--" ++ name, value], ["--" ++ name ++ "=" ++ value]]

/-- What some arguments give, one after another. Each is given at most once. -/
inductive Give : List String -> Arguments -> Prop
  | nothing : Give [] .none
  | selection {args : List String} {given : Arguments} (selection : Selection) :
      given.selection? = .none -> Give args given ->
        Give (selection.name :: args)
          { given with selection? := some selection }
  | format {args : List String} {given : Arguments} {form : List String}
      (format : OutputFormat) :
      form ∈ optionForms "format" format.name -> given.format? = .none ->
        Give args given ->
        Give (form ++ args) { given with format? := some format }
  | callDepth {args : List String} {given : Arguments} {form : List String}
      (depth : Depth) :
      form ∈ optionForms "max-call-depth" (toString depth.toNat) ->
        given.callDepth? = .none ->
        Give args given -> Give (form ++ args)
          { given with callDepth? := some depth }

section Taking

variable {given more : Arguments} {name value argument : String}

/-- An operand is taken. -/
theorem take_operand
    (plain : argument.toList.head? ≠ some '-')
    (taken : given.takeSelection argument = some more)
    (args : List String) :
    given.take (argument :: args) = more.take args := by
  rw [take]
  split
  case h_7 => rw [taken]
  all_goals
    rename_i starts
    exact absurd (by rw [starts]; rfl) plain

/-- An option and its value are taken together. -/
theorem take_option
    {form : List String}
    (written : form ∈ optionForms name value)
    (named : name.toList ≠ [])
    (single : '=' ∉ name.toList)
    (other : flag? name = .none)
    (plain : value.toList.head? ≠ some '-')
    (taken : given.takeOption name value = some more)
    (args : List String) :
    given.take (form ++ args) = more.take args := by
  have letter : ∀ char ∈ name.toList, decide (char ≠ '=') = true :=
      fun char present =>
    decide_eq_true fun isSign => single (isSign ▸ present)
  obtain ⟨first, rest, letters⟩ := List.exists_cons_of_ne_nil named
  rw [optionForms, List.mem_cons, List.mem_singleton] at written
  rcases written with rfl | rfl
  · have spelled : ("--" ++ name).toList = '-' :: '-' :: first :: rest := by
      rw [String.toList_append, letters]
      rfl
    rw [List.cons_append, List.cons_append, List.nil_append, take, spelled]
    simp only [← letters, List.takeWhile_eq_self_iff.2 letter,
      List.dropWhile_eq_nil_iff.2 letter, String.ofList_toList, other,
      looksLikeOption_of_head?_ne plain, taken, Bool.false_eq_true, if_false]
  · have spelled : ("--" ++ name ++ "=" ++ value).toList =
        '-' :: '-' :: first :: (rest ++ '=' :: value.toList) := by
      simp only [String.toList_append, letters, List.append_assoc]
      rfl
    have joined : first :: (rest ++ '=' :: value.toList) = name.toList ++ '=' ::
        value.toList := by
      rw [letters, List.cons_append]
    have before : (first :: (rest ++ '=' :: value.toList)).takeWhile (· ≠ '=') =
        name.toList := by
      rw [joined, List.takeWhile_append_of_pos letter]
      exact List.append_nil _
    have after : (first :: (rest ++ '=' :: value.toList)).dropWhile (· ≠ '=') =
        '=' :: value.toList := by
      rw [joined]
      exact List.dropWhile_append_of_pos letter
    rw [List.cons_append, List.nil_append, take, spelled]
    simp only [before, after, String.ofList_toList, taken]

/-- Arguments that leave free what others give. -/
structure Apart (before given : Arguments) : Prop where
  selection : before.selection? = .none ∨ given.selection? = .none
  format : before.format? = .none ∨ given.format? = .none
  callDepth : before.callDepth? = .none ∨ given.callDepth? = .none

/-- What is given by one or the other arguments. -/
def merge (before given : Arguments) : Arguments where
  selection? := before.selection?.or given.selection?
  format? := before.format?.or given.format?
  callDepth? := before.callDepth?.or given.callDepth?

end Taking

/-- A selection is taken by its name. -/
theorem take_selection
    {given : Arguments}
    (free : given.selection? = .none)
    (selection : Selection)
    (args : List String) :
    given.take (selection.name :: args) =
      { given with selection? := some selection }.take args := by
  refine take_operand selection.head?_name ?_ args
  simp only [takeSelection, free, selection.parse?_name]

/-- A format is taken by its name. -/
theorem take_format
    {given : Arguments}
    {format : OutputFormat}
    {form : List String}
    (written : form ∈ optionForms "format" format.name)
    (free : given.format? = .none)
    (args : List String) :
    given.take (form ++ args) =
      { given with format? := some format }.take args := by
  refine take_option written (by decide) (by decide)
    (by decide) format.head?_name ?_ args
  simp only [takeOption, if_true, free, format.parse?_name]

/-- A depth is taken by its decimal digits. -/
theorem take_callDepth
    {given : Arguments}
    {depth : Depth}
    {form : List String}
    (written : form ∈ optionForms "max-call-depth" (toString depth.toNat))
    (free : given.callDepth? = .none)
    (args : List String) :
    given.take (form ++ args) =
      { given with callDepth? := some depth }.take args := by
  have digits : (toString depth.toNat).toList.head? ≠ some '-' := by
    rw [show (toString depth.toNat).toList = _ from Nat.toList_repr]
    exact head?_toDigits_ne rfl _
  refine take_option written (by decide) (by decide) (by decide) digits ?_ args
  have other : "max-call-depth" ≠ "format" := by decide
  simp only [takeOption, if_neg other, if_true, free, parseDepth?_toString]

/-- What arguments give is taken, if it is left free by what was taken
before. -/
theorem take_of_give
    {args : List String}
    {given before : Arguments}
    (give : Give args given)
    (apart : before.Apart given) :
    before.take args = (before.merge given).request := by
  induction give generalizing before with
  | nothing => simp [take, merge, none]
  | @selection args given selection free give hypothesis =>
      have vacant : before.selection? = .none :=
        apart.selection.resolve_right nofun
      have rest : Apart { before with selection? := some selection } given :=
        ⟨.inr free, apart.format, apart.callDepth⟩
      rw [take_selection vacant, hypothesis rest]
      rw [merge, merge, vacant, free]
      rfl
  | @format args given form format written free give hypothesis =>
      have vacant : before.format? = .none := apart.format.resolve_right nofun
      have rest : Apart { before with format? := some format } given :=
        ⟨apart.selection, .inr free, apart.callDepth⟩
      rw [take_format written vacant, hypothesis rest]
      rw [merge, merge, vacant, free]
      rfl
  | @callDepth args given form depth written free give hypothesis =>
      have vacant : before.callDepth? = .none :=
        apart.callDepth.resolve_right nofun
      have rest : Apart { before with callDepth? := some depth } given :=
        ⟨apart.selection, apart.format, .inr free⟩
      rw [take_callDepth written vacant, hypothesis rest]
      rw [merge, merge, vacant, free]
      rfl

/-- A command line asks for what its arguments give. -/
theorem take_none_of_give
    {args : List String}
    {given : Arguments}
    (give : Give args given) :
    Arguments.none.take args = given.request := by
  rw [take_of_give give ⟨.inl rfl, .inl rfl, .inl rfl⟩]
  simp only [merge, none, Option.none_or]

end Arguments

end ClassLowering
