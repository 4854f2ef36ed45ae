import ClassLowering.Proofs.Outline.CharacterRanges
import ClassLowering.Proofs.Outline.Texts
import ClassLowering.Proofs.Runs.Programs

/-!
# Identifier names

The language standard has its own identifier names, and not every text that may
be written after a point is one of them. A text that is an identifier by the
wider class is a name just if it does not start with a combining mark, and has
no circled letter and no numeral that is neither a digit nor a letter.

The field of such a key is assigned after a point, and the assignment is one of
the standard just if the key is a name. All other texts are written in brackets.
-/

namespace ClassLowering
namespace CharacterClass

/-- Whether a character may start an identifier name of the standard. -/
def startsName (c : Char) : Bool :=
  c = '$' || c = '_' || inRanges nameStartRanges c.toNat

/-- Whether a character may follow in an identifier name of the standard. The
two joiners may. -/
def continuesName (c : Char) : Bool :=
  startsName c || inRanges namePartRanges c.toNat || c = '\u200c' ||
    c = '\u200d'

/-- Whether a text is an identifier name of the standard, without escapes. -/
def isIdentifierName (text : String) : Bool :=
  match text.toList with
  | [] => false
  | first :: rest => startsName first && rest.all continuesName

/-- Whether a character is a letter that no name starts with, an alphabetic
combining mark. -/
def isMark (c : Char) : Bool := inRanges markRanges c.toNat

/-- Whether a character is a letter or numeral that is in no name. -/
def isOutsideNames (c : Char) : Bool :=
  inRanges symbolRanges c.toNat || inRanges otherNumeralRanges c.toNat

section Characters

variable {c : Char}

/-- No mark is in ASCII. -/
theorem isMark_eq_false_of_ascii
    (ascii : c.toNat < 128) :
    isMark c = false := by
  obtain ⟨-, marks, -⟩ := areIncreasing_tables
  exact inRanges_eq_false_of_le 127 (by decide) marks (Nat.le_of_lt_succ ascii)

/-- Nothing in ASCII is a letter or numeral that is in no name. -/
theorem isOutsideNames_eq_false_of_ascii
    (ascii : c.toNat < 128) :
    isOutsideNames c = false := by
  obtain ⟨-, -, symbols, numerals⟩ := areIncreasing_tables
  exact Bool.or_eq_false_iff.2
    ⟨inRanges_eq_false_of_le 127 (by decide) symbols (Nat.le_of_lt_succ ascii),
      inRanges_eq_false_of_le 127 (by decide) numerals
        (Nat.le_of_lt_succ ascii)⟩

/-- In front of the digits only the dollar sign is in names. -/
theorem continuesName_eq_false
    (front : c.toNat < 48 ∧ c ≠ '$') :
    continuesName c = false := by
  obtain ⟨front, other⟩ := front
  obtain ⟨⟨-, starts, parts⟩, -⟩ := areIncreasing_tables
  have noStart := inRanges_eq_false_of_le 47 (by decide) starts
    (Nat.le_of_lt_succ front)
  have noPart := inRanges_eq_false_of_le 47 (by decide) parts
    (Nat.le_of_lt_succ front)
  have behind : ∀ later : Char, 48 ≤ later.toNat -> c ≠ later := by
    rintro _ late rfl
    omega
  simp [continuesName, startsName, noStart, noPart, other, behind]

/-- What is outside of names may not follow in them. -/
theorem not_isOutsideNames
    (continues : continuesName c = true) :
    isOutsideNames c = false := by
  refine Bool.eq_false_iff.2 fun outside => ?_
  have noPart := not_namePart_of_outside ((Bool.or_eq_true _ _).mp outside)
  rw [continuesName, startsName] at continues
  simp only [Bool.or_eq_true, decide_eq_true_eq] at continues
  rcases continues with ((((rfl | rfl) | starts) | part) | rfl) | rfl
  · exact absurd outside (by simp [isOutsideNames_eq_false_of_ascii])
  · exact absurd outside (by simp [isOutsideNames_eq_false_of_ascii])
  · exact noPart (namePart_of_nameStart starts)
  · exact noPart part
  · exact absurd outside (by decide +kernel)
  · exact absurd outside (by decide +kernel)

/-- No mark starts a name. -/
theorem not_isMark (starts : startsName c = true) : isMark c = false := by
  refine Bool.eq_false_iff.2 fun mark => ?_
  rw [startsName] at starts
  simp only [Bool.or_eq_true, decide_eq_true_eq] at starts
  rcases starts with (rfl | rfl) | starts
  · exact absurd mark (by simp [isMark_eq_false_of_ascii])
  · exact absurd mark (by simp [isMark_eq_false_of_ascii])
  · exact not_nameStart_of_mark mark starts

/-- What starts names may follow in them. -/
theorem continuesName_of_startsName
    (starts : startsName c = true) :
    continuesName c = true := by
  rw [continuesName, starts]
  rfl

/-- A letter that is no mark and not outside of names starts names. -/
theorem startsName_iff (starts : startsIdentifier c = true) :
    startsName c = true ↔ isMark c = false ∧ isOutsideNames c = false := by
  constructor
  · exact fun isStart => ⟨not_isMark isStart,
      not_isOutsideNames (continuesName_of_startsName isStart)⟩
  · rintro ⟨noMark, inside⟩
    rw [isOutsideNames, Bool.or_eq_false_iff] at inside
    rw [startsIdentifier] at starts
    simp only [Bool.or_eq_true, decide_eq_true_eq] at starts
    rw [startsName]
    simp only [Bool.or_eq_true, decide_eq_true_eq]
    rcases starts with (underscore | dollar) | letter
    · exact .inl (.inr underscore)
    · exact .inl (.inl dollar)
    · rcases inRanges_of_letter letter with isStart | mark | symbol
      · exact .inr isStart
      · exact absurd (noMark.symm.trans mark) Bool.false_ne_true
      · exact absurd (inside.1.symm.trans symbol) Bool.false_ne_true

/-- A letter or numeral that is not outside of names may follow in them. -/
theorem continuesName_iff (continues : continuesIdentifier c = true) :
    continuesName c = true ↔ isOutsideNames c = false := by
  refine ⟨not_isOutsideNames, fun inside => ?_⟩
  have part : isMark c = true ∨ startsName c = true ∨
      inRanges namePartRanges c.toNat = true := by
    rw [continuesIdentifier, Bool.or_eq_true] at continues
    rcases continues with starts | numeral
    · cases mark : isMark c with
      | true => exact .inl rfl
      | false => exact .inr (.inl ((startsName_iff starts).2 ⟨mark, inside⟩))
    · rw [isOutsideNames, Bool.or_eq_false_iff] at inside
      rcases inRanges_of_numeral numeral with part | other
      · exact .inr (.inr part)
      · exact absurd (inside.2.symm.trans other) Bool.false_ne_true
  rcases part with mark | starts | part
  · simp [continuesName, namePart_of_mark mark]
  · exact continuesName_of_startsName starts
  · simp [continuesName, part]

end Characters

section Texts

variable {text : String}

/-- Whether a text has only ASCII characters. -/
def isAscii (text : String) : Bool := text.toList.all fun c => c.toNat < 128

/-- A text does not start with a mark and has nothing outside of names. -/
def IsRegular (text : String) : Prop :=
  (∀ first, text.toList.head? = some first -> isMark first = false) ∧
    ∀ c ∈ text.toList, isOutsideNames c = false

/-- An identifier is a name just if it is regular. -/
theorem isIdentifierName_iff (identifier : isIdentifier text = true) :
    isIdentifierName text = true ↔ IsRegular text := by
  rw [isIdentifier] at identifier
  rw [isIdentifierName, IsRegular]
  cases written : text.toList with
  | nil =>
      rw [written] at identifier
      cases identifier
  | cons first rest =>
      rw [written, Bool.and_eq_true, List.all_eq_true] at identifier
      obtain ⟨starts, continues⟩ := identifier
      have others : (∀ c ∈ rest, continuesName c = true) ↔
          ∀ c ∈ rest, isOutsideNames c = false :=
        forall₂_congr fun c present => continuesName_iff (continues c present)
      rw [Bool.and_eq_true, startsName_iff starts, List.all_eq_true, others,
        List.forall_mem_cons]
      constructor
      · rintro ⟨⟨noMark, inside⟩, further⟩
        refine ⟨?_, inside, further⟩
        rintro _ ⟨⟩
        exact noMark
      · rintro ⟨noMark, inside, further⟩
        exact ⟨⟨noMark first rfl, inside⟩, further⟩

/-- A text of ASCII characters is regular. -/
theorem isRegular_of_ascii (ascii : isAscii text = true) : IsRegular text := by
  have small : ∀ c ∈ text.toList, c.toNat < 128 := fun c present =>
    of_decide_eq_true (List.all_eq_true.1 ascii c present)
  exact ⟨fun first starts =>
    isMark_eq_false_of_ascii (small first (List.mem_of_head? starts)),
    fun c present => isOutsideNames_eq_false_of_ascii (small c present)⟩

/-- All characters of a name may follow in one. -/
theorem continues_of_isIdentifierName (name : isIdentifierName text = true) :
    ∀ c ∈ text.toList, continuesName c = true := by
  rw [isIdentifierName] at name
  cases written : text.toList with
  | nil => exact List.forall_mem_nil _
  | cons first rest =>
      rw [written, Bool.and_eq_true, List.all_eq_true] at name
      exact List.forall_mem_cons.2 ⟨continuesName_of_startsName name.1, name.2⟩

/-- A name lacks what may not follow in one. -/
theorem notMem_of_isIdentifierName
    {c : Char}
    (name : isIdentifierName text = true)
    (stops : continuesName c = false) :
    c ∉ text.toList := fun present =>
  absurd (stops.symm.trans (continues_of_isIdentifierName name c present))
    Bool.false_ne_true

end Texts
end CharacterClass

namespace FunctionForm

open CharacterClass

/-- What a field is assigned. -/
def fieldValue (hasInitializer : Bool) : String :=
  if hasInitializer then "(function () \x7b [native code] \x7d).call(this)"
    else "void 0"

/-- An assignment of a field to a name of the standard, which is written
after a point. -/
def IsPointAssignment (code : String) : Prop :=
  ∃ name hasInitializer, isIdentifierName name = true ∧
    code = "this." ++ name ++ " = " ++ fieldValue hasInitializer ++ ";"

section Fields

variable {field : FieldOutline} {text : String}

/-- The field of a key that is no identifier is assigned by a string
literal in brackets. -/
theorem code_fieldLine_of_bracket
    (key : field.key = .ofText text)
    (noIdentifier : isIdentifier text = false)
    (temporaries : Temporaries) :
    (fieldLine temporaries field).code =
      "this[" ++ literal text ++ "] = " ++
        fieldValue field.hasInitializer ++ ";" := by
  have access : memberAccess temporaries field.key = "[" ++
      literal text ++ "]" := by
    rw [key, memberAccess, PropertyKey.isIdentifier, noIdentifier,
      if_neg Bool.false_ne_true, keyExpression]
  have opening : "this[" = "this" ++ "[" := rfl
  have closing : "] = " = "]" ++ " = " := rfl
  rw [fieldLine, access, ← fieldValue, opening, closing]
  simp only [String.append_assoc]

/-- The field of a key that is an identifier is assigned by its text
after a point. -/
theorem code_fieldLine_of_point
    (key : field.key = .ofText text)
    (identifier : isIdentifier text = true)
    (temporaries : Temporaries) :
    (fieldLine temporaries field).code =
      "this." ++ text ++ " = " ++ fieldValue field.hasInitializer ++ ";" := by
  have access : memberAccess temporaries field.key = "." ++ text := by
    rw [key, memberAccess, PropertyKey.isIdentifier, if_pos identifier]
  have opening : "this." = "this" ++ "." := rfl
  rw [fieldLine, access, ← fieldValue, opening]
  simp only [String.append_assoc]

/-- An identifier after a point is assigned as a name just if it is one. -/
theorem isPointAssignment_iff
    (identifier : isIdentifier text = true)
    (hasInitializer : Bool) :
    IsPointAssignment
      ("this." ++ text ++ " = " ++ fieldValue hasInitializer ++ ";") ↔
      isIdentifierName text = true := by
  constructor
  · rintro ⟨name, otherInitializer, isName, same⟩
    -- Neither of the two has a space, so both end where the first space is.
    replace same := congrArg String.toList same
    simp only [String.toList_append, List.append_assoc] at same
    obtain ⟨texts, -⟩ := append_stop_inj
      (notMem_of_isIdentifier identifier (by decide))
      (notMem_of_isIdentifierName isName (continuesName_eq_false (by decide)))
      (List.append_cancel_left same)
    rwa [String.toList_injective texts]
  · exact fun isName => ⟨text, hasInitializer, isName, rfl⟩

end Fields

/-- The lines of the fields are in the function form. -/
theorem fieldLine_mem
    {outline : ClassOutline}
    {field : FieldOutline}
    (declared : field ∈ outline.fields) :
    fieldLine outline.temporaries field ∈ outline.functionFormLines := by
  have inConstructor : fieldLine outline.temporaries field ∈
      constructorLines outline.temporaries outline.renderedName outline :=
    List.mem_append_left _
      (List.mem_append_right _ (List.mem_map_of_mem declared))
  exact List.mem_append_left _
    (List.mem_append_left _ (List.mem_append_right _ inConstructor))

end FunctionForm

open FunctionForm CharacterClass in
/-- An identifier is a name of the standard just if it is regular. In the
function form of every class, a field whose key is an identifier is assigned
after a point, and the assignment is one to a name just if the key is regular. A
field of any other text is assigned by a literal in brackets. -/
theorem fieldLines_of_functionForm (outline : ClassOutline) :
    (∀ text, (PropertyKey.ofText text).isIdentifier = true ->
      (isIdentifierName text = true ↔ IsRegular text)) ∧
    ∀ field ∈ outline.fields, ∀ text, field.key = .ofText text ->
      let line := fieldLine outline.temporaries field
      let value := fieldValue field.hasInitializer
      line ∈ outline.functionFormLines ∧
        (field.key.isIdentifier = true ->
          line.code = "this." ++ text ++ " = " ++ value ++ ";" ∧
            (IsPointAssignment line.code ↔ IsRegular text)) ∧
        (field.key.isIdentifier = false ->
          line.code = "this[" ++ literal text ++ "] = " ++ value ++ ";") := by
  refine ⟨fun text identifier => isIdentifierName_iff identifier, ?_⟩
  intro field declared text key line value
  refine ⟨fieldLine_mem declared, fun identifier => ?_, fun noIdentifier => ?_⟩
  · rw [key] at identifier
    have code := code_fieldLine_of_point key identifier outline.temporaries
    refine ⟨code, ?_⟩
    rw [code, isPointAssignment_iff identifier, isIdentifierName_iff identifier]
  · rw [key] at noIdentifier
    exact code_fieldLine_of_bracket key noIdentifier outline.temporaries

/-- A class with a field whose key is a word, and one whose key is two. -/
def wordsOutline : ClassOutline :=
  ⟨"C", none, [], [⟨.ofText "größe", false⟩, ⟨.ofText "zwei Worte", true⟩],
    [⟨.constructor, .constructor, .ofMethod⟩]⟩

open FunctionForm CharacterClass in
/-- The word is written after a point and is a name, and the two words are
written in brackets. -/
theorem fieldLines_of_wordsOutline :
    (isIdentifier "größe" = true ∧ IsRegular "größe" ∧
      isIdentifierName "größe" = true ∧
      IsPointAssignment
        (fieldLine wordsOutline.temporaries ⟨.ofText "größe", false⟩).code) ∧
    isIdentifier "zwei Worte" = false ∧
      (fieldLine wordsOutline.temporaries ⟨.ofText "zwei Worte", true⟩).code =
        "this[" ++ literal "zwei Worte" ++ "] = " ++
          fieldValue true ++ ";" := by
  have identifier : isIdentifier "größe" = true := by decide +kernel
  have noIdentifier : isIdentifier "zwei Worte" = false := by decide +kernel
  have regular : IsRegular "größe" := by
    have inside :
        "größe".toList.all (fun c => isOutsideNames c = false) = true := by
      decide +kernel
    refine ⟨?_, fun c present =>
      of_decide_eq_true (List.all_eq_true.1 inside c present)⟩
    rintro _ ⟨⟩
    exact isMark_eq_false_of_ascii (by decide)
  obtain ⟨names, fields⟩ := fieldLines_of_functionForm wordsOutline
  obtain ⟨-, word, -⟩ := fields ⟨.ofText "größe", false⟩ (by decide) _ rfl
  obtain ⟨-, -, words⟩ := fields ⟨.ofText "zwei Worte", true⟩ (by decide) _ rfl
  exact ⟨⟨identifier, regular, (names "größe" identifier).2 regular,
    (word identifier).2.2 regular⟩, noIdentifier, words noIdentifier⟩

/-- A class with a field whose key has a superscript digit. -/
def squaringSteps : List Step :=
  [.evaluate (.klass {
    blueprint := {
      name := some "C"
      scope := none
      body := {
        members := [⟨.field, .literal (.text "a²"), false, none, [], 0⟩]
        constructor := none } }
    binding := .expression
    limits := .standard }) none]

open FunctionForm CharacterClass in
/-- The key is written after a point and is no name. -/
theorem not_isPointAssignment_of_squaringSteps :
    let now := Program.endState (callUntil (fun _ => false) 0)
      Program.initialState squaringSteps
    let outline := now.heap.classOutline ⟨0⟩
    (now.heap.Holds (.klass ⟨0⟩) ∧
      ⟨2, "this.a² = void 0;"⟩ ∈ outline.functionFormLines) ∧
      (PropertyKey.ofText "a²").isIdentifier = true ∧
        isIdentifierName "a²" = false ∧
        ¬ IsPointAssignment "this.a² = void 0;" := by
  have identifier : isIdentifier "a²" = true := by decide +kernel
  have noName : isIdentifierName "a²" = false := by decide +kernel
  have assignment := isPointAssignment_iff identifier false
  refine ⟨?_, identifier, noName, ?_⟩
  · show 0 < Store.size _ ∧ _
    decide +kernel
  · intro assigned
    exact Bool.false_ne_true (noName.symm.trans (assignment.1 assigned))

end ClassLowering
