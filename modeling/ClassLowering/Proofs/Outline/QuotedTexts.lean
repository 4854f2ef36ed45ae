import ClassLowering.Proofs.Outline.Lines
import ClassLowering.Proofs.Outline.StringLiterals
import ClassLowering.Proofs.Outline.Temporaries
import ClassLowering.Proofs.Runs.Programs

/-!
# The string literals of the function form

The function form writes some texts as string literals: the description of each
symbol that has one, the message of the guard, the keys of fields that are not
written after a point, and the keys of the entries of the prototype that are
defined. The lines are written here a second time as code and quoted texts.

A quoted text is read as what it was, and its literal ends where it was written
to end, just if the text has none of the two separators that end a line.
-/

namespace ClassLowering
namespace FunctionForm

/-- A part of the function form: code, or a text that is written as a
string literal. -/
inductive Fragment
  | code (text : String)
  | quoted (text : String)
  deriving DecidableEq, Repr

namespace Fragment

/-- A fragment as it is written. -/
def text : Fragment -> String
  | .code text => text
  | .quoted text => literal text

@[simp] theorem text_code (text : String) : (code text).text = text := rfl

@[simp] theorem text_quoted
    (text : String) :
    (quoted text).text = literal text := rfl

/-- The text that a fragment quotes. -/
def quoted? : Fragment -> Option String
  | .code _ => none
  | .quoted text => some text

@[simp] theorem quoted?_code (text : String) : (code text).quoted? = none := rfl

@[simp] theorem quoted?_quoted
    (text : String) :
    (quoted text).quoted? = some text := rfl

end Fragment

/-- A line in fragments. -/
structure SplitLine where
  level : Nat
  fragments : List Fragment
  deriving DecidableEq, Repr

namespace SplitLine

/-- A line as it is written. -/
def line (split : SplitLine) : Line :=
  ⟨split.level, String.join (split.fragments.map Fragment.text)⟩

@[simp] theorem line_mk (level : Nat) (fragments : List Fragment) :
    (mk level fragments).line =
      ⟨level, String.join (fragments.map Fragment.text)⟩ := rfl

/-- A line that quotes nothing. -/
def ofLine (line : Line) : SplitLine := ⟨line.level, [.code line.code]⟩

@[simp] theorem line_ofLine (line : Line) : (ofLine line).line = line := by
  cases line
  simp [ofLine]

/-- A line with its indentation and its end. -/
def withEnds (split : SplitLine) : List Fragment :=
  .code (.ofList (List.replicate (4 * split.level) ' ')) ::
    (split.fragments ++ [.code "\n"])

end SplitLine

/-- The declaration of the variable of a symbol. -/
def splitTemporary (named : Symbol × String) : SplitLine :=
  ⟨1, .code ("var " ++ named.2 ++ " = Symbol(") ::
    ((named.1.description.map Fragment.quoted).toList ++ [.code ");"])⟩

/-- A key as an expression. -/
def splitKey (temporaries : Temporaries) : PropertyKey -> Fragment
  | .ofText text => .quoted text
  | .ofSymbol symbol => .code (temporary temporaries symbol)

/-- The access to a member. -/
def splitAccess (temporaries : Temporaries)
    (key : PropertyKey) : List Fragment :=
  if key.isIdentifier then [.code (memberAccess temporaries key)]
  else [.code "[", splitKey temporaries key, .code "]"]

/-- The assignment of a field. -/
def splitField (temporaries : Temporaries) (field : FieldOutline) : SplitLine :=
  ⟨2, .code "this" :: (splitAccess temporaries field.key ++
    [.code
      (" = " ++ (if field.hasInitializer
        then "(function () \x7b [native code] \x7d).call(this)"
        else "void 0") ++ ";")])⟩

/-- The constructor function. -/
def splitConstructor (temporaries : Temporaries) (rendered : String)
    (outline : ClassOutline) :
    List SplitLine :=
  ([⟨1, "function " ++ rendered ++ "(" ++
    ", ".intercalate outline.params ++ ") \x7b"⟩,
    ⟨2, "if (!(this instanceof " ++ rendered ++ ")) \x7b"⟩] : List
      Line).map .ofLine ++
  [⟨3, [.code "throw new TypeError(",
    .quoted (Fault.invocationMessage outline.name),
    .code ");"]⟩, .ofLine ⟨2, "\x7d"⟩] ++
  outline.fields.map (splitField temporaries) ++
  ([⟨2, "[native code]"⟩, ⟨1, "\x7d"⟩] : List Line).map .ofLine

/-- The definition of an entry of the prototype. -/
def splitEntry (temporaries : Temporaries) (rendered : String)
    (member : MemberOutline) : List SplitLine :=
  match descriptionLines member.attributes member.entry with
  | none => []
  | some description =>
      ⟨1, [.code ("Object.defineProperty(" ++ rendered ++ ".prototype, "),
        splitKey temporaries member.key, .code ", \x7b"]⟩ ::
      (description ++
        ([⟨2, "enumerable: " ++ truthText member.attributes.enumerable ++ ","⟩,
          ⟨2, "configurable: " ++ truthText member.attributes.configurable⟩,
          ⟨1, "\x7d);"⟩] : List Line)).map .ofLine

end FunctionForm

namespace ClassOutline

open FunctionForm

/-- The function form of a class in fragments, line by line. -/
def splitLines (outline : ClassOutline) : List SplitLine :=
  let temporaries := outline.temporaries
  let rendered := outline.renderedName
  [.ofLine ⟨0, "var " ++ rendered ++ " = /** @class */ (function () \x7b"⟩] ++
  temporaries.map splitTemporary ++
  splitConstructor temporaries rendered outline ++
  outline.entries.flatMap (splitEntry temporaries rendered) ++
  ([⟨1, "return " ++ rendered ++ ";"⟩, ⟨0, "\x7d());"⟩] : List Line).map .ofLine

/-- The function form of a class in fragments. -/
def fragments (outline : ClassOutline) : List Fragment :=
  outline.splitLines.flatMap SplitLine.withEnds

/-- The texts that the function form of a class quotes, in the order in
which it does. -/
def quotedTexts (outline : ClassOutline) : List String :=
  outline.temporaries.filterMap (fun named => named.1.description) ++
  [Fault.invocationMessage outline.name] ++
  (outline.fields.map FieldOutline.key).filterMap
    (fun key => if key.isIdentifier then none else key.text?) ++
  outline.entries.filterMap
    (fun member => if member.entry = .constructor then none
      else member.key.text?)

end ClassOutline

namespace FunctionForm

section Lines

/-- The declaration of a temporary is written as in the function form. -/
theorem line_splitTemporary (named : Symbol × String) :
    (splitTemporary named).line = temporaryLine named := by
  cases described : named.1.description <;>
    simp [splitTemporary, temporaryLine, described, String.append_assoc]

/-- A key is written as in the function form. -/
theorem text_splitKey (temporaries : Temporaries) (key : PropertyKey) :
    (splitKey temporaries key).text = keyExpression temporaries key := by
  cases key <;> rfl

/-- The access to a member is written as in the function form. -/
theorem join_splitAccess (temporaries : Temporaries) (key : PropertyKey) :
    String.join ((splitAccess temporaries key).map Fragment.text) =
      memberAccess temporaries key := by
  rw [splitAccess]
  split
  next => simp
  next bare =>
    cases key with
    | ofText text =>
        rw [memberAccess, if_neg bare]
        simp [text_splitKey, String.append_assoc]
    | ofSymbol symbol => simp [memberAccess, text_splitKey, String.append_assoc]

/-- The assignment of a field is written as in the function form. -/
theorem line_splitField (temporaries : Temporaries) (field : FieldOutline) :
    (splitField temporaries field).line = fieldLine temporaries field := by
  simp [splitField, fieldLine, join_splitAccess, String.append_assoc]

/-- The definition of an entry is written as in the function form. -/
theorem lines_splitEntry
    (temporaries : Temporaries)
    (rendered : String)
    (member : MemberOutline) :
    (splitEntry temporaries rendered member).map SplitLine.line =
      entryLines temporaries rendered member := by
  rw [splitEntry, entryLines]
  cases descriptionLines member.attributes member.entry with
  | none => rfl
  | some description =>
      simp [Function.comp_def, text_splitKey, String.append_assoc]

/-- The split lines are those of the function form. -/
theorem lines_splitLines (outline : ClassOutline) :
    outline.splitLines.map SplitLine.line = outline.functionFormLines := by
  simp [ClassOutline.splitLines, ClassOutline.functionFormLines,
    splitConstructor, constructorLines, Function.comp_def, line_splitTemporary,
    line_splitField, List.map_flatMap, lines_splitEntry, String.append_assoc]

/-- A line with its ends is written as in the function form. -/
theorem join_withEnds (split : SplitLine) :
    String.join (split.withEnds.map Fragment.text) = split.line.text := by
  simp [SplitLine.withEnds, SplitLine.line, Line.text, String.append_assoc]

/-- The fragments are written one after another as in the function form. -/
theorem join_fragments (outline : ClassOutline) :
    String.join (outline.fragments.map Fragment.text) =
      outline.functionForm := by
  have joined : ∀ lines : List SplitLine,
      String.join ((lines.flatMap SplitLine.withEnds).map Fragment.text) =
        String.join ((lines.map SplitLine.line).map Line.text) := by
    intro lines
    induction lines with
    | nil => rfl
    | cons line rest hypothesis =>
        rw [List.flatMap_cons, List.map_append, String.join_append,
          join_withEnds, hypothesis]
        simp
  rw [ClassOutline.fragments, joined, lines_splitLines,
    ClassOutline.functionForm]

end Lines

section Quoted

/-- The texts that some lines quote. -/
def quotedIn (lines : List SplitLine) : List String :=
  lines.flatMap fun line => line.fragments.filterMap Fragment.quoted?

@[simp] theorem quotedIn_append (lines more : List SplitLine) :
    quotedIn (lines ++ more) = quotedIn lines ++ quotedIn more := by
  simp [quotedIn]

@[simp] theorem quotedIn_cons (line : SplitLine) (lines : List SplitLine) :
    quotedIn (line :: lines) = line.fragments.filterMap Fragment.quoted? ++
      quotedIn lines := by
  simp [quotedIn]

@[simp] theorem quotedIn_nil : quotedIn [] = [] := rfl

/-- A line of code quotes nothing. -/
@[simp] theorem quoted_ofLine (line : Line) :
    (SplitLine.ofLine line).fragments.filterMap Fragment.quoted? = [] := rfl

/-- Lines of code quote nothing. -/
@[simp] theorem quotedIn_ofLine
    (lines : List Line) :
    quotedIn (lines.map .ofLine) = [] := by
  rw [quotedIn, List.flatMap_map]
  exact List.flatMap_eq_nil_iff.2 fun line _ => quoted_ofLine line

/-- The declarations of the temporaries quote descriptions. -/
theorem quotedIn_splitTemporary (temporaries : Temporaries) :
    quotedIn (temporaries.map splitTemporary) =
      temporaries.filterMap fun named => named.1.description := by
  induction temporaries with
  | nil => rfl
  | cons named rest hypothesis =>
      cases described : named.1.description <;>
        simp [hypothesis, splitTemporary, described, List.filterMap_cons]

/-- The assignments of fields quote the keys that are not written after a
point. -/
theorem quotedIn_splitField
    (temporaries : Temporaries)
    (fields : List FieldOutline) :
    quotedIn (fields.map (splitField temporaries)) =
      (fields.map FieldOutline.key).filterMap
        fun key => if key.isIdentifier then none else key.text? := by
  induction fields with
  | nil => rfl
  | cons field rest hypothesis =>
      rw [List.map_cons, quotedIn_cons, hypothesis]
      cases key : field.key <;> by_cases identifier : field.key.isIdentifier <;>
        simp_all [splitField, splitAccess, splitKey, PropertyKey.text?,
          List.filterMap_cons]

/-- The definitions of entries quote their keys. -/
theorem quotedIn_splitEntry
    (temporaries : Temporaries)
    (rendered : String)
    (members : List MemberOutline) :
    quotedIn (members.flatMap (splitEntry temporaries rendered)) =
      members.filterMap fun member =>
        if member.entry = .constructor then none else member.key.text? := by
  induction members with
  | nil => rfl
  | cons member rest hypothesis =>
      obtain ⟨key, described, attributes⟩ := member
      rw [List.flatMap_cons, quotedIn_append, hypothesis]
      cases described <;> cases key <;>
        simp [splitEntry, descriptionLines, splitKey, PropertyKey.text?,
          List.filterMap_cons]

/-- The fragments quote the texts that they should, in this order. -/
theorem quoted_fragments (outline : ClassOutline) :
    outline.fragments.filterMap Fragment.quoted? = outline.quotedTexts := by
  have ends : outline.fragments.filterMap Fragment.quoted? =
      quotedIn outline.splitLines := by
    rw [ClassOutline.fragments, quotedIn, List.filterMap_flatMap]
    simp [SplitLine.withEnds, List.filterMap_cons]
  rw [ends]
  simp [ClassOutline.splitLines, splitConstructor, ClassOutline.quotedTexts,
    quotedIn_splitTemporary, quotedIn_splitField, quotedIn_splitEntry,
    List.filterMap_cons]

end Quoted

section Code

open CharacterClass

/-- A fragment of code has no quote. -/
def Fragment.LacksQuotes : Fragment -> Prop
  | .code text => '"' ∉ text.toList
  | .quoted _ => True

instance (fragment : Fragment) : Decidable fragment.LacksQuotes :=
  match fragment with
  | .code text => inferInstanceAs (Decidable ('"' ∉ text.toList))
  | .quoted _ => inferInstanceAs (Decidable True)

@[simp] theorem lacksQuotes_code (text : String) :
    (Fragment.code text).LacksQuotes ↔ '"' ∉ text.toList := .rfl

@[simp] theorem lacksQuotes_quoted
    (text : String) :
    (Fragment.quoted text).LacksQuotes := trivial

/-- Lines whose code has no quotes. -/
def LackQuotes (lines : List SplitLine) : Prop :=
  ∀ line ∈ lines, ∀ fragment ∈ line.fragments, fragment.LacksQuotes

/-- Lines of code without quotes have none. -/
theorem lackQuotes_ofLine
    {lines : List Line}
    (lack : ∀ line ∈ lines, '"' ∉ line.code.toList) :
    LackQuotes (lines.map .ofLine) := by
  intro split present fragment part
  obtain ⟨line, among, rfl⟩ := List.mem_map.1 present
  cases List.mem_singleton.1 part
  exact lack line among

/-- The name of a temporary has no quote. -/
theorem quote_notMem_temporaryName
    (index : Nat) :
    '"' ∉ (temporaryName index).toList := by
  have letters : ∀ letter < 26, Char.ofNat ('a'.toNat + letter) ≠ '"' := by
    decide
  have letter := letters (index % 26) (Nat.mod_lt _ (by decide))
  have digits : '"' ∉ if index / 26 = 0 then []
      else Nat.toDigits 10 (index / 26) := by
    split
    next => simp
    next =>
      intro present
      exact absurd (Nat.isDigit_of_mem_toDigits (by decide) (by decide) present)
        (by decide)
  simp only [temporaryName, String.toList_ofList, List.mem_cons, not_or]
  exact ⟨by decide, letter.symm, digits⟩

/-- The names of the temporaries have no quotes. -/
theorem quote_notMem_temporaries
    {outline : ClassOutline}
    {symbol : Symbol}
    {name : String}
    (present : (symbol, name) ∈ outline.temporaries) :
    '"' ∉ name.toList := by
  obtain ⟨indexed, -, same⟩ := List.mem_map.1 present
  cases same
  exact quote_notMem_temporaryName indexed.2

end Code

end FunctionForm

namespace ClassOutline

open FunctionForm CharacterClass

/-- No name of a class has a quote. -/
structure LacksQuotes (outline : ClassOutline) : Prop where
  name : '"' ∉ outline.name.toList
  params : ∀ param ∈ outline.params, '"' ∉ param.toList
  memberParams : ∀ member ∈ outline.entries,
    ∀ function ∈ member.entry.functions,
    ∀ param ∈ function.params, '"' ∉ param.toList

variable {outline : ClassOutline}

/-- A key is written without quotes, apart from those of a literal. -/
theorem lacksQuotes_splitKey
    {key : PropertyKey}
    (present : key ∈ outline.keys) :
    (splitKey outline.temporaries key).LacksQuotes := by
  cases key with
  | ofText text => trivial
  | ofSymbol symbol =>
      obtain ⟨owner, -, named⟩ := ClassOutline.temporary_mem present
      exact (lacksQuotes_code _).2 (quote_notMem_temporaries named)

/-- The assignments of fields have no quotes, apart from those of literals. -/
theorem lackQuotes_fields (outline : ClassOutline) :
    LackQuotes (outline.fields.map (splitField outline.temporaries)) := by
  intro split present
  obtain ⟨field, declared, rfl⟩ := List.mem_map.1 present
  have key : (splitKey outline.temporaries field.key).LacksQuotes :=
    lacksQuotes_splitKey
      (List.mem_append_right _ (List.mem_map_of_mem declared))
  have access : ∀ fragment ∈ splitAccess outline.temporaries field.key,
      fragment.LacksQuotes := by
    rw [splitAccess]
    split
    next identifier =>
      refine List.forall_mem_singleton.2 ?_
      cases named : field.key with
      | ofSymbol symbol =>
          rw [named] at identifier
          cases identifier
      | ofText text =>
          rw [named] at identifier
          rw [lacksQuotes_code, memberAccess, if_pos identifier]
          simp [notMem_of_isIdentifier (c := '"') identifier (by decide)]
    next =>
      exact List.forall_mem_cons.2 ⟨by decide, List.forall_mem_cons.2
        ⟨key, List.forall_mem_singleton.2 (by decide)⟩⟩
  refine List.forall_mem_cons.2 ⟨by decide, List.forall_mem_append.2
    ⟨access, List.forall_mem_singleton.2 ?_⟩⟩
  cases field.hasInitializer <;> decide

/-- One side of an accessor has no quotes. -/
theorem lackQuotes_sideLines
    {label : String}
    {side : Option FunctionOutline}
    (inLabel : '"' ∉ label.toList)
    (lack : ∀ function ∈ side, ∀ param ∈ function.params, '"' ∉ param.toList) :
    ∀ line ∈ sideLines label side, '"' ∉ line.code.toList := by
  cases side with
  | none => exact List.forall_mem_nil _
  | some function =>
      have stub := notMem_functionStub (c := '"') (by decide) false
        (lack function rfl)
      refine List.forall_mem_singleton.2 ?_
      simp only [String.toList_append, List.mem_append, not_or]
      exact ⟨⟨⟨inLabel, by decide⟩, stub⟩, by decide⟩

/-- What an entry is has no quotes. -/
theorem lackQuotes_descriptionLines
    {attributes : Attributes}
    {entry : EntryOutline}
    {description : List Line}
    (described : descriptionLines attributes entry = some description)
    (lack : ∀ function ∈ entry.functions, ∀ param ∈ function.params,
      '"' ∉ param.toList) :
    ∀ line ∈ description, '"' ∉ line.code.toList := by
  have truths : ∀ b, '"' ∉ (truthText b).toList := by decide
  cases entry with
  | constructor => cases described
  | method function =>
      cases described
      have stub := notMem_functionStub (c := '"') (by decide) true
        (lack function List.mem_cons_self)
      refine List.forall_mem_cons.2 ⟨?_, List.forall_mem_singleton.2 ?_⟩
      · simp [stub]
      · simp [truths]
  | accessor getter setter =>
      cases described
      refine List.forall_mem_append.2 ⟨?_, ?_⟩
      · refine lackQuotes_sideLines (by decide) fun function present => ?_
        exact lack function
          (List.mem_append_left _ (Option.mem_toList.2 present))
      · refine lackQuotes_sideLines (by decide) fun function present => ?_
        exact lack function
          (List.mem_append_right _ (Option.mem_toList.2 present))

/-- The name in the function form has no quotes. -/
theorem LacksQuotes.renderedName (lack : outline.LacksQuotes) :
    '"' ∉ outline.renderedName.toList := by
  rw [ClassOutline.renderedName]
  split
  · decide
  · exact lack.name

/-- The definitions of entries have no quotes, apart from those of literals. -/
theorem lackQuotes_entries (lack : outline.LacksQuotes) :
    LackQuotes (outline.entries.flatMap
      (splitEntry outline.temporaries outline.renderedName)) := by
  have truths : ∀ b, '"' ∉ (truthText b).toList := by decide
  have name := lack.renderedName
  intro split present
  obtain ⟨member, declared, present⟩ := List.mem_flatMap.1 present
  have key : (splitKey outline.temporaries member.key).LacksQuotes :=
    lacksQuotes_splitKey (List.mem_append_left _ (List.mem_map_of_mem declared))
  rw [splitEntry] at present
  cases described : descriptionLines member.attributes member.entry with
  | none =>
      rw [described] at present
      cases present
  | some description =>
      rw [described] at present
      have inDescription := lackQuotes_descriptionLines described
        (lack.memberParams member declared)
      rcases List.mem_cons.1 present with rfl | present
      · refine List.forall_mem_cons.2 ⟨?_, List.forall_mem_cons.2
          ⟨key, List.forall_mem_singleton.2 (by decide)⟩⟩
        simp [name]
      · refine lackQuotes_ofLine (List.forall_mem_append.2 ⟨inDescription, ?_⟩)
          split present
        simp [truths]

/-- The declarations of the temporaries have no quotes, apart from those of
literals. -/
theorem lackQuotes_temporaries (outline : ClassOutline) :
    LackQuotes (outline.temporaries.map splitTemporary) := by
  intro split present
  obtain ⟨named, among, rfl⟩ := List.mem_map.1 present
  have name := quote_notMem_temporaries among
  refine List.forall_mem_cons.2 ⟨by simp [name], List.forall_mem_append.2
    ⟨?_, List.forall_mem_singleton.2 (by decide)⟩⟩
  cases named.1.description with
  | none => exact List.forall_mem_nil _
  | some description => exact List.forall_mem_singleton.2 trivial

/-- The constructor function has no quotes, apart from those of literals. -/
theorem lackQuotes_constructor (lack : outline.LacksQuotes) :
    LackQuotes
      (splitConstructor outline.temporaries outline.renderedName outline) := by
  have name := lack.renderedName
  have params : '"' ∉ (", ".intercalate outline.params).toList :=
    notMem_intercalate (by decide) lack.params
  refine List.forall_mem_append.2
    ⟨List.forall_mem_append.2 ⟨List.forall_mem_append.2
      ⟨lackQuotes_ofLine ?_, ?_⟩, lackQuotes_fields outline⟩,
      lackQuotes_ofLine (by decide)⟩
  · refine List.forall_mem_cons.2
      ⟨?_, List.forall_mem_singleton.2 (by simp [name])⟩
    simpa [name] using params
  · exact List.forall_mem_cons.2
      ⟨List.forall_mem_cons.2 ⟨by decide, List.forall_mem_cons.2
        ⟨trivial, List.forall_mem_singleton.2 (by decide)⟩⟩,
        List.forall_mem_singleton.2 (by decide)⟩

/-- The function form has no quotes, apart from those of literals. -/
theorem lackQuotes_splitLines
    (lack : outline.LacksQuotes) :
    LackQuotes outline.splitLines := by
  have name := lack.renderedName
  refine List.forall_mem_append.2
    ⟨List.forall_mem_append.2 ⟨List.forall_mem_append.2
      ⟨List.forall_mem_append.2 ⟨?_, lackQuotes_temporaries outline⟩,
        lackQuotes_constructor lack⟩,
        lackQuotes_entries lack⟩, lackQuotes_ofLine ?_⟩
  · refine List.forall_mem_singleton.2 (List.forall_mem_singleton.2 ?_)
    simp [name]
  · exact List.forall_mem_cons.2
      ⟨by simp [name], List.forall_mem_singleton.2 (by decide)⟩

/-- The code of the function form has no quotes, if no name has. -/
theorem lacksQuotes_fragments (lack : outline.LacksQuotes) :
    ∀ fragment ∈ outline.fragments, fragment.LacksQuotes := by
  intro fragment present
  obtain ⟨split, among, part⟩ := List.mem_flatMap.1 present
  rcases List.mem_cons.1 part with rfl | part
  · simp
  rcases List.mem_append.1 part with part | part
  · exact lackQuotes_splitLines lack split among fragment part
  · cases List.mem_singleton.1 part
    decide

end ClassOutline

open FunctionForm in
/-- The function form of every class is code and the quoted texts of the class,
and its code has no quotes if the names have none. Each quoted text is read as
itself, up to the end of its literal, if it has no separator, and is no string
literal otherwise. -/
theorem quotedTexts_of_functionForm (outline : ClassOutline) :
    outline.functionForm = String.join (outline.fragments.map Fragment.text) ∧
      outline.fragments.filterMap Fragment.quoted? = outline.quotedTexts ∧
      (outline.LacksQuotes -> ∀ fragment ∈ outline.fragments,
        fragment.LacksQuotes) ∧
      Function.Injective StringLiteral.textUnits ∧
      ∀ before text after, outline.fragments = before ++
        .quoted text :: after ->
        let source :=
          (String.join ((.quoted text :: after).map Fragment.text)).toList
        let behind := (String.join (after.map Fragment.text)).toList
        ∀ units rest, StringLiteral.Reads source units rest ↔
          (∀ c ∈ text.toList, c ∉ StringLiteral.separators) ∧
            units = StringLiteral.textUnits text ∧ rest = behind := by
  refine ⟨(join_fragments outline).symm, quoted_fragments outline,
    ClassOutline.lacksQuotes_fragments, StringLiteral.textUnits_injective, ?_⟩
  intro before text after split source behind units rest
  have starts : source = (literal text).toList ++ behind := by
    simp only [source, behind, List.map_cons, String.join_cons,
      String.toList_append, Fragment.text_quoted]
  rw [starts]
  exact StringLiteral.reads_literal_iff

/-- A class with a method whose key has quotes and a line end. -/
def greetingOutline : ClassOutline :=
  ⟨"Odd", none, [], [], [⟨.constructor, .constructor, .ofMethod⟩,
    ⟨.ofText "say \"hi\"\n", .method ⟨"say \"hi\"\n", false, []⟩, .ofMethod⟩]⟩

open FunctionForm in
/-- The key of the greeting is read back, and no quote is outside of the
literals. -/
theorem quotedTexts_of_greetingOutline :
    greetingOutline.LacksQuotes ∧
      (∀ fragment ∈ greetingOutline.fragments, fragment.LacksQuotes) ∧
      ∃ before after, greetingOutline.fragments = before ++
        .quoted "say \"hi\"\n" :: after ∧ StringLiteral.Reads
          (String.join
            ((.quoted "say \"hi\"\n" :: after).map Fragment.text)).toList
          (StringLiteral.textUnits "say \"hi\"\n")
          (String.join (after.map Fragment.text)).toList := by
  obtain ⟨-, -, lacks, -, reads⟩ := quotedTexts_of_functionForm greetingOutline
  have lack : greetingOutline.LacksQuotes := ⟨by decide, by decide, by decide⟩
  have present : Fragment.quoted "say \"hi\"\n" ∈
    greetingOutline.fragments := by decide +kernel
  have free :
      "say \"hi\"\n".toList.all
        (fun c => c ∉ StringLiteral.separators) = true := by
    decide +kernel
  obtain ⟨before, after, split⟩ := List.append_of_mem present
  refine ⟨lack, lacks lack, before, after, split,
    (reads before _ after split _ _).2 ⟨?_, rfl, rfl⟩⟩
  exact fun c inText => of_decide_eq_true (List.all_eq_true.1 free c inText)

/-- A class with a method whose key is the line separator. -/
def separatingSteps : List Step :=
  [.evaluate (.klass {
    blueprint := {
      name := some "C"
      scope := none
      body := {
        members :=
          [⟨.method, .literal (.text "\u2028"), false, some .nothing, [], 0⟩]
        constructor := none } }
    binding := .expression
    limits := .standard }) none]

open FunctionForm in
/-- The key is written between quotes, and no string literal starts there. -/
theorem not_reads_of_separatingSteps :
    let now := Program.endState (callUntil (fun _ => false) 0)
      Program.initialState separatingSteps
    let outline := now.heap.classOutline ⟨0⟩
    now.heap.Holds (.klass ⟨0⟩) ∧ "\u2028" ∈ outline.quotedTexts ∧
      ∃ before after, outline.functionForm.toList =
          before ++ ((literal "\u2028").toList ++ after) ∧
        ∀ units rest, ¬ StringLiteral.Reads
          ((literal "\u2028").toList ++ after) units rest := by
  intro now outline
  have held : now.heap.Holds (.klass ⟨0⟩) := by
    show 0 < Store.size _
    decide +kernel
  have quoted : "\u2028" ∈ outline.quotedTexts := by decide +kernel
  have present : Fragment.quoted "\u2028" ∈ outline.fragments := by
    decide +kernel
  obtain ⟨before, after, split⟩ := List.append_of_mem present
  refine ⟨held, quoted, (String.join (before.map Fragment.text)).toList,
    (String.join (after.map Fragment.text)).toList, ?_, ?_⟩
  · rw [← join_fragments, split]
    simp
  · intro units rest reads
    have free := (StringLiteral.reads_literal_iff.1 reads).1
    exact free '\u2028' (by decide) (by decide)

end ClassLowering
