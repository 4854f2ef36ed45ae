import ClassLowering.Proofs.Outline.Temporaries
import ClassLowering.Proofs.Runs.Programs

/-!
# The names of the function form

The function form binds names at three places, one inside the other: the
variable of the class outside, the constructor function and the temporaries in
the wrapper around it, and the parameters in the constructor. A name that is
used means what the nearest place outwards binds it to.

The lines are written here a second time with each occurrence of such a name
marked; a temporary stands for the number of its symbol. Every use means what it
stands for just if the class has not the name of a temporary, and no parameter
of its constructor has the name of the class or of the temporary of a field.
-/

namespace ClassLowering
namespace FunctionForm

/-- A place at which names are bound. -/
inductive Place
  | outside
  | wrapper
  | constructor
  deriving DecidableEq, Repr

/-- The places that are searched for a name, from a place outwards. -/
def Place.outwards : Place -> List Place
  | .outside => [.outside]
  | .wrapper => [.wrapper, .outside]
  | .constructor => [.constructor, .wrapper, .outside]

/-- What a name stands for. -/
inductive Referent
  /-- The variable outside that holds the class in the end. -/
  | result
  /-- The constructor function. -/
  | constructorFunction
  /-- The temporary of the symbols with a number. -/
  | temporary (symbol : SymbolNumber)
  | parameter (index : Nat)
  deriving DecidableEq, Repr

/-- An occurrence of a name: where it is, what it stands for there, and how
it is written. -/
structure Occurrence where
  place : Place
  referent : Referent
  name : String
  deriving DecidableEq, Repr

/-- A piece of a line: code without such names, or an occurrence of one. -/
inductive Piece
  | code (text : String)
  | binding (occurrence : Occurrence)
  | use (occurrence : Occurrence)
  deriving DecidableEq, Repr

namespace Piece

/-- A piece as it is written. -/
def text : Piece -> String
  | .code text => text
  | .binding occurrence | .use occurrence => occurrence.name

@[simp] theorem text_code (text : String) : (code text).text = text := rfl

@[simp] theorem text_binding (occurrence : Occurrence) :
    (binding occurrence).text = occurrence.name := rfl

@[simp] theorem text_use
    (occurrence : Occurrence) :
    (use occurrence).text = occurrence.name := rfl

/-- The occurrence that a piece binds. -/
def binding? : Piece -> Option Occurrence
  | .binding occurrence => some occurrence
  | _ => none

/-- The occurrence that a piece uses. -/
def use? : Piece -> Option Occurrence
  | .use occurrence => some occurrence
  | _ => none

@[simp] theorem binding?_code
    (text : String) :
    (code text).binding? = none := rfl

@[simp] theorem binding?_binding (occurrence : Occurrence) :
    (binding occurrence).binding? = some occurrence := rfl

@[simp] theorem binding?_use
    (occurrence : Occurrence) :
    (use occurrence).binding? = none := rfl

@[simp] theorem use?_code (text : String) : (code text).use? = none := rfl

@[simp] theorem use?_binding
    (occurrence : Occurrence) :
    (binding occurrence).use? = none := rfl

@[simp] theorem use?_use (occurrence : Occurrence) :
    (use occurrence).use? = some occurrence := rfl

end Piece

/-- A line whose names are marked. -/
structure MarkedLine where
  level : Nat
  pieces : List Piece
  deriving DecidableEq, Repr

namespace MarkedLine

/-- A line without its marks. -/
def line (marked : MarkedLine) : Line :=
  ⟨marked.level, String.join (marked.pieces.map Piece.text)⟩

@[simp] theorem line_mk (level : Nat) (pieces : List Piece) :
    (mk level pieces).line = ⟨level, String.join (pieces.map Piece.text)⟩ := rfl

/-- A line without names to mark. -/
def ofLine (line : Line) : MarkedLine := ⟨line.level, [.code line.code]⟩

/-- The occurrences that some lines bind. -/
def bindings (lines : List MarkedLine) : List Occurrence :=
  lines.flatMap fun line => line.pieces.filterMap Piece.binding?

/-- The occurrences that some lines use. -/
def uses (lines : List MarkedLine) : List Occurrence :=
  lines.flatMap fun line => line.pieces.filterMap Piece.use?

end MarkedLine

/-- What a name is bound to at a place itself. -/
def boundAt (bindings : List Occurrence) (name : String)
    (place : Place) : List Referent :=
  (bindings.filter fun bound => bound.place = place && bound.name = name).map
    Occurrence.referent

/-- What a name means at a place: the nearest place outwards that binds it
decides. -/
def meanings (bindings : List Occurrence) (name : String)
    (place : Place) : List Referent :=
  ((place.outwards.map (boundAt bindings name)).find? (! ·.isEmpty)).getD []

/-- A use means what it stands for, and nothing else. -/
def Occurrence.Refers (bindings : List Occurrence) (used : Occurrence) : Prop :=
  used.referent ∈ meanings bindings used.name used.place ∧
    ∀ other ∈ meanings bindings used.name used.place, other = used.referent

instance (bindings : List Occurrence) (used : Occurrence) :
    Decidable (used.Refers bindings) :=
  inferInstanceAs (Decidable (_ ∧ _))

/-- Every use in some lines means what it stands for. -/
def Hygienic (lines : List MarkedLine) : Prop :=
  ∀ used ∈ MarkedLine.uses lines, used.Refers (MarkedLine.bindings lines)

instance (lines : List MarkedLine) : Decidable (Hygienic lines) :=
  inferInstanceAs (Decidable (∀ used ∈ _, _))

/-- The declaration of the variable of a symbol. -/
def markedTemporary (named : Symbol × String) : MarkedLine :=
  ⟨1, [.code "var ", .binding ⟨.wrapper, .temporary named.1.number, named.2⟩,
    .code (" = Symbol(" ++ (named.1.description.map literal).getD "" ++ ");")]⟩

/-- A key as an expression at a place. -/
def markedKey (temporaries : Temporaries) (place : Place) : PropertyKey -> Piece
  | .ofText text => .code (literal text)
  | .ofSymbol symbol =>
      .use ⟨place, .temporary symbol.number, temporary temporaries symbol⟩

/-- The access to a member in the constructor. -/
def markedAccess (temporaries : Temporaries) (key : PropertyKey) : List Piece :=
  if key.isIdentifier then [.code (memberAccess temporaries key)]
  else [.code "[", markedKey temporaries .constructor key, .code "]"]

/-- The assignment of a field in the constructor. -/
def markedField (temporaries : Temporaries)
    (field : FieldOutline) : MarkedLine :=
  ⟨2, .code "this" :: (markedAccess temporaries field.key ++
    [.code
      (" = " ++ (if field.hasInitializer
        then "(function () \x7b [native code] \x7d).call(this)"
        else "void 0") ++ ";")])⟩

/-- The parameters of the constructor. -/
def markedParams (params : List String) : List Piece :=
  (params.zipIdx.map fun indexed =>
    Piece.binding ⟨.constructor, .parameter indexed.2, indexed.1⟩).intersperse
      (.code ", ")

/-- The constructor function. -/
def markedConstructor (temporaries : Temporaries) (rendered : String)
    (outline : ClassOutline) :
    List MarkedLine :=
  [⟨1, [.code "function ", .binding ⟨.wrapper, .constructorFunction, rendered⟩,
      .code "("] ++ markedParams outline.params ++ [.code ") \x7b"]⟩,
    ⟨2, [.code "if (!(this instanceof ",
      .use ⟨.constructor, .constructorFunction, rendered⟩, .code ")) \x7b"]⟩] ++
  ([⟨3, "throw new TypeError(" ++
    literal (Fault.invocationMessage outline.name) ++ ");"⟩,
    ⟨2, "\x7d"⟩] : List Line).map .ofLine ++
  outline.fields.map (markedField temporaries) ++
  ([⟨2, "[native code]"⟩, ⟨1, "\x7d"⟩] : List Line).map .ofLine

/-- The definition of an entry of the prototype. -/
def markedEntry (temporaries : Temporaries) (rendered : String)
    (member : MemberOutline) : List MarkedLine :=
  match descriptionLines member.attributes member.entry with
  | none => []
  | some description =>
      ⟨1, [.code "Object.defineProperty(",
        .use ⟨.wrapper, .constructorFunction, rendered⟩,
        .code ".prototype, ", markedKey temporaries .wrapper member.key,
        .code ", \x7b"]⟩ ::
      (description ++
        ([⟨2, "enumerable: " ++ truthText member.attributes.enumerable ++ ","⟩,
          ⟨2, "configurable: " ++ truthText member.attributes.configurable⟩,
          ⟨1, "\x7d);"⟩] : List Line)).map .ofLine

end FunctionForm

/-- The function form of a class with its names marked. -/
def ClassOutline.markedLines
    (outline : ClassOutline) : List FunctionForm.MarkedLine :=
  let temporaries := outline.temporaries
  let rendered := outline.renderedName
  [⟨0, [.code "var ", .binding ⟨.outside, .result, rendered⟩,
    .code " = /** @class */ (function () \x7b"]⟩] ++
  temporaries.map FunctionForm.markedTemporary ++
  FunctionForm.markedConstructor temporaries rendered outline ++
  outline.entries.flatMap (FunctionForm.markedEntry temporaries rendered) ++
  [⟨1, [.code "return ", .use ⟨.wrapper, .constructorFunction, rendered⟩,
    .code ";"]⟩, .ofLine ⟨0, "\x7d());"⟩]

namespace FunctionForm

open MarkedLine

section Lines

/-- Pieces with one code between neighbours are written as texts with a
separator. -/
theorem join_intersperse (separator : String) (pieces : List Piece) :
    String.join ((pieces.intersperse (.code separator)).map Piece.text) =
      separator.intercalate (pieces.map Piece.text) := by
  induction pieces with
  | nil => simp
  | cons first rest hypothesis =>
      cases rest with
      | nil => simp
      | cons second rest =>
          simp only [List.intersperse_cons_cons, List.map_cons,
            String.join_cons, String.intercalate_cons_cons] at hypothesis ⊢
          rw [hypothesis]
          simp [String.append_assoc]

/-- A line without names is written as it is. -/
@[simp] theorem line_ofLine (line : Line) : (ofLine line).line = line := by
  cases line
  simp [ofLine]

/-- The declaration of a temporary is written as in the function form. -/
theorem line_markedTemporary (named : Symbol × String) :
    (markedTemporary named).line = temporaryLine named := by
  simp [markedTemporary, temporaryLine, String.append_assoc]

/-- A key is written as in the function form. -/
theorem text_markedKey
    (temporaries : Temporaries)
    (place : Place)
    (key : PropertyKey) :
    (markedKey temporaries place key).text = keyExpression temporaries key := by
  cases key <;> rfl

/-- The access to a member is written as in the function form. -/
theorem join_markedAccess (temporaries : Temporaries) (key : PropertyKey) :
    String.join ((markedAccess temporaries key).map Piece.text) =
      memberAccess temporaries key := by
  rw [markedAccess]
  split
  next => simp
  next bare =>
    cases key with
    | ofText text =>
        rw [memberAccess, if_neg bare]
        simp [text_markedKey, String.append_assoc]
    | ofSymbol symbol =>
        simp [memberAccess, text_markedKey, String.append_assoc]

/-- The assignment of a field is written as in the function form. -/
theorem line_markedField (temporaries : Temporaries) (field : FieldOutline) :
    (markedField temporaries field).line = fieldLine temporaries field := by
  simp [markedField, fieldLine, join_markedAccess, String.append_assoc]

/-- The parameters are written as in the function form. -/
theorem join_markedParams (params : List String) :
    String.join ((markedParams params).map Piece.text) =
      ", ".intercalate params := by
  rw [markedParams, join_intersperse, List.map_map]
  exact congrArg _ (List.zipIdx_map_fst 0 params)

/-- The constructor function is written as in the function form. -/
theorem lines_markedConstructor
    (temporaries : Temporaries)
    (rendered : String)
    (outline : ClassOutline) :
    (markedConstructor temporaries rendered outline).map MarkedLine.line =
      constructorLines temporaries rendered outline := by
  simp [markedConstructor, constructorLines, Function.comp_def,
    line_markedField, join_markedParams, String.append_assoc]

/-- The definition of an entry is written as in the function form. -/
theorem lines_markedEntry
    (temporaries : Temporaries)
    (rendered : String)
    (member : MemberOutline) :
    (markedEntry temporaries rendered member).map MarkedLine.line =
      entryLines temporaries rendered member := by
  rw [markedEntry, entryLines]
  cases descriptionLines member.attributes member.entry with
  | none => rfl
  | some description =>
      simp [Function.comp_def, text_markedKey, String.append_assoc]

/-- The marked lines are those of the function form. -/
theorem lines_markedLines (outline : ClassOutline) :
    outline.markedLines.map MarkedLine.line = outline.functionFormLines := by
  simp [ClassOutline.markedLines, ClassOutline.functionFormLines,
    Function.comp_def, line_markedTemporary, lines_markedConstructor,
    List.map_flatMap, lines_markedEntry, String.append_assoc]

end Lines

section Occurrences

/-- Separators without names do not count among the occurrences. -/
theorem filterMap_intersperse
    {occurrence? : Piece -> Option Occurrence}
    {separator : Piece}
    (silent : occurrence? separator = none)
    (pieces : List Piece) :
    (pieces.intersperse separator).filterMap occurrence? =
      pieces.filterMap occurrence? := by
  induction pieces with
  | nil => rfl
  | cons first rest hypothesis =>
      cases rest with
      | nil => rfl
      | cons second rest =>
          rw [List.intersperse_cons_cons, List.filterMap_cons,
            List.filterMap_cons_none silent, hypothesis, ← List.filterMap_cons]

/-- The parameters are bound in the constructor, each under its index. -/
theorem bindings_markedParams (params : List String) :
    (markedParams params).filterMap Piece.binding? =
      params.zipIdx.map fun indexed =>
        ⟨.constructor, .parameter indexed.2, indexed.1⟩ := by
  rw [markedParams, filterMap_intersperse rfl, List.filterMap_map]
  exact congrFun List.filterMap_eq_map _

/-- The list of the parameters uses no name. -/
theorem uses_markedParams (params : List String) :
    (markedParams params).filterMap Piece.use? = [] := by
  rw [markedParams, filterMap_intersperse rfl, List.filterMap_map]
  exact List.filterMap_eq_nil_iff.2 fun _ _ => rfl

@[simp] theorem bindings_nil : bindings [] = [] := rfl

@[simp] theorem bindings_cons (line : MarkedLine) (lines : List MarkedLine) :
    bindings (line :: lines) = line.pieces.filterMap Piece.binding? ++
      bindings lines := by
  simp [bindings]

@[simp] theorem bindings_append (lines more : List MarkedLine) :
    bindings (lines ++ more) = bindings lines ++ bindings more := by
  simp [bindings]

@[simp] theorem uses_nil : uses [] = [] := rfl

@[simp] theorem uses_cons (line : MarkedLine) (lines : List MarkedLine) :
    uses (line :: lines) = line.pieces.filterMap Piece.use? ++ uses lines := by
  simp [uses]

@[simp] theorem uses_append (lines more : List MarkedLine) :
    uses (lines ++ more) = uses lines ++ uses more := by
  simp [uses]

/-- Lines without names bind none. -/
@[simp] theorem bindings_ofLine
    (lines : List Line) :
    bindings (lines.map ofLine) = [] := by
  simp [bindings, ofLine]

/-- Lines without names use none. -/
@[simp] theorem uses_ofLine
    (lines : List Line) :
    uses (lines.map ofLine) = [] := by
  simp [uses, ofLine]

/-- The declarations of the temporaries bind them in the wrapper. -/
theorem bindings_markedTemporary (temporaries : Temporaries) :
    bindings (temporaries.map markedTemporary) =
      temporaries.map fun named =>
        ⟨.wrapper, .temporary named.1.number, named.2⟩ := by
  induction temporaries with
  | nil => rfl
  | cons named rest hypothesis =>
      simp [hypothesis, markedTemporary, List.filterMap_cons]

/-- The declarations of the temporaries use no name. -/
theorem uses_markedTemporary (temporaries : Temporaries) :
    uses (temporaries.map markedTemporary) = [] := by
  induction temporaries with
  | nil => rfl
  | cons named rest hypothesis =>
      simp [hypothesis, markedTemporary, List.filterMap_cons]

/-- The assignments of fields bind no name. -/
theorem bindings_markedField
    (temporaries : Temporaries)
    (fields : List FieldOutline) :
    bindings (fields.map (markedField temporaries)) = [] := by
  induction fields with
  | nil => rfl
  | cons field rest hypothesis =>
      rw [List.map_cons, bindings_cons, hypothesis, List.append_nil]
      simp only [markedField, markedAccess]
      cases field.key <;> split <;> simp [markedKey]

/-- The assignments of fields use the temporaries of their symbols. -/
theorem mem_uses_markedField
    {temporaries : Temporaries}
    {fields : List FieldOutline}
    {used : Occurrence} :
    used ∈ uses (fields.map (markedField temporaries)) ↔
      ∃ field ∈ fields, ∃ symbol, field.key = .ofSymbol symbol ∧
        used = ⟨.constructor, .temporary symbol.number,
          temporary temporaries symbol⟩ := by
  have ofField :
      ∀ field, used ∈ (markedField temporaries field).pieces.filterMap
        Piece.use? ↔
      ∃ symbol, field.key = .ofSymbol symbol ∧
        used = ⟨.constructor, .temporary symbol.number,
          temporary temporaries symbol⟩ := by
    intro field
    simp only [markedField, markedAccess]
    cases field.key <;> split <;>
      simp_all [markedKey, PropertyKey.isIdentifier, List.filterMap_cons]
  simp only [uses, List.flatMap_map, List.mem_flatMap, ofField]

/-- The constructor function binds itself in the wrapper, and its
parameters inside. -/
theorem bindings_markedConstructor
    (temporaries : Temporaries)
    (rendered : String)
    (outline : ClassOutline) :
    bindings (markedConstructor temporaries rendered outline) =
      ⟨.wrapper, .constructorFunction, rendered⟩ ::
        outline.params.zipIdx.map fun indexed =>
          ⟨.constructor, .parameter indexed.2, indexed.1⟩ := by
  have params := bindings_markedParams outline.params
  simp only [markedConstructor, bindings_append, bindings_ofLine,
    bindings_markedField]
  simp [params, List.filterMap_cons]

/-- The constructor function uses its own name in the guard, and the
temporaries of fields. -/
theorem mem_uses_markedConstructor
    {temporaries : Temporaries}
    {rendered : String}
    {outline : ClassOutline}
    {used : Occurrence} :
    used ∈ uses (markedConstructor temporaries rendered outline) ↔
      used = ⟨.constructor, .constructorFunction, rendered⟩ ∨
      ∃ field ∈ outline.fields, ∃ symbol, field.key = .ofSymbol symbol ∧
        used = ⟨.constructor, .temporary symbol.number,
          temporary temporaries symbol⟩ := by
  have params := uses_markedParams outline.params
  simp only [markedConstructor, uses_append, uses_ofLine, List.append_nil,
    List.mem_append, mem_uses_markedField]
  simp [params, List.filterMap_cons, -List.mem_filterMap]

/-- The definition of an entry binds no name. -/
theorem bindings_markedEntry
    (temporaries : Temporaries)
    (rendered : String)
    (member : MemberOutline) :
    bindings (markedEntry temporaries rendered member) = [] := by
  rw [markedEntry]
  cases descriptionLines member.attributes member.entry with
  | none => rfl
  | some description =>
      simp only [bindings_cons, bindings_ofLine]
      cases member.key <;> simp [markedKey]

/-- The definition of an entry uses the constructor function and the temporary
of its symbol. -/
theorem uses_markedEntry
    {temporaries : Temporaries}
    {rendered : String}
    {member : MemberOutline}
    {used : Occurrence}
    (present : used ∈ uses (markedEntry temporaries rendered member)) :
    used = ⟨.wrapper, .constructorFunction, rendered⟩ ∨
      ∃ symbol, member.key = .ofSymbol symbol ∧
        used = ⟨.wrapper, .temporary symbol.number,
          temporary temporaries symbol⟩ := by
  rw [markedEntry] at present
  cases described : descriptionLines member.attributes member.entry with
  | none => simp [described] at present
  | some description =>
      simp only [described, uses_cons, uses_ofLine] at present
      cases key : member.key <;>
        simpa [key, markedKey, List.filterMap_cons] using present

/-- What the function form binds. -/
theorem bindings_markedLines (outline : ClassOutline) :
    bindings outline.markedLines =
      ⟨.outside, .result, outline.renderedName⟩ ::
        (outline.temporaries.map fun named =>
          ⟨.wrapper, .temporary named.1.number, named.2⟩) ++
      ⟨.wrapper, .constructorFunction, outline.renderedName⟩ ::
        outline.params.zipIdx.map fun indexed =>
          ⟨.constructor, .parameter indexed.2, indexed.1⟩ := by
  have entries : bindings (outline.entries.flatMap
      (markedEntry outline.temporaries outline.renderedName)) = [] := by
    rw [bindings, List.flatMap_assoc]
    exact List.flatMap_eq_nil_iff.2 fun member _ =>
      bindings_markedEntry _ _ member
  simp [ClassOutline.markedLines, entries, bindings_markedTemporary,
    bindings_markedConstructor, ofLine, List.filterMap_cons]

/-- The wrapper binds the temporaries and the constructor function. -/
theorem bound_wrapper
    {outline : ClassOutline}
    {referent : Referent}
    {name : String} :
    ⟨.wrapper, referent, name⟩ ∈ bindings outline.markedLines ↔
      (∃ symbol, (symbol, name) ∈ outline.temporaries ∧
        .temporary symbol.number = referent) ∨
      referent = .constructorFunction ∧ name = outline.renderedName := by
  simp [bindings_markedLines]

/-- The constructor binds its parameters. -/
theorem bound_constructor
    {outline : ClassOutline}
    {referent : Referent}
    {name : String} :
    ⟨.constructor, referent, name⟩ ∈ bindings outline.markedLines ↔
      ∃ index, outline.params[index]? = some name ∧
        .parameter index = referent := by
  simp [bindings_markedLines, List.mem_zipIdx_iff_getElem?]

/-- What the function form uses. -/
theorem mem_uses_markedLines
    {outline : ClassOutline}
    {used : Occurrence}
    (present : used ∈ uses outline.markedLines) :
    used = ⟨.wrapper, .constructorFunction, outline.renderedName⟩ ∨
      used = ⟨.constructor, .constructorFunction, outline.renderedName⟩ ∨
      (∃ field ∈ outline.fields, ∃ symbol, field.key = .ofSymbol symbol ∧
        used = ⟨.constructor, .temporary symbol.number,
          temporary outline.temporaries symbol⟩) ∨
      ∃ member ∈ outline.entries, ∃ symbol, member.key = .ofSymbol symbol ∧
        used = ⟨.wrapper, .temporary symbol.number,
          temporary outline.temporaries symbol⟩ := by
  simp only [ClassOutline.markedLines, uses_append, uses_markedTemporary,
    List.append_nil, List.mem_append, mem_uses_markedConstructor] at present
  rcases present with ((opens | constructs) | defines) | closes
  · simp [List.filterMap_cons] at opens
  · exact constructs.elim (.inr ∘ .inl) (.inr ∘ .inr ∘ .inl)
  · rw [uses, List.flatMap_assoc, List.mem_flatMap] at defines
    obtain ⟨member, declared, inEntry⟩ := defines
    refine (uses_markedEntry inEntry).imp_right fun temporary => .inr (.inr ?_)
    exact ⟨member, declared, temporary⟩
  · exact .inl (by simpa [ofLine, List.filterMap_cons] using closes)

/-- The constructor function is used at the end of the wrapper. -/
theorem returns_mem_uses (outline : ClassOutline) :
    ⟨.wrapper, .constructorFunction, outline.renderedName⟩ ∈
      uses outline.markedLines := by
  simp [ClassOutline.markedLines, List.filterMap_cons]

/-- The constructor uses its own name and the temporaries of fields. -/
theorem mem_uses_of_constructor
    {outline : ClassOutline}
    {used : Occurrence}
    (present : used ∈ uses
      (markedConstructor outline.temporaries outline.renderedName outline)) :
    used ∈ uses outline.markedLines := by
  simp [ClassOutline.markedLines, present]

end Occurrences

section Meanings

/-- A place binds a name to what it has an occurrence for. -/
theorem mem_boundAt
    {bindings : List Occurrence}
    {name : String}
    {place : Place}
    {referent : Referent} :
    referent ∈ boundAt bindings name place ↔
      ⟨place, referent, name⟩ ∈ bindings := by
  simp only [boundAt, List.mem_map, List.mem_filter, Bool.and_eq_true,
    decide_eq_true_eq]
  constructor
  · rintro ⟨⟨_, _, _⟩, ⟨present, rfl, rfl⟩, rfl⟩
    exact present
  · intro present
    exact ⟨_, ⟨present, rfl, rfl⟩, rfl⟩

/-- A name that is bound at a place means there what the place binds it to. -/
theorem meanings_of_bound
    {bindings : List Occurrence}
    {name : String}
    {place : Place}
    {referent : Referent}
    (bound : ⟨place, referent, name⟩ ∈ bindings) :
    meanings bindings name place = boundAt bindings name place := by
  have nonempty : boundAt bindings name place ≠ [] :=
    List.ne_nil_of_mem (mem_boundAt.2 bound)
  cases place <;> simp [meanings, Place.outwards, nonempty]

/-- A name that the constructor does not bind means there what it means
in the wrapper. -/
theorem meanings_constructor
    {bindings : List Occurrence}
    {name : String}
    (unbound : ∀ referent, ⟨.constructor, referent, name⟩ ∉ bindings) :
    meanings bindings name .constructor = meanings bindings name .wrapper := by
  have empty : boundAt bindings name .constructor = [] :=
    List.eq_nil_iff_forall_not_mem.2 fun referent present =>
      unbound referent (mem_boundAt.1 present)
  simp [meanings, Place.outwards, empty]

/-- A use of what its place binds the name to means it just if the place
binds nothing else. -/
theorem Occurrence.refers_iff_of_bound
    {bindings : List Occurrence}
    {used : Occurrence}
    (bound : used ∈ bindings) :
    used.Refers bindings ↔
      ∀ other, ⟨used.place, other, used.name⟩ ∈ bindings ->
        other = used.referent := by
  simp only [Occurrence.Refers, meanings_of_bound bound, mem_boundAt]
  exact and_iff_right bound

/-- A name in the constructor means something else than a parameter only if
none is called so. -/
theorem Occurrence.refers_constructor_iff
    {outline : ClassOutline}
    {referent : Referent}
    {name : String}
    (other : ∀ index, .parameter index ≠ referent) :
    Refers (bindings outline.markedLines) ⟨.constructor, referent, name⟩ ↔
      name ∉ outline.params ∧ Refers (bindings outline.markedLines)
        ⟨.wrapper, referent, name⟩ := by
  by_cases isParam : name ∈ outline.params
  · obtain ⟨index, found⟩ := List.mem_iff_getElem?.1 isParam
    have bound := bound_constructor.2 ⟨index, found, rfl⟩
    refine ⟨fun refers => absurd (refers.2 (.parameter index) ?_) (other index),
      fun apart => absurd isParam apart.1⟩
    rw [meanings_of_bound bound]
    exact mem_boundAt.2 bound
  · have unbound : ∀ referent, ⟨.constructor, referent, name⟩ ∉
        bindings outline.markedLines := by
      intro referent bound
      obtain ⟨index, found, -⟩ := bound_constructor.1 bound
      exact isParam (List.mem_of_getElem? found)
    simp only [Refers, meanings_constructor unbound, and_iff_right isParam]

/-- The constructor function is meant in the wrapper just if no
temporary has its name. -/
theorem refers_constructorFunction_iff (outline : ClassOutline) :
    Occurrence.Refers (bindings outline.markedLines)
        ⟨.wrapper, .constructorFunction, outline.renderedName⟩ ↔
      outline.renderedName ∉ outline.temporaries.map Prod.snd := by
  rw [Occurrence.refers_iff_of_bound (bound_wrapper.2 (.inr ⟨rfl, rfl⟩))]
  constructor
  · intro meant shared
    obtain ⟨⟨symbol, name⟩, named, rfl : name = outline.renderedName⟩ :=
      List.mem_map.1 shared
    have bound := bound_wrapper.2 (.inl ⟨symbol, named, rfl⟩)
    exact Referent.noConfusion (meant (.temporary symbol.number) bound)
  · intro apart other bound
    rcases bound_wrapper.1 bound with ⟨symbol, named, -⟩ | ⟨same, -⟩
    · exact absurd (List.mem_map_of_mem named) apart
    · exact same

/-- A temporary is meant in the wrapper if the constructor function has another
name. -/
theorem refers_temporary
    {outline : ClassOutline}
    {symbol : Symbol}
    (present : .ofSymbol symbol ∈ outline.keys)
    (apart : outline.renderedName ∉ outline.temporaries.map Prod.snd) :
    Occurrence.Refers (bindings outline.markedLines)
      ⟨.wrapper, .temporary symbol.number,
        temporary outline.temporaries symbol⟩ := by
  obtain ⟨owner, owned, named⟩ := ClassOutline.temporary_mem present
  rw [← owned]
  refine (Occurrence.refers_iff_of_bound
    (bound_wrapper.2 (.inl ⟨owner, named, rfl⟩))).2 ?_
  intro other bound
  rcases bound_wrapper.1 bound with ⟨symbol, otherNamed, rfl⟩ | ⟨-, same⟩
  · rw [symbol_eq_of_mem named otherNamed]
  · exact absurd (List.mem_map_of_mem named) (same ▸ apart)

end Meanings
end FunctionForm

open FunctionForm

namespace ClassOutline

/-- The names that a class brings along differ from those that they
would capture. -/
structure NamesApart (outline : ClassOutline) : Prop where
  name : outline.renderedName ∉ outline.temporaries.map Prod.snd
  params : outline.renderedName ∉ outline.params
  fields : ∀ field ∈ outline.fields, ∀ symbol, field.key = .ofSymbol symbol ->
    temporary outline.temporaries symbol ∉ outline.params

/-- What the names of a function form mean. -/
structure NamesMean (outline : ClassOutline) : Prop where
  /-- The marked lines are the function form. -/
  written : outline.markedLines.map MarkedLine.line = outline.functionFormLines
  /-- No two temporaries share a name. -/
  distinct : (outline.temporaries.map Prod.snd).Nodup
  /-- The name that a class without name gets is not that of a temporary. -/
  unnamed : outline.name = "" ->
    outline.renderedName ∉ outline.temporaries.map Prod.snd
  /-- Every use means what it stands for just if the names are apart. -/
  hygienic_iff : Hygienic outline.markedLines ↔ outline.NamesApart

/-- Every use in the function form means what it stands for just if the
names are apart. -/
theorem hygienic_iff_namesApart (outline : ClassOutline) :
    Hygienic outline.markedLines ↔ outline.NamesApart := by
  have ofField : ∀ {field symbol}, field ∈ outline.fields ->
      field.key = .ofSymbol symbol ->
      .ofSymbol symbol ∈ outline.keys := fun declared key =>
    List.mem_append_right _ (key ▸ List.mem_map_of_mem declared)
  have ofEntry : ∀ {member symbol}, member ∈ outline.entries ->
      member.key = .ofSymbol symbol ->
      .ofSymbol symbol ∈ outline.keys := fun declared key =>
    List.mem_append_left _ (key ▸ List.mem_map_of_mem declared)
  constructor
  · intro hygienic
    refine ⟨?_, ?_, ?_⟩
    · exact (refers_constructorFunction_iff outline).1
        (hygienic _ (returns_mem_uses outline))
    · have guards := hygienic _
        (mem_uses_of_constructor (mem_uses_markedConstructor.2 (.inl rfl)))
      exact ((Occurrence.refers_constructor_iff fun _ =>
        Referent.noConfusion).1 guards).1
    · intro field declared symbol key
      have assigns := hygienic _ (mem_uses_of_constructor
        (mem_uses_markedConstructor.2
          (.inr ⟨field, declared, symbol, key, rfl⟩)))
      exact ((Occurrence.refers_constructor_iff fun _ =>
        Referent.noConfusion).1 assigns).1
  · intro apart used present
    have constructs := (refers_constructorFunction_iff outline).2 apart.name
    rcases mem_uses_markedLines present
      with rfl | rfl | ⟨field, declared, symbol, key, rfl⟩ |
      ⟨member, declared, symbol, key, rfl⟩
    · exact constructs
    · exact (Occurrence.refers_constructor_iff fun _ => Referent.noConfusion).2
        ⟨apart.params, constructs⟩
    · exact (Occurrence.refers_constructor_iff fun _ => Referent.noConfusion).2
        ⟨apart.fields field declared symbol key,
          refers_temporary (ofField declared key) apart.name⟩
    · exact refers_temporary (ofEntry declared key) apart.name

/-- The function form of every class is hygienic just if the names of the
class are apart. -/
theorem namesMean_of_functionForm
    (outline : ClassOutline) :
    outline.NamesMean where
  written := lines_markedLines outline
  distinct := nodup_names _
  unnamed := by
    intro isUnnamed shared
    obtain ⟨named, present, same⟩ := List.mem_map.1 shared
    have start := head?_of_mem present
    rw [same, renderedName, if_pos isUnnamed] at start
    exact absurd start (by decide)
  hygienic_iff := hygienic_iff_namesApart outline

end ClassOutline

/-- A class that is called as the first temporary, with a method under a
symbol. -/
def underscoredSteps : List Step :=
  [.evaluate (.klass {
    blueprint := {
      name := some "_a"
      scope := none
      body := {
        members :=
          [⟨.method, .literal (.symbol "s"), false, some .nothing, [], 0⟩]
        constructor := none } }
    binding := .expression
    limits := .standard }) none]

/-- The method is defined on the temporary, which has taken the place of the
class. -/
theorem not_hygienic_of_underscoredSteps :
    let now := Program.endState (callUntil (fun _ => false) 0)
      Program.initialState underscoredSteps
    let outline := now.heap.classOutline ⟨0⟩
    now.heap.Holds (.klass ⟨0⟩) ∧
      CharacterClass.isIdentifier outline.name = true ∧
        (∀ param ∈ outline.params, CharacterClass.isIdentifier param = true) ∧
          outline.renderedName ∈ outline.temporaries.map Prod.snd ∧
            ¬ Hygienic outline.markedLines := by
  show 0 < Store.size _ ∧ _
  decide +kernel

end ClassLowering
