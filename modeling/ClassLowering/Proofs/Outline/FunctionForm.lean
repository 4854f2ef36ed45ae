import ClassLowering.Proofs.Elaboration.Prototype
import ClassLowering.Proofs.Outline.Lines

/-!
# What the function form tells

The function form of a class is read back from its text. Keys in brackets are
string literals and keys after a point are identifiers, so neither can pass for
the other or for the code around them. The message of the guard tells a class
without a name from one with the name that it is given. What follows a field is
the body of the constructor, and what follows an entry starts another one or
returns the class.

Two classes of one text thus have the same name and parameters, the same fields
and the same entries, in the same order. Only the names of functions can differ.
-/

namespace ClassLowering

/-- A function whose name is forgotten. -/
def FunctionOutline.unnamed (function : FunctionOutline) : FunctionOutline :=
  { function with name := "" }

/-- An entry whose functions have lost their names. -/
def EntryOutline.unnamed : EntryOutline -> EntryOutline
  | .constructor => .constructor
  | .method function => .method function.unnamed
  | .accessor getter setter =>
      .accessor (getter.map FunctionOutline.unnamed)
        (setter.map FunctionOutline.unnamed)

namespace ClassOutline

/-- The entries of a class with keys and attributes, but without the
names of functions. -/
def unnamedEntries (members : List MemberOutline) : List MemberOutline :=
  members.map fun member => { member with entry := member.entry.unnamed }

/-- Two classes are the same but for internal names, names of functions and
bodies. -/
structure SaysSame (outline other : ClassOutline) : Prop where
  name : outline.name = other.name
  params : outline.params = other.params
  fields : outline.fields = other.fields
  entries : unnamedEntries outline.entries = unnamedEntries other.entries

/-- Accessors can be configured; methods and the link can be written over as
well. -/
def StandardAttributes (members : List MemberOutline) : Prop :=
  ∀ member ∈ members, member.attributes =
    match member.entry with
    | .accessor _ _ => ⟨false, false, true⟩
    | .constructor | .method _ => ⟨true, false, true⟩

/-- The link to the class is the first entry and the only one of its kind. -/
def StartsWithLink (outline : ClassOutline) : Prop :=
  ∃ members, outline.entries =
    ⟨.constructor, .constructor, .ofMethod⟩ :: members ∧
    (∀ member ∈ members, member.entry ≠ .constructor) ∧
      StandardAttributes members

end ClassOutline

namespace FunctionForm

open CharacterClass

/-- Different texts have different literals. -/
theorem literal_inj
    {left right : String}
    (same : literal left = literal right) :
    left = right := by
  have chars := congrArg String.toList same
  simp only [literal, String.toList_ofList] at chars
  exact (literalChars_append_inj (List.cons.inj chars).2).1

/-- The refusal of a call tells its message. -/
theorem throwLine_inj
    {message other : String}
    (same : (⟨3, "throw new TypeError(" ++ literal message ++ ");"⟩ : Line) =
      ⟨3, "throw new TypeError(" ++ literal other ++ ");"⟩) :
    message = other := by
  have codes := congrArg Line.code same
  simp only [String.append_left_inj, String.append_right_inj] at codes
  exact literal_inj codes

/-- The message of the guard tells the name of the class, also an empty one. -/
theorem invocationMessage_inj
    {name other : String}
    (same : Fault.invocationMessage name = Fault.invocationMessage other) :
    name = other := by
  unfold Fault.invocationMessage at same
  simpa only [String.append_left_inj, String.append_right_inj] using same

/-- Parameters that are identifiers are read back from the list of them. -/
theorem params_inj
    {params others : List String}
    (identifiers : ∀ param ∈ params, isIdentifier param = true)
    (otherIdentifiers : ∀ param ∈ others, isIdentifier param = true)
    (same : ", ".intercalate params = ", ".intercalate others) :
    params = others := by
  have parts : ∀ {names : List String},
      (∀ name ∈ names, isIdentifier name = true) ->
      ∀ part ∈ names.map String.toList, ',' ∉ part ∧ part ≠ [] := by
    intro names areNames part present
    obtain ⟨name, isName, rfl⟩ := List.mem_map.1 present
    exact ⟨notMem_of_isIdentifier (areNames name isName) (by decide),
      toList_ne_nil_of_isIdentifier (areNames name isName)⟩
  have chars := congrArg String.toList same
  rw [String.toList_intercalate, String.toList_intercalate] at chars
  exact List.map_injective_iff.2 (fun _ _ => String.toList_injective)
    (intercalate_inj (parts identifiers) (parts otherIdentifiers) chars)

/-- A function without its body tells what it is and its parameters. -/
theorem functionStub_inj
    {function other : FunctionOutline}
    {isNamed : Bool}
    (identifiers : ∀ param ∈ function.params, isIdentifier param = true)
    (otherIdentifiers : ∀ param ∈ other.params, isIdentifier param = true)
    (same : functionStub function isNamed = functionStub other isNamed) :
    function.unnamed = other.unnamed := by
  have lacks : ∀ (asked : Bool) (name : String),
      '(' ∉ (if asked && isIdentifier name then name else "").toList := by
    intro asked name
    split
    next named =>
      exact notMem_of_isIdentifier (Bool.and_eq_true _ _ ▸ named).2 (by decide)
    next => simp
  have chars := congrArg String.toList same
  simp only [functionStub, signature, String.toList_append,
    List.append_assoc] at chars
  have generators : function.isGenerator = other.isGenerator := by
    cases left : function.isGenerator <;> cases right : other.isGenerator <;>
      simp [left, right] at chars ⊢
  rw [generators] at chars
  obtain ⟨-, behind⟩ := append_stop_inj (lacks _ _) (lacks _ _)
    (List.append_cancel_left chars)
  have params := params_inj identifiers otherIdentifiers
    (String.toList_injective (List.append_cancel_right behind))
  rw [FunctionOutline.unnamed, FunctionOutline.unnamed, generators, params]

/-- The access to a member ends at the same place for every reader, and
tells the key. -/
theorem memberAccess_append_inj
    {temporaries : Temporaries}
    {key other : PropertyKey}
    {rest behind : List Char}
    (isText : key.isSymbol = false)
    (otherIsText : other.isSymbol = false)
    (same : (memberAccess temporaries key).toList ++ ' ' :: rest =
      (memberAccess temporaries other).toList ++ ' ' :: behind) :
    key = other ∧ rest = behind := by
  cases key with
  | ofSymbol symbol => cases isText
  | ofText text =>
  cases other with
  | ofSymbol symbol => cases otherIsText
  | ofText otherText =>
  simp only [memberAccess, keyExpression] at same
  -- A key is written after a point just if it is an identifier.
  split_ifs at same with identifier otherIdentifier otherIdentifier
  · rw [String.toList_append, String.toList_append, List.append_assoc,
      List.append_assoc] at same
    obtain ⟨texts, rfl⟩ := append_stop_inj
      (notMem_of_isIdentifier identifier (by decide))
      (notMem_of_isIdentifier otherIdentifier (by decide))
      (List.append_cancel_left same)
    exact ⟨congrArg PropertyKey.ofText (String.toList_injective texts), rfl⟩
  · simp at same
  · simp at same
  · simp only [literal, String.toList_append, String.toList_ofList,
      List.append_assoc, List.cons_append, List.nil_append] at same
    obtain ⟨rfl, ends⟩ :=
      literalChars_append_inj (List.cons.inj (List.append_cancel_left same)).2
    exact ⟨rfl, (List.cons.inj (List.append_cancel_left ends)).2⟩

/-- The assignment of a field tells its key and whether it is initialized. -/
theorem fieldLine_inj
    {temporaries : Temporaries}
    {field other : FieldOutline}
    (isText : field.key.isSymbol = false)
    (otherIsText : other.key.isSymbol = false)
    (same : fieldLine temporaries field = fieldLine temporaries other) :
    field = other := by
  have chars := congrArg (String.toList ∘ Line.code) same
  simp only [Function.comp_apply, fieldLine, String.toList_append,
    List.append_assoc] at chars
  obtain ⟨keys, ends⟩ :=
    memberAccess_append_inj isText otherIsText (List.append_cancel_left chars)
  have initials : field.hasInitializer = other.hasInitializer := by
    cases left : field.hasInitializer <;> cases right : other.hasInitializer <;>
      simp [left, right] at ends ⊢
  cases field
  cases other
  cases keys
  cases initials
  rfl

/-- The first character of the first of some lines. -/
def firstChar? (lines : List Line) : Option Char :=
  lines.head?.bind fun line => line.code.toList.head?

/-- The lines of one side of an accessor start with its label, if there are
any. -/
theorem firstChar?_sideLines
    {label : String}
    (named : label.toList ≠ [])
    (side : Option FunctionOutline)
    (rest : List Line) :
    firstChar? (sideLines label side ++ rest) =
      if side.isSome then label.toList.head? else firstChar? rest := by
  cases side with
  | none => rfl
  | some function =>
      simp [firstChar?, sideLines, List.head?_append,
        List.head?_eq_some_head named]

/-- The lines behind one side of an accessor do not pass for it. -/
theorem sideLines_append_inj
    {label : String}
    {side other : Option FunctionOutline}
    {rest behind : List Line}
    (named : label.toList ≠ [])
    (identifiers : ∀ function ∈ side, ∀ param ∈ function.params,
      isIdentifier param = true)
    (otherIdentifiers : ∀ function ∈ other, ∀ param ∈ function.params,
      isIdentifier param = true)
    (restDiffers : firstChar? rest ≠ label.toList.head?)
    (behindDiffers : firstChar? behind ≠ label.toList.head?)
    (same : sideLines label side ++ rest = sideLines label other ++ behind) :
    side.map FunctionOutline.unnamed = other.map FunctionOutline.unnamed ∧
      rest = behind := by
  have starts := congrArg firstChar? same
  rw [firstChar?_sideLines named, firstChar?_sideLines named] at starts
  cases side with
  | none =>
      cases other with
      | none => exact ⟨rfl, same⟩
      | some function => exact absurd starts restDiffers
  | some function =>
      cases other with
      | none => exact absurd starts.symm behindDiffers
      | some otherFunction =>
          obtain ⟨first, rfl⟩ := List.cons.inj same
          have stubs := congrArg (String.toList ∘ Line.code) first
          simp only [Function.comp_apply, String.toList_append,
            List.append_assoc] at stubs
          have stub := functionStub_inj (identifiers function rfl)
            (otherIdentifiers otherFunction rfl) (String.toList_injective
              (List.append_cancel_right
                (List.append_cancel_left (List.append_cancel_left stubs))))
          exact ⟨congrArg some stub, rfl⟩

/-- The description of an entry tells what the entry is, and where the
description ends. -/
theorem descriptionLines_append_inj
    {attributes otherAttributes : Attributes}
    {entry other : EntryOutline}
    {description otherDescription rest behind : List Line}
    (described : descriptionLines attributes entry = some description)
    (otherDescribed : descriptionLines otherAttributes other =
      some otherDescription)
    (identifiers : ∀ function ∈ entry.functions, ∀ param ∈ function.params,
      isIdentifier param = true)
    (otherIdentifiers : ∀ function ∈ other.functions, ∀ param ∈ function.params,
      isIdentifier param = true)
    (restStarts : firstChar? rest = some 'e')
    (behindStarts : firstChar? behind = some 'e')
    (same : description ++ rest = otherDescription ++ behind) :
    entry.unnamed = other.unnamed ∧ rest = behind := by
  have starts := congrArg firstChar? same
  have sides : ∀ (getter setter : Option FunctionOutline) (lines : List Line),
      firstChar? lines = some 'e' ->
        firstChar? ((sideLines "get" getter ++ sideLines "set" setter) ++
          lines) ≠ some 'v' := by
    intro getter setter lines first
    rw [List.append_assoc, firstChar?_sideLines (by decide),
      firstChar?_sideLines (by decide), first]
    split_ifs <;> decide
  have setterStarts : ∀ (setter : Option FunctionOutline) (lines : List Line),
      firstChar? lines = some 'e' ->
        firstChar? (sideLines "set" setter ++ lines) ≠ "get".toList.head? := by
    intro setter lines first
    rw [firstChar?_sideLines (by decide), first]
    split_ifs <;> decide
  cases entry with
  | constructor => cases described
  | method function =>
      cases other with
      | constructor => cases otherDescribed
      | method otherFunction =>
          cases described
          cases otherDescribed
          obtain ⟨first, lines⟩ := List.cons.inj same
          have stubs := congrArg (String.toList ∘ Line.code) first
          simp only [Function.comp_apply, String.toList_append,
            List.append_assoc] at stubs
          have stub := functionStub_inj
            (identifiers function List.mem_cons_self)
            (otherIdentifiers otherFunction List.mem_cons_self)
            (String.toList_injective
              (List.append_cancel_right (List.append_cancel_left stubs)))
          exact ⟨congrArg EntryOutline.method stub, (List.cons.inj lines).2⟩
      | accessor getter setter =>
          cases described
          cases otherDescribed
          exact absurd (starts.symm.trans (by simp [firstChar?]))
            (sides getter setter _ behindStarts)
  | accessor getter setter =>
      cases other with
      | constructor => cases otherDescribed
      | method otherFunction =>
          cases described
          cases otherDescribed
          exact absurd (starts.trans (by simp [firstChar?]))
            (sides getter setter _ restStarts)
      | accessor otherGetter otherSetter =>
          cases described
          cases otherDescribed
          rw [List.append_assoc, List.append_assoc] at same
          obtain ⟨getters, lines⟩ := sideLines_append_inj (by decide)
            (fun function present => identifiers function
              (List.mem_append_left _ (Option.mem_toList.2 present)))
            (fun function present => otherIdentifiers function
              (List.mem_append_left _ (Option.mem_toList.2 present)))
            (setterStarts setter rest restStarts)
            (setterStarts otherSetter behind behindStarts) same
          obtain ⟨setters, lines⟩ := sideLines_append_inj (by decide)
            (fun function present => identifiers function
              (List.mem_append_right _ (Option.mem_toList.2 present)))
            (fun function present => otherIdentifiers function
              (List.mem_append_right _ (Option.mem_toList.2 present)))
            (by rw [restStarts]; decide) (by rw [behindStarts]; decide) lines
          rw [EntryOutline.unnamed, EntryOutline.unnamed, getters, setters]
          exact ⟨rfl, lines⟩

/-- What is written around the description of an entry. -/
theorem entryLines_text
    {temporaries : Temporaries}
    {rendered : String}
    {entry : EntryOutline}
    (attributes : Attributes)
    (text : String)
    (shared : entry ≠ .constructor) :
    ∃ description, descriptionLines attributes entry = some description ∧
      entryLines temporaries rendered ⟨.ofText text, entry, attributes⟩ =
        ⟨1, "Object.defineProperty(" ++ rendered ++ ".prototype, " ++
          literal text ++ ", \x7b"⟩ ::
          (description ++
            [⟨2, "enumerable: " ++ truthText attributes.enumerable ++ ","⟩,
              ⟨2, "configurable: " ++ truthText attributes.configurable⟩,
              ⟨1, "\x7d);"⟩]) := by
  cases entry with
  | constructor => exact absurd rfl shared
  | method function => exact ⟨_, rfl, rfl⟩
  | accessor getter setter => exact ⟨_, rfl, rfl⟩

/-- The definition of an entry tells its key, what it is, and where it ends. -/
theorem entryLines_append_inj
    {temporaries : Temporaries}
    {rendered : String}
    {member other : MemberOutline}
    {rest behind : List Line}
    (isText : member.key.isSymbol = false)
    (otherIsText : other.key.isSymbol = false)
    (shared : member.entry ≠ .constructor)
    (otherShared : other.entry ≠ .constructor)
    (identifiers : ∀ function ∈ member.entry.functions,
      ∀ param ∈ function.params, isIdentifier param = true)
    (otherIdentifiers : ∀ function ∈ other.entry.functions,
      ∀ param ∈ function.params, isIdentifier param = true)
    (same : entryLines temporaries rendered member ++ rest =
      entryLines temporaries rendered other ++ behind) :
    member.key = other.key ∧ member.entry.unnamed = other.entry.unnamed ∧
      rest = behind := by
  obtain ⟨key, entry, attributes⟩ := member
  obtain ⟨otherKey, other, otherAttributes⟩ := other
  cases key with
  | ofSymbol symbol => cases isText
  | ofText text =>
  cases otherKey with
  | ofSymbol symbol => cases otherIsText
  | ofText otherText =>
  obtain ⟨description, described, lines⟩ :=
    entryLines_text attributes text shared
  obtain ⟨otherDescription, otherDescribed, otherLines⟩ :=
    entryLines_text otherAttributes otherText otherShared
  rw [lines, otherLines] at same
  obtain ⟨opening, inside⟩ := List.cons.inj same
  have chars := congrArg (String.toList ∘ Line.code) opening
  simp only [Function.comp_apply, String.toList_append] at chars
  have texts : text = otherText := literal_inj (String.toList_injective
    (List.append_cancel_left (List.append_cancel_right chars)))
  rw [List.append_eq, List.append_eq, List.append_assoc,
    List.append_assoc] at inside
  obtain ⟨entries, closing⟩ :=
    descriptionLines_append_inj described otherDescribed identifiers
    otherIdentifiers (by simp [firstChar?]) (by simp [firstChar?]) inside
  -- Three lines close a definition.
  obtain ⟨-, closing⟩ := List.cons.inj closing
  obtain ⟨-, closing⟩ := List.cons.inj closing
  exact ⟨congrArg PropertyKey.ofText texts, entries, (List.cons.inj closing).2⟩

/-- Entries that are the same but for the names of functions have the
same attributes. -/
theorem attributes_eq_of_unnamed_eq
    {member other : MemberOutline}
    (standard : ClassOutline.StandardAttributes [member])
    (otherStandard : ClassOutline.StandardAttributes [other])
    (same : member.entry.unnamed = other.entry.unnamed) :
    member.attributes = other.attributes := by
  rw [standard member List.mem_cons_self,
    otherStandard other List.mem_cons_self]
  cases own : member.entry <;> cases its : other.entry <;>
    rw [own, its] at same <;> first | rfl | cases same

/-- The definitions of entries are told apart, up to the names of functions. -/
theorem entries_inj
    {temporaries : Temporaries}
    {rendered : String}
    {members others : List MemberOutline}
    {ends : List Line}
    (texts : ∀ member ∈ members, member.key.isSymbol = false)
    (otherTexts : ∀ member ∈ others, member.key.isSymbol = false)
    (shared : ∀ member ∈ members, member.entry ≠ .constructor)
    (otherShared : ∀ member ∈ others, member.entry ≠ .constructor)
    (standard : ClassOutline.StandardAttributes members)
    (otherStandard : ClassOutline.StandardAttributes others)
    (identifiers : ∀ member ∈ members, ∀ function ∈ member.entry.functions,
      ∀ param ∈ function.params, isIdentifier param = true)
    (otherIdentifiers : ∀ member ∈ others, ∀ function ∈ member.entry.functions,
      ∀ param ∈ function.params, isIdentifier param = true)
    (endsDiffer : firstChar? ends ≠ some 'O')
    (same : members.flatMap (entryLines temporaries rendered) ++ ends =
      others.flatMap (entryLines temporaries rendered) ++ ends) :
    ClassOutline.unnamedEntries members =
      ClassOutline.unnamedEntries others := by
  have opens : ∀ (member : MemberOutline) (rest : List Line),
      member.key.isSymbol = false -> member.entry ≠ .constructor ->
        firstChar? (entryLines temporaries rendered member ++ rest) =
          some 'O' := by
    rintro ⟨key, entry, attributes⟩ rest isText shared
    cases key with
    | ofSymbol symbol => cases isText
    | ofText text =>
        obtain ⟨description, -, lines⟩ := entryLines_text attributes text shared
        rw [lines]
        simp [firstChar?]
  induction members generalizing others with
  | nil =>
      cases others with
      | nil => rfl
      | cons other others =>
          rw [List.flatMap_cons, List.append_assoc] at same
          exact absurd ((congrArg firstChar? same).trans (opens _ _
            (otherTexts other List.mem_cons_self)
            (otherShared other List.mem_cons_self))) endsDiffer
  | cons member members hypothesis =>
      cases others with
      | nil =>
          rw [List.flatMap_cons, List.append_assoc] at same
          exact absurd ((congrArg firstChar? same.symm).trans (opens _ _
            (texts member List.mem_cons_self)
            (shared member List.mem_cons_self))) endsDiffer
      | cons other others =>
          obtain ⟨isText, texts⟩ := List.forall_mem_cons.1 texts
          obtain ⟨otherIsText, otherTexts⟩ := List.forall_mem_cons.1 otherTexts
          obtain ⟨isShared, shared⟩ := List.forall_mem_cons.1 shared
          obtain ⟨otherIsShared, otherShared⟩ :=
            List.forall_mem_cons.1 otherShared
          obtain ⟨isStandard, standard⟩ := List.forall_mem_cons.1 standard
          obtain ⟨otherIsStandard, otherStandard⟩ :=
            List.forall_mem_cons.1 otherStandard
          obtain ⟨isLegible, identifiers⟩ := List.forall_mem_cons.1 identifiers
          obtain ⟨otherIsLegible, otherIdentifiers⟩ :=
            List.forall_mem_cons.1 otherIdentifiers
          rw [List.flatMap_cons, List.flatMap_cons, List.append_assoc,
            List.append_assoc] at same
          obtain ⟨keys, entries, rest⟩ :=
            entryLines_append_inj isText otherIsText isShared
            otherIsShared isLegible otherIsLegible same
          have attributes := attributes_eq_of_unnamed_eq
            (List.forall_mem_singleton.2 isStandard)
            (List.forall_mem_singleton.2 otherIsStandard) entries
          refine congrArg₂ List.cons ?_
            (hypothesis texts otherTexts shared otherShared standard
              otherStandard identifiers otherIdentifiers rest)
          simp only [keys, entries, attributes]

/-- The assignments of fields are told apart, and from the body of the
constructor. -/
theorem fields_append_inj
    {temporaries : Temporaries}
    {fields others : List FieldOutline}
    {rest behind : List Line}
    (texts : ∀ field ∈ fields, field.key.isSymbol = false)
    (otherTexts : ∀ field ∈ others, field.key.isSymbol = false)
    (restDiffers : firstChar? rest ≠ some 't')
    (behindDiffers : firstChar? behind ≠ some 't')
    (same : fields.map (fieldLine temporaries) ++ rest =
      others.map (fieldLine temporaries) ++ behind) :
    fields = others ∧ rest = behind := by
  have assigns : ∀ (field : FieldOutline) (lines : List Line),
      firstChar? (fieldLine temporaries field :: lines) = some 't' := by
    intro field lines
    simp [firstChar?, fieldLine]
  induction fields generalizing others with
  | nil =>
      cases others with
      | nil => exact ⟨rfl, same⟩
      | cons other others =>
          exact absurd ((congrArg firstChar? same).trans (assigns other _))
            restDiffers
  | cons field fields hypothesis =>
      cases others with
      | nil =>
          exact absurd ((congrArg firstChar? same.symm).trans (assigns field _))
            behindDiffers
      | cons other others =>
          obtain ⟨isText, texts⟩ := List.forall_mem_cons.1 texts
          obtain ⟨otherIsText, otherTexts⟩ := List.forall_mem_cons.1 otherTexts
          obtain ⟨first, further⟩ := List.cons.inj same
          obtain ⟨fieldsEq, restEq⟩ := hypothesis texts otherTexts further
          rw [fieldLine_inj isText otherIsText first, fieldsEq]
          exact ⟨rfl, restEq⟩

end FunctionForm

namespace ClassOutline

open FunctionForm

/-- The constructor function is written in front of the definitions of the
entries. -/
theorem functionFormLines_eq
    {outline : ClassOutline}
    (legible : outline.IsLegible) :
    outline.functionFormLines =
      ⟨0, "var " ++ outline.renderedName ++
        " = /** @class */ (function () \x7b"⟩ ::
      ⟨1, "function " ++ outline.renderedName ++ "(" ++
        ", ".intercalate outline.params ++ ") \x7b"⟩ ::
      ⟨2, "if (!(this instanceof " ++ outline.renderedName ++ ")) \x7b"⟩ ::
      ⟨3, "throw new TypeError(" ++
        literal (Fault.invocationMessage outline.name) ++ ");"⟩ ::
      ⟨2, "\x7d"⟩ ::
      (outline.fields.map (fieldLine []) ++ ⟨2, "[native code]"⟩ ::
        ⟨1, "\x7d"⟩ ::
        (outline.entries.flatMap (entryLines [] outline.renderedName) ++
          [⟨1, "return " ++ outline.renderedName ++ ";"⟩,
            ⟨0, "\x7d());"⟩])) := by
  simp only [functionFormLines, temporaries_eq_nil legible, constructorLines,
    List.map_nil, List.append_assoc, List.cons_append, List.nil_append]

/-- Two classes of one function form say the same. -/
theorem saysSame_of_sameForm
    {outline other : ClassOutline}
    (legible : outline.IsLegible)
    (otherLegible : other.IsLegible)
    (links : outline.StartsWithLink)
    (otherLinks : other.StartsWithLink)
    (same : outline.functionForm = other.functionForm) :
    outline.SaysSame other := by
  have lines := lines_inj (functionFormLines_arePlain legible)
    (functionFormLines_arePlain otherLegible) same
  rw [functionFormLines_eq legible, functionFormLines_eq otherLegible] at lines
  obtain ⟨opening, lines⟩ := List.cons.inj lines
  obtain ⟨heading, lines⟩ := List.cons.inj lines
  obtain ⟨-, lines⟩ := List.cons.inj lines
  obtain ⟨throws, lines⟩ := List.cons.inj lines
  obtain ⟨-, lines⟩ := List.cons.inj lines
  have rendered : outline.renderedName = other.renderedName := by
    simpa using congrArg Line.code opening
  have name : outline.name = other.name :=
    invocationMessage_inj (throwLine_inj throws)
  have params : outline.params = other.params := by
    have chars := congrArg (String.toList ∘ Line.code) heading
    rw [rendered] at chars
    simp only [Function.comp_apply, String.toList_append] at chars
    exact params_inj legible.params otherLegible.params (String.toList_injective
      (List.append_cancel_left (List.append_cancel_right chars)))
  have fieldTexts : ∀ {written : ClassOutline}, written.IsLegible ->
      ∀ field ∈ written.fields, field.key.isSymbol = false :=
    fun isLegible field declared =>
      isLegible.keys _ (List.mem_append_right _ (List.mem_map_of_mem declared))
  obtain ⟨fields, lines⟩ :=
    fields_append_inj (fieldTexts legible) (fieldTexts otherLegible)
    (by simp [firstChar?]) (by simp [firstChar?]) lines
  obtain ⟨-, lines⟩ := List.cons.inj lines
  obtain ⟨-, lines⟩ := List.cons.inj lines
  refine ⟨name, params, fields, ?_⟩
  have entryTexts : ∀ {written : ClassOutline}, written.IsLegible ->
      ∀ member ∈ written.entries, member.key.isSymbol = false :=
    fun isLegible member declared =>
      isLegible.keys _ (List.mem_append_left _ (List.mem_map_of_mem declared))
  have texts := entryTexts legible
  have otherTexts := entryTexts otherLegible
  have identifiers := legible.memberParams
  have otherIdentifiers := otherLegible.memberParams
  -- The link is the only entry that is not written, and it is the first of
  -- both.
  obtain ⟨entries, split, shared, standard⟩ := links
  obtain ⟨others, otherSplit, otherShared, otherStandard⟩ := otherLinks
  rw [split] at texts identifiers
  rw [otherSplit] at otherTexts otherIdentifiers
  have unwritten :
      entryLines [] other.renderedName
        ⟨.constructor, .constructor, .ofMethod⟩ = [] :=
    rfl
  rw [split, otherSplit, rendered, List.flatMap_cons,
    List.flatMap_cons, unwritten, List.nil_append, List.nil_append] at lines
  obtain ⟨-, texts⟩ := List.forall_mem_cons.1 texts
  obtain ⟨-, otherTexts⟩ := List.forall_mem_cons.1 otherTexts
  obtain ⟨-, identifiers⟩ := List.forall_mem_cons.1 identifiers
  obtain ⟨-, otherIdentifiers⟩ := List.forall_mem_cons.1 otherIdentifiers
  have behindLinks : unnamedEntries entries = unnamedEntries others :=
    entries_inj texts otherTexts shared otherShared standard
      otherStandard identifiers otherIdentifiers (by simp [firstChar?]) lines
  rw [split, otherSplit, unnamedEntries, unnamedEntries, List.map_cons,
    List.map_cons]
  exact congrArg (List.cons _) behindLinks

end ClassOutline
end ClassLowering
