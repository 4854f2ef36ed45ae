import ClassLowering.Proofs.Outline.Classes
import ClassLowering.Proofs.Outline.Identifiers

/-!
# Names of methods

The function of a method is called by its key. In the function form the value of
the method is a function expression, which has the key as its name if that is an
identifier, and no name if not.

A key may be any word, but some words are reserved: they are names after a point
and not names of functions. So the function expression of a key in ASCII is one
of the standard just if the key is no reserved word.
-/

namespace ClassLowering
namespace CharacterClass

/-- The reserved words of the standard: names that are no identifiers. -/
def reservedWords : List String :=
  ["await", "break", "case", "catch", "class", "const", "continue", "debugger",
    "default", "delete",
    "do", "else", "enum", "export", "extends", "false", "finally", "for",
    "function", "if",
    "import", "in", "instanceof", "new", "null", "return", "super", "switch",
    "this", "throw",
    "true", "try", "typeof", "var", "void", "while", "with", "yield"]

/-- A text can be the name of a function expression of the standard. -/
def IsFunctionName (text : String) : Prop :=
  isIdentifierName text = true ∧ text ∉ reservedWords

/-- Reserved words are written like identifiers. -/
theorem isIdentifier_of_reserved
    {text : String}
    (reserved : text ∈ reservedWords) :
    isIdentifier text = true := by
  have all : ∀ word ∈ reservedWords, isIdentifier word = true := by
    decide +kernel
  exact all text reserved

end CharacterClass

/-- A key with a method by some definitions has the function of one that
defines a method. -/
theorem Definition.exists_of_meaning?_method
    {definitions : List Definition}
    {key : PropertyKey}
    {function : FunctionRef}
    (meaning : meaning? definitions key = some (.method function)) :
    ∃ definition ∈ definitions, definition.key == key ∧
      definition.role = .method ∧ definition.function = function := by
  rw [meaning?] at meaning
  cases ends : (ofKey definitions key).getLast? with
  | none =>
      rw [ends] at meaning
      cases meaning
  | some last =>
      obtain ⟨present, isOwn⟩ := List.mem_filter.1 (List.mem_of_getLast? ends)
      rw [ends] at meaning
      dsimp only at meaning
      split at meaning
      · cases meaning
        exact ⟨last, present, isOwn, ‹_›, rfl⟩
      · cases meaning

/--
The methods of a class that was elaborated are called by their keys. Where
two symbols with one number have different descriptions, it may be the
other one of them.
-/
theorem Heap.HasElaborated.name_of_method
    {heap : Heap}
    {klass : ClassRef}
    {member : MemberOutline}
    {function : FunctionOutline}
    (has : heap.HasElaborated klass)
    (declared : member ∈ (heap.classOutline klass).entries)
    (method : member.entry = .method function) :
    ∃ own, own == member.key ∧ function.name = own.functionName := by
  obtain ⟨_, _, sources, definitions, madeBy, means⟩ := has.exists_definitions
  obtain ⟨⟨key, entry, attributes⟩, present, rfl⟩ := List.mem_map.1 declared
  have found : (heap.klass klass).prototype.lookup key = some entry :=
    congrArg (Option.map PrototypeSlot.entry)
      (OrderedMap.find?_eq_some_iff.2 ⟨key, present, BEq.rfl⟩)
  cases entry with
  | constructor => cases method
  | accessor getter setter => cases method
  | method ref =>
      have other : key ≠ .constructor := by
        rintro rfl
        cases found.symm.trans means.link_eq
      obtain ⟨definition, among, isKey, role, rfl⟩ :=
        Definition.exists_of_meaning?_method
          ((means.lookup_eq key other).symm.trans found)
      obtain ⟨source, -, made⟩ := exists_left_of_forall₂ madeBy among
      cases method
      refine ⟨definition.key, isKey, ?_⟩
      rw [Heap.functionOutline, made.function_eq, role, made.key_eq]
      rfl

namespace FunctionForm

open CharacterClass

/-- How a function expression starts. -/
def functionHead (isGenerator : Bool) : String :=
  if isGenerator then "function* " else "function "

/-- The value of a method that is a function expression of the standard, with a
name or without. -/
def IsMethodValue (code : String) : Prop :=
  ∃ isGenerator name params, (name = "" ∨ IsFunctionName name) ∧
    code = "value: " ++
      (functionHead isGenerator ++ name ++ signature params) ++ ","

/-- The name that is written for the method of a key. -/
def writtenName (key : PropertyKey) : String :=
  if key.isIdentifier then key.functionName else ""

/-- The line with the value of a method. -/
def valueLine (key : PropertyKey) (function : FunctionOutline) : Line :=
  ⟨2, "value: " ++ (functionHead function.isGenerator ++ writtenName key ++
    signature function.params) ++ ","⟩

/-- The line that opens the definition of a key in the function form of a
class. -/
def openingLine (outline : ClassOutline) (key : PropertyKey) : Line :=
  ⟨1, "Object.defineProperty(" ++ outline.renderedName ++ ".prototype, " ++
    keyExpression outline.temporaries key ++ ", \x7b"⟩

section Values

variable {key : PropertyKey} {function : FunctionOutline} {text : String}

/-- A key is an identifier if the name of its functions is one. -/
theorem isIdentifier_functionName (key : PropertyKey) :
    isIdentifier key.functionName = key.isIdentifier := by
  cases key with
  | ofText text => rfl
  | ofSymbol symbol =>
      rw [PropertyKey.functionName, PropertyKey.isIdentifier]
      cases symbol.description with
      | none => rfl
      | some description =>
          have bracket : startsIdentifier '[' = false := by decide +kernel
          have starts :
              ("[" ++ description ++ "]").toList = '[' ::
                (description ++ "]").toList := by
            simp [String.toList_append]
          simp [isIdentifier, starts, bracket]

/-- Keys that count as one are written with the same name, which no symbol
has. -/
theorem writtenName_congr {own : PropertyKey} (isKey : own == key) :
    writtenName own = writtenName key := by
  cases key with
  | ofText text => rw [PropertyKey.beq_ofText_iff.1 isKey]
  | ofSymbol symbol =>
      cases own with
      | ofText text => cases isKey
      | ofSymbol own => rfl

/-- The stub of a function that is called by its key. -/
theorem functionStub_of_name
    {own : PropertyKey}
    (isKey : own == key)
    (called : function.name = own.functionName) :
    functionStub function true =
      functionHead function.isGenerator ++ writtenName key ++
        signature function.params := by
  rw [← writtenName_congr isKey, functionStub, called, Bool.true_and,
    isIdentifier_functionName]
  rfl

/-- The value of a method stands behind the line that opens the
definition of its key. -/
theorem isInfix_valueLine
    {outline : ClassOutline}
    {member : MemberOutline}
    {own : PropertyKey}
    (declared : member ∈ outline.entries)
    (method : member.entry = .method function)
    (isKey : own == member.key)
    (called : function.name = own.functionName) :
    [openingLine outline member.key, valueLine member.key function] <:+:
      outline.functionFormLines := by
  have opens :
      [openingLine outline member.key, valueLine member.key function] <+:
      entryLines outline.temporaries outline.renderedName member := by
    rw [valueLine, ← functionStub_of_name isKey called, entryLines, method]
    exact ⟨_, rfl⟩
  have inEntries := List.infix_of_mem_flatten (List.mem_map_of_mem
    (f := entryLines outline.temporaries outline.renderedName) declared)
  rw [← List.flatMap_def] at inEntries
  exact opens.isInfix.trans (inEntries.trans ⟨_, _, rfl⟩)

/-- The start of a function expression tells whether it is a generator. -/
theorem functionHead_append_inj
    {isGenerator otherGenerates : Bool}
    {rest behind : List Char}
    (same : (functionHead isGenerator).toList ++ rest =
      (functionHead otherGenerates).toList ++ behind) :
    isGenerator = otherGenerates ∧ rest = behind := by
  cases isGenerator <;> cases otherGenerates <;> simp [functionHead] at same ⊢
  · exact same
  · exact same

/-- The name in the value of a method ends at its parameters, so the value
tells the name. -/
theorem isMethodValue_iff
    {isGenerator : Bool}
    {name : String}
    {params : List String}
    (lacks : '(' ∉ name.toList) :
    IsMethodValue
      ("value: " ++ (functionHead isGenerator ++ name ++ signature params) ++
        ",") ↔
      name = "" ∨ IsFunctionName name := by
  constructor
  · rintro ⟨otherGenerates, other, otherParams, isName, same⟩
    have otherLacks : '(' ∉ other.toList := by
      rcases isName with rfl | ⟨isName, -⟩
      · exact List.not_mem_nil
      · exact notMem_of_isIdentifierName isName
          (continuesName_eq_false (by decide))
    replace same := congrArg String.toList same
    simp only [String.toList_append, List.append_assoc, signature] at same
    obtain ⟨-, behind⟩ := functionHead_append_inj (List.append_cancel_left same)
    obtain ⟨names, -⟩ := append_stop_inj lacks otherLacks behind
    rwa [String.toList_injective names]
  · exact fun isName => ⟨isGenerator, name, params, isName, rfl⟩

/-- The value of a method without a name is one of the standard. -/
theorem isMethodValue_of_unnamed (unnamed : key.isIdentifier = false) :
    IsMethodValue (valueLine key function).code :=
  ⟨function.isGenerator, "", function.params, .inl rfl, by
    rw [valueLine, writtenName, unnamed]
    rfl⟩

/-- The value of a method with a name is one of the standard just if the name
is. -/
theorem isMethodValue_valueLine_iff (identifier : isIdentifier text = true) :
    IsMethodValue (valueLine (.ofText text) function).code ↔
      IsRegular text ∧ text ∉ reservedWords := by
  have named : writtenName (.ofText text) = text := by
    rw [writtenName, PropertyKey.isIdentifier, if_pos identifier]
    rfl
  have lacks : '(' ∉ text.toList :=
    notMem_of_isIdentifier identifier (by decide)
  have nonempty : text ≠ "" := by
    rintro rfl
    exact toList_ne_nil_of_isIdentifier identifier rfl
  rw [valueLine, named, isMethodValue_iff lacks, IsFunctionName,
    isIdentifierName_iff identifier]
  exact or_iff_right nonempty

/-- The value of a method whose key is in ASCII is one of the standard just if
the key is free. -/
theorem isMethodValue_iff_of_ascii (ascii : isAscii text = true) :
    IsMethodValue (valueLine (.ofText text) function).code ↔
      text ∉ reservedWords := by
  cases identifier : isIdentifier text with
  | true =>
      rw [isMethodValue_valueLine_iff identifier]
      exact and_iff_right (isRegular_of_ascii ascii)
  | false =>
      refine iff_of_true (isMethodValue_of_unnamed identifier)
        fun reserved => ?_
      exact Bool.false_ne_true
        (identifier.symm.trans (isIdentifier_of_reserved reserved))

end Values
end FunctionForm

open FunctionForm CharacterClass in
/--
In the function form of every class that was elaborated, the definition of a key
with a method goes on with a function expression, which has the key as its name
if the key is an identifier. Without a name it is one of the standard, and with
a name it is one just if the key is regular and no reserved word. So a key in
ASCII makes one of the standard just if it is no reserved word.
-/
theorem valueLines_of_functionForm
    {heap : Heap}
    {klass : ClassRef}
    (elaborated : heap.HasElaborated klass) :
    let outline := heap.classOutline klass
    ∀ member ∈ outline.entries, ∀ function, member.entry = .method function ->
      let line := valueLine member.key function
      [openingLine outline member.key, line] <:+: outline.functionFormLines ∧
        (member.key.isIdentifier = false -> IsMethodValue line.code) ∧
        ∀ text, member.key = .ofText text ->
          (member.key.isIdentifier = true ->
            (IsMethodValue line.code ↔ IsRegular text ∧ text ∉ reservedWords)) ∧
          (isAscii text = true ->
            (IsMethodValue line.code ↔ text ∉ reservedWords)) := by
  intro outline member declared function method line
  obtain ⟨own, isKey, called⟩ := elaborated.name_of_method declared method
  refine ⟨isInfix_valueLine declared method isKey called,
    isMethodValue_of_unnamed, ?_⟩
  intro text isText
  simp only [line, isText]
  exact ⟨isMethodValue_valueLine_iff, isMethodValue_iff_of_ascii⟩

/-- A class with a generator under a free word and a method under a text
that is no word. -/
def namingDraft : ClassDraft where
  name := some "C"
  scope := ⟨0⟩
  body := {
    members := [
      ⟨.method, .literal (.ofText "deleted"), true, none, ["first"], 0⟩,
      ⟨.method, .computed (.literal (.string "new object")), false,
        none, [], 1⟩]
    constructor := none }

open FunctionForm CharacterClass in
/-- The generator has its key as its name, the method has none, and both are
of the standard. -/
theorem valueLines_of_namingDraft :
    ∃ klass after,
      elaborateAs (callWithin 1) .none .standard namingDraft .expression
          Program.initialState = .ok klass after ∧
        let lines := (after.heap.classOutline klass).functionFormLines
        (⟨2, "value: function* deleted(first) { [native code] },"⟩ ∈ lines ∧
          IsMethodValue "value: function* deleted(first) { [native code] },") ∧
        ⟨2, "value: function () { [native code] },"⟩ ∈ lines ∧
          IsMethodValue "value: function () { [native code] }," := by
  have endsWell :
      RunM.endsWell (elaborateAs (callWithin 1) .none .standard namingDraft
        .expression) Program.initialState = true := by
    decide +kernel
  obtain ⟨klass, after, elaborated⟩ := RunM.exists_of_endsWell endsWell
  have outline : firstOutline namingDraft .expression =
      after.heap.classOutline klass := by
    rw [firstOutline, elaborated]
  let deleted : MemberOutline :=
    ⟨.ofText "deleted", .method ⟨"deleted", true, ["first"]⟩, .ofMethod⟩
  let newObject : MemberOutline :=
    ⟨.ofText "new object", .method ⟨"new object", false, []⟩, .ofMethod⟩
  have entries : (after.heap.classOutline klass).entries =
      [⟨.constructor, .constructor, .ofMethod⟩, deleted, newObject] := by
    rw [← outline]
    decide +kernel
  have values := valueLines_of_functionForm
    ⟨_, _, _, _, _, _, _, elaborated, .refl _⟩
  obtain ⟨generator, -, named⟩ := values deleted (by rw [entries]; decide)
    ⟨"deleted", true, ["first"]⟩ rfl
  obtain ⟨method, unnamed, -⟩ := values newObject (by rw [entries]; decide)
    ⟨"new object", false, []⟩ rfl
  have ascii : isAscii "deleted" = true := by decide +kernel
  have free : "deleted" ∉ reservedWords := by decide +kernel
  have generatorLine :
      valueLine (.ofText "deleted") ⟨"deleted", true, ["first"]⟩ =
      ⟨2, "value: function* deleted(first) { [native code] },"⟩ := by
    decide +kernel
  have methodLine : valueLine (.ofText "new object") ⟨"new object", false, []⟩ =
      ⟨2, "value: function () { [native code] },"⟩ := by
    decide +kernel
  have isValue := ((named "deleted" rfl).2 ascii).2 free
  have isUnnamedValue := unnamed (by decide +kernel)
  simp only [deleted, newObject] at generator isValue method isUnnamedValue
  rw [generatorLine] at generator isValue
  rw [methodLine] at method isUnnamedValue
  exact ⟨klass, after, elaborated, ⟨generator.mem (by simp), isValue⟩,
    method.mem (by simp),
    isUnnamedValue⟩

/-- A class with a method whose key is a reserved word. -/
def deletingSteps : List Step :=
  [.evaluate (.klass {
    blueprint := {
      name := some "C"
      scope := none
      body := {
        members := [⟨.method, .literal (.text "delete"), false, none, [], 0⟩]
        constructor := none } }
    binding := .expression
    limits := .standard }) none]

open FunctionForm CharacterClass in
/-- The reserved word is written as the name of the function. -/
theorem not_isMethodValue_of_deletingSteps :
    let now := Program.endState (callUntil (fun _ => false) 0)
      Program.initialState deletingSteps
    let outline := now.heap.classOutline ⟨0⟩
    let value := "value: function delete() { [native code] },"
    now.heap.Holds (.klass ⟨0⟩) ∧
      ⟨.ofText "delete", .method ⟨"delete", false, []⟩, .ofMethod⟩ ∈
        outline.entries ∧
      ⟨2, value⟩ ∈ outline.functionFormLines ∧ isAscii "delete" = true ∧
      ¬ IsMethodValue value := by
  have ascii : isAscii "delete" = true := by decide +kernel
  have reserved : "delete" ∈ reservedWords := by decide +kernel
  refine ⟨?_, ?_, ?_, ascii, ?_⟩
  · show 0 < Store.size _
    decide +kernel
  · decide +kernel
  · decide +kernel
  · intro isValue
    have isLine :
      IsMethodValue (valueLine (.ofText "delete") ⟨"delete", false, []⟩).code :=
        isValue
    exact (isMethodValue_iff_of_ascii ascii).1 isLine reserved

end ClassLowering
