import ClassLowering.Proofs.Outline.Texts

/-!
# Lines of code

Code that stays on its line and does not start with a space can be told apart
again when its lines are written one below the other: every line ends at the
first line end, and its level is the number of spaces in front. All lines of the
function form of a class are of this kind when the keys are texts and the names
are identifiers, whatever characters the keys have.
-/

namespace ClassLowering

/-- The functions of an entry. -/
def EntryOutline.functions : EntryOutline -> List FunctionOutline
  | .constructor => []
  | .method function => [function]
  | .accessor getter setter => getter.toList ++ setter.toList

/-- All keys are texts, and all names are identifiers; the class may
also have none. -/
structure ClassOutline.IsLegible (outline : ClassOutline) : Prop where
  keys : ∀ key ∈ outline.keys, key.isSymbol = false
  name : outline.name = "" ∨ CharacterClass.isIdentifier outline.name = true
  params : ∀ param ∈ outline.params, CharacterClass.isIdentifier param = true
  memberParams : ∀ member ∈ outline.entries,
    ∀ function ∈ member.entry.functions,
    ∀ param ∈ function.params, CharacterClass.isIdentifier param = true

namespace FunctionForm

open CharacterClass

/-- Code that stays on its line and does not start with a space. -/
structure Line.IsPlain (line : Line) : Prop where
  staysOnLine : '\n' ∉ line.code.toList
  starts : line.code.toList.head? ≠ some ' '

/-- The characters of a line. -/
theorem Line.toList_text (line : Line) :
    line.text.toList =
      (List.replicate (4 * line.level) ' ' ++ line.code.toList) ++
        '\n' :: [] := by
  simp [Line.text]

/-- Plain lines are told apart when they are written one below the other. -/
theorem lines_inj
    {lines others : List Line}
    (plain : ∀ line ∈ lines, line.IsPlain)
    (othersPlain : ∀ line ∈ others, line.IsPlain)
    (same : String.join (lines.map Line.text) =
      String.join (others.map Line.text)) :
    lines = others := by
  have lacks : ∀ {line : Line}, line.IsPlain ->
      '\n' ∉ List.replicate (4 * line.level) ' ' ++ line.code.toList := by
    intro line isPlain present
    rcases List.mem_append.1 present with indents | codes
    · exact absurd (List.eq_of_mem_replicate indents) (by decide)
    · exact isPlain.staysOnLine codes
  replace same := congrArg String.toList same
  rw [String.toList_join, String.toList_join] at same
  induction lines generalizing others with
  | nil =>
      cases others with
      | nil => rfl
      | cons other others => simp [Line.toList_text] at same
  | cons line lines hypothesis =>
      cases others with
      | nil => simp [Line.toList_text] at same
      | cons other others =>
          obtain ⟨isPlain, further⟩ := List.forall_mem_cons.1 plain
          obtain ⟨otherPlain, othersFurther⟩ :=
            List.forall_mem_cons.1 othersPlain
          simp only [List.map_cons, List.flatMap_cons, Line.toList_text,
            List.append_assoc, List.cons_append, List.nil_append] at same
          rw [← List.append_assoc, ← List.append_assoc] at same
          obtain ⟨first, rest⟩ :=
            append_stop_inj (lacks isPlain) (lacks otherPlain) same
          obtain ⟨levels, codes⟩ :=
            replicate_append_inj isPlain.starts otherPlain.starts first
          have lineEq : line = other := by
            cases line
            cases other
            rw [Line.mk.injEq]
            exact ⟨Nat.eq_of_mul_eq_mul_left (by decide) levels,
              String.toList_injective codes⟩
          rw [lineEq, hypothesis further othersFurther rest]

section Plain

/-- An identifier stays on its line. -/
theorem staysOnLine_of_isIdentifier
    {text : String}
    (identifier : isIdentifier text = true) :
    '\n' ∉ text.toList :=
  notMem_of_isIdentifier identifier (by decide)

/-- Identifiers with commas between them stay on their line. -/
theorem staysOnLine_params
    {params : List String}
    (identifiers : ∀ param ∈ params, isIdentifier param = true) :
    '\n' ∉ (", ".intercalate params).toList :=
  notMem_intercalate (by decide) fun param declared =>
    staysOnLine_of_isIdentifier (identifiers param declared)

/-- A string literal stays on its line. -/
theorem staysOnLine_literal (text : String) : '\n' ∉ (literal text).toList := by
  simp [literal, lineEnd_notMem_literalChars text]

/-- The access to a member stays on its line. -/
theorem staysOnLine_memberAccess
    {key : PropertyKey}
    (temporaries : Temporaries)
    (isText : key.isSymbol = false) :
    '\n' ∉ (memberAccess temporaries key).toList := by
  cases key with
  | ofSymbol symbol => cases isText
  | ofText text =>
      rw [memberAccess]
      split
      next identifier => simp [staysOnLine_of_isIdentifier identifier]
      next => simp [keyExpression, staysOnLine_literal text]

/-- A function without its body has line ends and quotes only in its
parameters. -/
theorem notMem_functionStub
    {c : Char}
    {function : FunctionOutline}
    (stop : c ∈ ['\n', '"'])
    (isNamed : Bool)
    (inParams : ∀ param ∈ function.params, c ∉ param.toList) :
    c ∉ (functionStub function isNamed).toList := by
  obtain ⟨⟨generator, plain⟩, ⟨opening, comma, closing⟩, front⟩ :
      (c ∉ "function* ".toList ∧ c ∉ "function ".toList) ∧
        (c ∉ "(".toList ∧ c ∉ ", ".toList ∧
          c ∉ ") \x7b [native code] \x7d".toList) ∧ c.toNat < 48 ∧ c ≠ '$' := by
    rcases List.mem_pair.1 stop with rfl | rfl
    · decide
    · decide
  have name : c ∉ (if isNamed && isIdentifier function.name then function.name
      else "").toList := by
    split
    next named =>
      exact notMem_of_isIdentifier (Bool.and_eq_true _ _ ▸ named).2 front
    next => simp
  have keyword : c ∉ (if function.isGenerator then "function* "
      else "function ").toList := by
    split
    · exact generator
    · exact plain
  simp only [functionStub, signature, String.toList_append,
    List.mem_append, not_or]
  exact ⟨⟨keyword, name⟩, ⟨opening, notMem_intercalate comma inParams⟩, closing⟩

/-- A function without its body stays on its line. -/
theorem staysOnLine_functionStub
    {function : FunctionOutline}
    (isNamed : Bool)
    (identifiers : ∀ param ∈ function.params, isIdentifier param = true) :
    '\n' ∉ (functionStub function isNamed).toList :=
  notMem_functionStub (by decide) isNamed fun param declared =>
    staysOnLine_of_isIdentifier (identifiers param declared)

/-- The assignment of a field is plain. -/
theorem fieldLine_isPlain
    {temporaries : Temporaries}
    {field : FieldOutline}
    (isText : field.key.isSymbol = false) :
    (fieldLine temporaries field).IsPlain where
  staysOnLine := by
    have access := staysOnLine_memberAccess temporaries isText
    simp only [fieldLine, String.toList_append, List.mem_append, not_or]
    refine ⟨⟨⟨⟨by decide, access⟩, by decide⟩, ?_⟩, by decide⟩
    split <;> decide
  starts := by simp [fieldLine]

/-- One side of an accessor is plain. -/
theorem sideLines_arePlain
    {side : Option FunctionOutline}
    (label : String)
    (staysOnLine : '\n' ∉ label.toList)
    (starts : label.toList.head? = some 'g' ∨ label.toList.head? = some 's')
    (identifiers : ∀ function ∈ side, ∀ param ∈ function.params,
      isIdentifier param = true) :
    ∀ line ∈ sideLines label side, line.IsPlain := by
  intro line present
  cases side with
  | none => simp [sideLines] at present
  | some function =>
      simp only [sideLines, Option.map_some, Option.toList_some,
        List.mem_singleton] at present
      subst present
      have stub := staysOnLine_functionStub false (identifiers function rfl)
      constructor
      · simp only [String.toList_append, List.mem_append, not_or]
        exact ⟨⟨⟨staysOnLine, by decide⟩, stub⟩, by decide⟩
      · rcases starts with start | start <;> simp [start]

/-- The definition of an entry is plain. -/
theorem entryLines_arePlain
    {temporaries : Temporaries}
    {rendered : String}
    {member : MemberOutline}
    (isText : member.key.isSymbol = false)
    (name : '\n' ∉ rendered.toList)
    (identifiers : ∀ function ∈ member.entry.functions,
      ∀ param ∈ function.params, isIdentifier param = true) :
    ∀ line ∈ entryLines temporaries rendered member, line.IsPlain := by
  obtain ⟨key, entry, attributes⟩ := member
  cases key with
  | ofSymbol symbol => cases isText
  | ofText text =>
  have opening :
      Line.IsPlain ⟨1, "Object.defineProperty(" ++ rendered ++ ".prototype, " ++
        keyExpression temporaries (.ofText text) ++ ", \x7b"⟩ := by
    refine ⟨?_, by simp⟩
    simp [keyExpression, name, staysOnLine_literal text]
  have truths : ∀ b, '\n' ∉ (truthText b).toList := by decide
  have closing :
      ∀ line ∈ ([⟨2, "enumerable: " ++ truthText attributes.enumerable ++ ","⟩,
        ⟨2, "configurable: " ++ truthText attributes.configurable⟩,
        ⟨1, "\x7d);"⟩] : List Line), line.IsPlain := by
    intro line present
    rcases List.mem_cons.1 present with rfl | present
    · exact ⟨by simp [truths], by simp⟩
    rcases List.mem_cons.1 present with rfl | present
    · exact ⟨by simp [truths], by simp⟩
    · cases List.mem_singleton.1 present
      exact ⟨by decide, by decide⟩
  cases entry with
  | constructor => exact fun _ present => absurd present List.not_mem_nil
  | method function =>
      have stub := staysOnLine_functionStub true
        (identifiers function List.mem_cons_self)
      refine List.forall_mem_append.2 ⟨?_, closing⟩
      intro line present
      rcases List.mem_cons.1 present with rfl | present
      · exact opening
      rcases List.mem_cons.1 present with rfl | present
      · exact ⟨by simp [stub], by simp⟩
      · cases List.mem_singleton.1 present
        exact ⟨by simp [truths], by simp⟩
  | accessor getter setter =>
      refine List.forall_mem_append.2 ⟨List.forall_mem_append.2
        ⟨List.forall_mem_singleton.2 opening,
          List.forall_mem_append.2 ⟨?_, ?_⟩⟩, closing⟩
      · refine sideLines_arePlain "get" (by decide) (.inl rfl)
          fun function present => ?_
        exact identifiers function
          (List.mem_append_left _ (Option.mem_toList.2 present))
      · refine sideLines_arePlain "set" (by decide) (.inr rfl)
          fun function present => ?_
        exact identifiers function
          (List.mem_append_right _ (Option.mem_toList.2 present))

/-- The name in the function form stays on its line. -/
theorem staysOnLine_renderedName
    {outline : ClassOutline}
    (legible : outline.IsLegible) :
    '\n' ∉ outline.renderedName.toList := by
  rw [ClassOutline.renderedName]
  split
  next => decide
  next named =>
    exact staysOnLine_of_isIdentifier (legible.name.resolve_left named)

/-- A class whose keys are texts has no temporaries. -/
theorem temporaries_eq_nil
    {outline : ClassOutline}
    (legible : outline.IsLegible) :
    outline.temporaries = [] := by
  have none : ∀ keys : List PropertyKey, (∀ key ∈ keys, key.isSymbol = false) ->
      distinctSymbols keys = [] := by
    intro keys texts
    unfold distinctSymbols
    induction keys with
    | nil => rfl
    | cons key rest hypothesis =>
        obtain ⟨isText, others⟩ := List.forall_mem_cons.1 texts
        cases key with
        | ofSymbol symbol => cases isText
        | ofText text => exact hypothesis others
  rw [ClassOutline.temporaries, none _ legible.keys]
  rfl

/-- The constructor function is plain. -/
theorem constructorLines_arePlain
    {outline : ClassOutline}
    (legible : outline.IsLegible) :
    ∀ line ∈ constructorLines [] outline.renderedName outline,
      line.IsPlain := by
  have name := staysOnLine_renderedName legible
  have params := staysOnLine_params legible.params
  refine List.forall_mem_append.2 ⟨List.forall_mem_append.2 ⟨?_, ?_⟩, ?_⟩
  · intro line present
    rcases List.mem_cons.1 present with rfl | present
    · exact ⟨by simpa [name] using params, by simp⟩
    rcases List.mem_cons.1 present with rfl | present
    · exact ⟨by simp [name], by simp⟩
    rcases List.mem_cons.1 present with rfl | present
    · exact ⟨by simp [staysOnLine_literal], by simp⟩
    · cases List.mem_singleton.1 present
      exact ⟨by decide, by decide⟩
  · intro line present
    obtain ⟨field, declared, rfl⟩ := List.mem_map.1 present
    exact fieldLine_isPlain
      (legible.keys _ (List.mem_append_right _ (List.mem_map_of_mem declared)))
  · intro line present
    rcases List.mem_cons.1 present with rfl | present
    · exact ⟨by decide, by decide⟩
    · cases List.mem_singleton.1 present
      exact ⟨by decide, by decide⟩

/-- The function form of a legible class is plain. -/
theorem functionFormLines_arePlain
    {outline : ClassOutline}
    (legible : outline.IsLegible) :
    ∀ line ∈ outline.functionFormLines, line.IsPlain := by
  have name := staysOnLine_renderedName legible
  rw [ClassOutline.functionFormLines, temporaries_eq_nil legible, List.map_nil,
    List.append_nil]
  refine List.forall_mem_append.2
    ⟨List.forall_mem_append.2 ⟨List.forall_mem_append.2
      ⟨?_, constructorLines_arePlain legible⟩, ?_⟩, ?_⟩
  · refine List.forall_mem_singleton.2 ⟨by simp [name], by simp⟩
  · intro line present
    obtain ⟨member, declared, present⟩ := List.mem_flatMap.1 present
    refine entryLines_arePlain ?_ name
      (legible.memberParams member declared) line present
    exact legible.keys _ (List.mem_append_left _ (List.mem_map_of_mem declared))
  · intro line present
    rcases List.mem_cons.1 present with rfl | present
    · exact ⟨by simp [name], by simp⟩
    · cases List.mem_singleton.1 present
      exact ⟨by decide, by decide⟩

end Plain

end FunctionForm
end ClassLowering
