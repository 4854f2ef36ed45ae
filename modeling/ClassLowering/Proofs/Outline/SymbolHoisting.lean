import ClassLowering.Proofs.Outline.Hygiene

/-!
# The hoisting of symbols

The function form is written in two passes over the keys of a class. The
first collects the symbols, and declares a temporary for each at the top of
the wrapper. The second writes the keys, those of fields in the constructor
and those of entries behind it, and looks up the temporary of every symbol
that it meets.

The passes agree: the symbols that are met are among those that were collected,
so that no lookup fails. Each symbol has one temporary and each temporary one
symbol. What a symbol is, is settled by its number alone; of several
descriptions under one number, the temporary is declared with the first.
-/

namespace ClassLowering

namespace FunctionForm

/-- The temporary that an occurrence is one of: where it is, the number of its
symbol, its name. -/
def Occurrence.mention? (occurrence : Occurrence) :
    Option (Place × SymbolNumber × String) :=
  match occurrence.referent with
  | .temporary symbol => some (occurrence.place, symbol, occurrence.name)
  | _ => none

/-- The mention of the symbol of a key, if the key has one. -/
def keyMention? (temporaries : Temporaries) (place : Place)
    (key : PropertyKey) :
    Option (Place × SymbolNumber × String) :=
  key.symbol?.map fun symbol =>
    (place, symbol.number, temporary temporaries symbol)

open MarkedLine

/-- The assignments of fields mention the symbols of their keys, in order. -/
theorem mentions_markedField
    (temporaries : Temporaries)
    (fields : List FieldOutline) :
    (uses (fields.map (markedField temporaries))).filterMap
      Occurrence.mention? =
      fields.filterMap fun field =>
        keyMention? temporaries .constructor field.key := by
  induction fields with
  | nil => rfl
  | cons field rest hypothesis =>
      have own :
          ((markedField temporaries field).pieces.filterMap
            Piece.use?).filterMap
          Occurrence.mention? =
            (keyMention? temporaries .constructor field.key).toList := by
        simp only [markedField, markedAccess]
        cases field.key with
        | ofText text =>
            split <;> simp [markedKey, keyMention?, List.filterMap_cons]
        | ofSymbol symbol =>
            simp [markedKey, keyMention?, PropertyKey.isIdentifier,
              Occurrence.mention?, List.filterMap_cons]
      rw [List.map_cons, uses_cons, List.filterMap_append, own, hypothesis,
        List.filterMap_cons]
      cases keyMention? temporaries .constructor field.key <;> rfl

/-- The constructor function mentions the symbols of fields. -/
theorem mentions_markedConstructor
    (temporaries : Temporaries)
    (rendered : String)
    (outline : ClassOutline) :
    (uses (markedConstructor temporaries rendered outline)).filterMap
      Occurrence.mention? =
      outline.fields.filterMap fun field =>
        keyMention? temporaries .constructor field.key := by
  have params := uses_markedParams outline.params
  simp only [markedConstructor, uses_append, uses_ofLine, List.append_nil,
    List.filterMap_append, mentions_markedField]
  simp [params, List.filterMap_cons, Occurrence.mention?]

/-- Only the link to the class has no definition. -/
theorem descriptionLines_eq_none_iff
    {attributes : Attributes}
    {entry : EntryOutline} :
    descriptionLines attributes entry = none ↔ entry = .constructor := by
  cases entry <;> simp [descriptionLines]

/-- The definition of an entry mentions the symbol of its key. The link to the
class has none. -/
theorem mentions_markedEntry
    (temporaries : Temporaries)
    (rendered : String)
    (member : MemberOutline) :
    (uses (markedEntry temporaries rendered member)).filterMap
      Occurrence.mention? = if member.entry = .constructor then []
      else (keyMention? temporaries .wrapper member.key).toList := by
  rw [markedEntry]
  cases described : descriptionLines member.attributes member.entry with
  | none =>
      rw [if_pos (descriptionLines_eq_none_iff.1 described)]
      rfl
  | some description =>
      have ordinary : member.entry ≠ .constructor := by
        intro isLink
        rw [descriptionLines_eq_none_iff.2 isLink] at described
        cases described
      simp only [if_neg ordinary, uses_cons, uses_ofLine, List.append_nil]
      cases member.key <;>
        simp [markedKey, keyMention?, Occurrence.mention?, List.filterMap_cons]

end FunctionForm

open FunctionForm MarkedLine

namespace ClassOutline

/-- The symbols among the keys of a class, with repetitions: keys of the
prototype come first. -/
def symbolKeys (outline : ClassOutline) : List Symbol :=
  outline.keys.filterMap PropertyKey.symbol?

/-- The keys that the function form writes, and where: every key but
those of links. -/
def writtenKeys (outline : ClassOutline) : List (Place × PropertyKey) :=
  outline.fields.map (fun field => (.constructor, field.key)) ++
    (outline.entries.filter fun member => member.entry ≠ .constructor).map
      fun member =>
      (.wrapper, member.key)

/-- The symbols that the function form writes, and where. -/
def writtenSymbols (outline : ClassOutline) : List (Place × Symbol) :=
  outline.writtenKeys.filterMap fun written =>
    written.2.symbol?.map (written.1, ·)

/-- The function form mentions a temporary wherever it writes a symbol,
and nowhere else. -/
theorem mentions_markedLines (outline : ClassOutline) :
    (uses outline.markedLines).filterMap Occurrence.mention? =
      outline.writtenSymbols.map fun written =>
        (written.1, written.2.number,
          temporary outline.temporaries written.2) := by
  have entries : (uses (outline.entries.flatMap
      (markedEntry outline.temporaries outline.renderedName))).filterMap
      Occurrence.mention? =
        (outline.entries.filter fun member =>
          member.entry ≠ .constructor).filterMap fun member =>
          keyMention? outline.temporaries .wrapper member.key := by
    induction outline.entries with
    | nil => rfl
    | cons member rest hypothesis =>
        rw [List.flatMap_cons, uses_append, List.filterMap_append, hypothesis,
          mentions_markedEntry, List.filter_cons]
        split
        next isLink => simp [isLink]
        next ordinary =>
          rw [if_pos (decide_eq_true ordinary), List.filterMap_cons]
          cases keyMention? outline.temporaries .wrapper member.key <;> rfl
  have both : (uses outline.markedLines).filterMap Occurrence.mention? =
      outline.writtenKeys.filterMap fun written =>
        keyMention? outline.temporaries written.1 written.2 := by
    simp only [markedLines, uses_append, uses_markedTemporary, List.append_nil,
      List.filterMap_append, mentions_markedConstructor, entries, writtenKeys]
    simp [List.filterMap_map, List.filterMap_cons, ofLine, Occurrence.mention?]
  rw [both, writtenSymbols, List.map_filterMap]
  simp only [keyMention?, Option.map_map, Function.comp_def]

/-- The function form declares the temporaries and no other. -/
theorem declarations_markedLines (outline : ClassOutline) :
    (bindings outline.markedLines).filterMap Occurrence.mention? =
      outline.temporaries.map fun named =>
        (.wrapper, named.1.number, named.2) := by
  have params : (outline.params.zipIdx.map fun indexed =>
      (⟨.constructor, .parameter indexed.2, indexed.1⟩ : Occurrence)).filterMap
        Occurrence.mention? = [] := by
    rw [List.filterMap_map]
    exact List.filterMap_eq_nil_iff.2 fun _ _ => rfl
  rw [bindings_markedLines, List.filterMap_append, List.filterMap_cons_none rfl,
    List.filterMap_cons_none rfl, params, List.append_nil, List.filterMap_map]
  exact congrFun List.filterMap_eq_map _

/-- The temporaries of a class name its symbols as they first occur. -/
theorem temporaries_eq (outline : ClassOutline) :
    outline.temporaries = nameSymbols outline.symbolKeys.eraseDups :=
  congrArg nameSymbols (distinctSymbols_eq_eraseDups outline.keys)

/-- The temporaries of a class are for its symbols, each once. -/
theorem map_fst_temporaries (outline : ClassOutline) :
    outline.temporaries.map Prod.fst = outline.symbolKeys.eraseDups := by
  rw [temporaries_eq, map_fst_nameSymbols]

/-- The numbers that have temporaries are those of the symbols, as they first
occur. -/
theorem map_number_temporaries (outline : ClassOutline) :
    outline.temporaries.map (·.1.number) =
      (outline.symbolKeys.map Symbol.number).eraseDups := by
  have alike : ∀ first second : Symbol,
      (first.number == second.number) = (first == second) :=
    fun _ _ => rfl
  rw [eraseDups_map alike, ← map_fst_temporaries, List.map_map]
  rfl

/-- No two temporaries are for symbols with one number. -/
theorem nodup_numbers (outline : ClassOutline) :
    (outline.temporaries.map (·.1.number)).Nodup := by
  rw [map_number_temporaries]
  exact (pairwise_eraseDups _).imp fun apart same => apart (beq_iff_eq.2 same)

/-- A symbol that is written is the symbol of a key. -/
theorem mem_keys_of_written
    {outline : ClassOutline}
    {written : Place × Symbol}
    (present : written ∈ outline.writtenSymbols) :
    .ofSymbol written.2 ∈ outline.keys := by
  obtain ⟨⟨place, key⟩, isWritten, symbol⟩ := List.mem_filterMap.1 present
  obtain ⟨symbol, hasSymbol, rfl⟩ := Option.map_eq_some_iff.1 symbol
  rw [← PropertyKey.symbol?_eq_some_iff.1 hasSymbol]
  rcases List.mem_append.1 isWritten with ofField | ofEntry
  · obtain ⟨field, declared, same⟩ := List.mem_map.1 ofField
    cases same
    exact List.mem_append_right _ (List.mem_map_of_mem declared)
  · obtain ⟨member, declared, same⟩ := List.mem_map.1 ofEntry
    cases same
    exact List.mem_append_left _
      (List.mem_map_of_mem (List.mem_of_mem_filter declared))

/-- A mention is that of a temporary that is declared, by the number of its
symbol. -/
theorem exists_temporary_of_mention
    {outline : ClassOutline}
    {mention : Place × SymbolNumber × String}
    (present : mention ∈ (uses outline.markedLines).filterMap
      Occurrence.mention?) :
    ∃ named ∈ outline.temporaries, (named.1.number, named.2) = mention.2 := by
  rw [mentions_markedLines] at present
  obtain ⟨written, isWritten, rfl⟩ := List.mem_map.1 present
  obtain ⟨owner, owned, named⟩ := temporary_mem (mem_keys_of_written isWritten)
  exact ⟨_, named, Prod.ext owned rfl⟩

/-- The lookup of a symbol among the keys ends at the temporary of its
number. -/
theorem find?_temporaries
    {outline : ClassOutline}
    {symbol : Symbol}
    (present : .ofSymbol symbol ∈ outline.keys) :
    ∃ owner, owner.number = symbol.number ∧
      (outline.temporaries.find? fun named => named.1.number = symbol.number) =
        some (owner, temporary outline.temporaries symbol) := by
  have alike :
      (fun named : Symbol × String => decide (named.1.number = symbol.number)) =
      fun named => named.1 == symbol :=
    rfl
  rw [alike]
  cases found : outline.temporaries.find? fun named => named.1 == symbol with
  | none =>
      obtain ⟨owner, owned, named⟩ := temporary_mem present
      exact absurd (Symbol.beq_iff.2 owned) (List.find?_eq_none.1 found _ named)
  | some named =>
      have owned : named.1.number = symbol.number :=
        Symbol.beq_iff.1 (by simpa using List.find?_some found)
      refine ⟨named.1, owned, ?_⟩
      rw [temporary, found]

/-- Two temporaries have the same name just if they are for symbols with one
number. -/
theorem name_eq_iff_of_mem
    {outline : ClassOutline}
    {named other : Symbol × String}
    (present : named ∈ outline.temporaries)
    (otherPresent : other ∈ outline.temporaries) :
    named.2 = other.2 ↔ named.1.number = other.1.number := by
  refine ⟨fun same => ?_, fun same => ?_⟩
  · have equal := List.inj_on_of_nodup_map
      (nodup_names _) present otherPresent same
    rw [equal]
  · have equal := List.inj_on_of_nodup_map outline.nodup_numbers present
      otherPresent same
    rw [equal]

/-- How the temporaries of a function form stand for the symbols among the
keys of the class. -/
structure HoistsSymbols (outline : ClassOutline) : Prop where
  /-- The marked lines are the function form. -/
  written : outline.markedLines.map MarkedLine.line = outline.functionFormLines
  /-- The temporaries are declared at the top of the wrapper. -/
  atTop : (outline.functionFormLines.drop 1).take outline.temporaries.length =
    outline.temporaries.map temporaryLine
  /-- Each is declared once, and no other temporary is. -/
  declared : (bindings outline.markedLines).filterMap Occurrence.mention? =
    outline.temporaries.map fun named => (.wrapper, named.1.number, named.2)
  /-- There is one for each number of a symbol among the keys, in the
  order of first use. -/
  firstUse : outline.temporaries.map (·.1.number) =
    (outline.symbolKeys.map Symbol.number).eraseDups
  oncePerSymbol : (outline.temporaries.map (·.1.number)).Nodup
  /-- It is declared for the symbol of this number that comes first. -/
  declaredFor : outline.temporaries.map Prod.fst = outline.symbolKeys.eraseDups
  /-- Their names count up from the first one, and no two are the same. -/
  named : outline.temporaries.map Prod.snd =
    (List.range outline.temporaries.length).map temporaryName
  distinct : (outline.temporaries.map Prod.snd).Nodup
  /-- Wherever a symbol is written, its temporary is, and nowhere else is
  one. -/
  mentioned : (uses outline.markedLines).filterMap Occurrence.mention? =
    outline.writtenSymbols.map fun written =>
      (written.1, written.2.number, temporary outline.temporaries written.2)
  /-- No lookup fails: the symbols that are written are among the keys, and
  those have one. -/
  writtenOfKeys : ∀ written ∈ outline.writtenSymbols,
    .ofSymbol written.2 ∈ outline.keys
  found : ∀ symbol, .ofSymbol symbol ∈ outline.keys ->
    ∃ owner, owner.number = symbol.number ∧
    (outline.temporaries.find? fun named => named.1.number = symbol.number) =
      some (owner, temporary outline.temporaries symbol)
  /-- A name that is mentioned is declared once, for the number that is
  meant. -/
  resolved : ∀ mention ∈ (uses outline.markedLines).filterMap
    Occurrence.mention?,
    ((outline.temporaries.filter fun named => named.2 = mention.2.2).map
      fun named =>
      (named.1.number, named.2)) = [mention.2]
  /-- Two mentions have the same name just if they are of symbols with
  the same number. -/
  sameName_iff : ∀ mention ∈
    (uses outline.markedLines).filterMap Occurrence.mention?,
    ∀ other ∈ (uses outline.markedLines).filterMap Occurrence.mention?,
      mention.2.2 = other.2.2 ↔ mention.2.1 = other.2.1

/-- One temporary alone has the name of a temporary. -/
theorem filter_name_of_mem
    {outline : ClassOutline}
    {named : Symbol × String}
    (present : named ∈ outline.temporaries) :
    (outline.temporaries.filter fun other => other.2 = named.2) = [named] := by
  have names : (outline.temporaries.map Prod.snd).Nodup := nodup_names _
  have once : outline.temporaries.Nodup := names.of_map
  refine List.perm_singleton.1
    ((List.perm_ext_iff_of_nodup (once.filter _) (List.nodup_singleton named)).2
      fun other => ?_)
  rw [List.mem_filter, List.mem_singleton, decide_eq_true_eq]
  constructor
  · rintro ⟨otherPresent, same⟩
    exact List.inj_on_of_nodup_map names otherPresent present same
  · rintro rfl
    exact ⟨present, rfl⟩

/-- The hoisting of symbols is complete and one-to-one in every function
form. -/
theorem hoistsSymbols (outline : ClassOutline) : outline.HoistsSymbols where
  written := lines_markedLines outline
  atTop := by
    have size : outline.temporaries.length =
        (outline.temporaries.map temporaryLine).length :=
      (List.length_map temporaryLine).symm
    simp only [functionFormLines, List.append_assoc, List.cons_append,
      List.nil_append, List.drop_one, List.tail_cons]
    rw [size, List.take_left]
  declared := declarations_markedLines outline
  firstUse := map_number_temporaries outline
  oncePerSymbol := nodup_numbers outline
  declaredFor := map_fst_temporaries outline
  named := by
    have size : outline.temporaries.length =
        outline.symbolKeys.eraseDups.length := by
      rw [← map_fst_temporaries, List.length_map]
    rw [size, temporaries_eq, map_snd_nameSymbols]
  distinct := nodup_names _
  mentioned := mentions_markedLines outline
  writtenOfKeys _ := mem_keys_of_written
  found _ := find?_temporaries
  resolved mention present := by
    obtain ⟨named, declared, same⟩ := exists_temporary_of_mention present
    rw [← same, filter_name_of_mem declared]
    rfl
  sameName_iff mention present other otherPresent := by
    obtain ⟨named, declared, same⟩ := exists_temporary_of_mention present
    obtain ⟨otherNamed, otherDeclared, otherSame⟩ :=
      exists_temporary_of_mention otherPresent
    rw [← same, ← otherSame]
    exact name_eq_iff_of_mem declared otherDeclared

end ClassOutline
end ClassLowering
