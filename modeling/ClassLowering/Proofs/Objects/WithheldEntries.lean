import ClassLowering.Proofs.Elaboration.KeyEntries
import ClassLowering.Proofs.Objects.ConstructorEntries

/-!
# Entries of withheld functions

The engine hands out neither constructors nor the functions of computed keys. So
the body of a withheld function is entered where the engine calls it itself: at
the end of a construction, or in the elaboration of a class. This module says so
of the bodies that are entered between two states, for the withheld functions
that do not ask for themselves.

A constructor is called with an object that is made for the call, and the
function of a key is itself made for the call. What is made later is something
else. So it is enough to know of every entry that what was made for it was made
after the first state, and that no two entries agree in it.
-/

namespace ClassLowering

/-- Withheld functions that do not ask for themselves are hidden from the
bodies. -/
structure Heap.Hides (heap : Heap) (function : FunctionRef) : Prop where
  withheld : (heap.function function).kind.isWithheld = true
  avoids : (heap.function function).body.avoidsCallee = true

/-- What the engine enters the body of a withheld function for, in a state. -/
inductive EntersWithheld : FunctionKind -> BodyEntry -> State -> Prop
  | constructor {klass : ClassRef} {entry : BodyEntry} {between : State} :
      EndsConstruction klass entry between ->
        EntersWithheld .constructor entry between
  | key {entry : BodyEntry} {between : State} :
      EvaluatesKey entry between -> EntersWithheld .computedKey entry between

/-- What is made for an entry: the object that the body receives, or
else the function. -/
def BodyEntry.madeFor (entry : BodyEntry) : AnyRef :=
  match entry.receiver with
  | .object object => .object object
  | _ => .function entry.function

/-- The function of a key is made for its entry. -/
theorem EvaluatesKey.madeFor
    {entry : BodyEntry}
    {between : State}
    (evaluates : EvaluatesKey entry between) :
    entry.madeFor = .function entry.function := by
  cases evaluates with
  | of _ _ _ isEntry =>
      rw [isEntry]
      rfl

/-- A body is entered after the older events, which go on from earlier ones. -/
structure EntersAfter (first last : List BodyEvent) (entry : BodyEntry)
    (older : List BodyEvent) : Prop where
  recorded : .entered entry :: older <:+ last
  since : first <:+ older

namespace EntersAfter

variable {first middle last older : List BodyEvent} {entry : BodyEntry}

/-- A body is entered before or after a moment in between. -/
theorem split
    (enters : EntersAfter first last entry older)
    (within : middle <:+ last) :
    EntersAfter first middle entry older ∨
      EntersAfter middle last entry older := by
  rcases List.suffix_or_suffix_of_suffix enters.recorded within
    with inside | outside
  · exact .inl ⟨inside, enters.since⟩
  · rcases List.suffix_cons_iff.1 outside with same | further
    · exact .inl ⟨same ▸ List.suffix_rfl, enters.since⟩
    · exact .inr ⟨enters.recorded, further⟩

/-- Where nothing is recorded, no body is entered. -/
theorem not_self : ¬ EntersAfter first first entry older := by
  intro enters
  have shorter := enters.recorded.length_le
  have longer := enters.since.length_le
  rw [List.length_cons] at shorter
  omega

/-- Where one event is recorded, it is that of the only body that is entered. -/
theorem cons
    {event : BodyEvent}
    (enters : EntersAfter first (event :: first) entry older) :
    event = .entered entry ∧ older = first := by
  rcases List.suffix_cons_iff.1 enters.recorded with same | further
  · obtain ⟨rfl, rfl⟩ := List.cons.inj same
    exact ⟨rfl, rfl⟩
  · exact absurd ⟨further, enters.since⟩ not_self

end EntersAfter

/--
Between two states, hidden functions are entered only where the engine calls
them, and each time for something that is new, and another thing each time.
-/
structure State.EntersOnly (final : Heap) (first last : State) : Prop where
  heap : first.heap.Extends last.heap
  recorded : first.record <:+ last.record
  ends {entry : BodyEntry} {older : List BodyEvent} :
    EntersAfter first.record last.record entry older ->
      final.Hides entry.function ->
      ∃ between, EntersWithheld (final.function entry.function).kind
        entry between ∧ between.record = older ∧ between.heap.Extends last.heap
  fresh {entry : BodyEntry} {older : List BodyEvent} :
    EntersAfter first.record last.record entry older ->
      final.Hides entry.function ->
      ¬ first.heap.Holds entry.madeFor ∧ last.heap.Holds entry.madeFor
  apart {entry other : BodyEntry} {older past : List BodyEvent} :
    EntersAfter first.record last.record entry older ->
      EntersAfter first.record older other past -> final.Hides entry.function ->
        final.Hides other.function -> entry.madeFor ≠ other.madeFor

namespace State.EntersOnly

variable {final : Heap} {first second third : State}

/-- Where no hidden function is entered, nothing is to be said. -/
theorem of_none
    (heap : first.heap.Extends second.heap)
    (recorded : first.record <:+ second.record)
    (none : ∀ {entry : BodyEntry} {older : List BodyEvent},
      EntersAfter first.record second.record entry older ->
        ¬ final.Hides entry.function) :
    first.EntersOnly final second where
  heap := heap
  recorded := recorded
  ends enters hidden := absurd hidden (none enters)
  fresh enters hidden := absurd hidden (none enters)
  apart enters _ hidden _ := absurd hidden (none enters)

/-- Nothing is entered where nothing is recorded. -/
theorem quiet
    (heap : first.heap.Extends second.heap)
    (same : second.record = first.record) :
    first.EntersOnly final second :=
  of_none heap (same ▸ List.suffix_rfl) fun enters =>
    absurd (same ▸ enters) EntersAfter.not_self

/-- Nothing is entered where a body is left. -/
theorem leaving (state : State) (interruption : Option Interruption) :
    state.EntersOnly final (state.leaving interruption) := by
  refine of_none (.refl _) (List.suffix_cons _ _) fun enters => ?_
  exact nomatch enters.cons.1

/-- Other bodies may be entered anywhere. -/
theorem entering
    (state : State)
    {entry : BodyEntry}
    (shown : ¬ final.Hides entry.function) :
    state.EntersOnly final (state.entering entry) := by
  refine of_none (.refl _) (List.suffix_cons _ _) fun enters => ?_
  obtain ⟨same, -⟩ := enters.cons
  exact BodyEvent.entered.inj same ▸ shown

/-- Hidden functions are entered only as they should be, first for some time
and then further. -/
theorem trans
    (earlier : first.EntersOnly final second)
    (later : second.EntersOnly final third) :
    first.EntersOnly final third where
  heap := earlier.heap.trans later.heap
  recorded := earlier.recorded.trans later.recorded
  ends enters hidden := by
    rcases enters.split later.recorded with before | after
    · obtain ⟨between, ends, same, extended⟩ := earlier.ends before hidden
      exact ⟨between, ends, same, extended.trans later.heap⟩
    · exact later.ends after hidden
  fresh enters hidden := by
    rcases enters.split later.recorded with before | after
    · obtain ⟨new, held⟩ := earlier.fresh before hidden
      exact ⟨new, later.heap.holds _ held⟩
    · obtain ⟨new, held⟩ := later.fresh after hidden
      exact ⟨fun old => new (earlier.heap.holds _ old), held⟩
  apart enters others hidden otherHidden := by
    rcases enters.split later.recorded with before | after
    · exact earlier.apart before others hidden otherHidden
    · rcases others.split after.since with old | new
      · -- What was made for the earlier one is held when that for the later
        -- one is made.
        intro same
        exact (later.fresh after hidden).1
          (same ▸ (earlier.fresh old otherHidden).2)
      · exact later.apart after new hidden otherHidden

/--
A hidden function is entered where the engine calls it, in a state that is
reached from one in which what is made for the entry is there.
-/
theorem withheld
    {made between : State}
    {entry : BodyEntry}
    (leads : made.EntersOnly final between)
    (makes : first.heap.Extends made.heap)
    (same : made.record = first.record)
    (new : ¬ first.heap.Holds entry.madeFor)
    (held : made.heap.Holds entry.madeFor)
    (enters : EntersWithheld (final.function entry.function).kind
      entry between) :
    first.EntersOnly final (between.entering entry) := by
  have starts := (quiet makes same).trans leads
  have entered {other : BodyEntry} {older : List BodyEvent}
      (enters : EntersAfter first.record
        (between.entering entry).record other older) :
      EntersAfter first.record between.record other older ∨
        other = entry ∧ older = between.record := by
    rcases enters.split (List.suffix_cons (.entered entry) between.record)
      with before | last
    · exact .inl before
    · obtain ⟨same, rfl⟩ := last.cons
      exact .inr ⟨(BodyEvent.entered.inj same).symm, rfl⟩
  constructor
  · exact starts.heap
  · exact starts.recorded.trans (List.suffix_cons _ _)
  · intro other older recorded hidden
    rcases entered recorded with before | ⟨rfl, rfl⟩
    · exact starts.ends before hidden
    · exact ⟨between, enters, rfl, .refl _⟩
  · intro other older recorded hidden
    rcases entered recorded with before | ⟨rfl, rfl⟩
    · exact starts.fresh before hidden
    · exact ⟨new, leads.heap.holds _ held⟩
  · intro other another older past recorded others hidden otherHidden
    rcases entered recorded with before | ⟨rfl, rfl⟩
    · exact starts.apart before others hidden otherHidden
    · -- What is made for an entry in between is made when that for the last
      -- one is there.
      rcases others.split (same ▸ leads.recorded) with none | within
      · exact absurd none EntersAfter.not_self
      · rw [← same] at within
        intro equal
        exact (leads.fresh within otherHidden).1 (equal ▸ held)

end State.EntersOnly

end ClassLowering
