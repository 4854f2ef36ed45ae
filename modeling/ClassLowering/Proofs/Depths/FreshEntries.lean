import ClassLowering.Proofs.Depths.Reentry

/-!
# Depths of fresh entries

A body that elaborates a class or copies fields does not pass its depth on.
Computed keys and the setters of copies run at the first depth, and conversions
of keys on the second level, however deep the body is that asks for them. So
they are deeper than this body only if it is at depth zero, or for conversions
at the first depth.
-/

namespace ClassLowering

/-- A part of a body runs only bodies that satisfy a condition, and
others within these. -/
def BodyM.RunsOnly {α : Type} (run : BodyM α) (before : BodyState)
    (asked : Heap -> BodyEntry -> Prop) : Prop :=
  let after := (run.endState before).state
  ∃ events, after.record = events ++ before.state.record ∧
    Nested after.heap (asked after.heap) events

/-- A part of a body records what it runs. -/
theorem Progress.RunsBody.runsOnly
    {asked : Heap -> BodyEntry -> Prop}
    {α : Type}
    {run : BodyM α}
    {before : BodyState}
    {claim : α -> State -> Prop}
    (runs : (Progress.recording asked).RunsBody run before claim) :
    run.RunsOnly before asked := by
  obtain ⟨⟨-, events, recorded, nested⟩, -⟩ := runs.leads_endState
  exact ⟨events, recorded, nested _ (.refl _)⟩

/-- A body of an elaboration: that of a computed key at the first depth, or
of a conversion. -/
def BodyEntry.OfElaboration (heap : Heap) (entry : BodyEntry) : Prop :=
  entry.depth = 1 ∧ (heap.function entry.function).kind = .computedKey ∨
    entry.depth = 2

/-- What may run in an elaboration may be asked for there. -/
theorem coversKeys_ofElaboration :
    (Demand.asking BodyEntry.OfElaboration).CoversKeys ∧
      (Demand.asking BodyEntry.OfElaboration).Covers 2 := by
  refine ⟨fun heap invocation first key held later extension => ?_,
    fun heap invocation second _ _ _ => .inr second⟩
  refine .inl ⟨first, ?_⟩
  have same : later.function invocation.entry.function =
      heap.function invocation.function :=
    extension.function_eq invocation.function held
  rw [same]
  exact key

section Entries

variable {bound : Nat} {halt : State -> Bool} {frame : Frame}
  {holding : Holding} {body : BodyState}

/-- An elaboration runs bodies of computed keys at the first depth, and
conversions. -/
theorem runsOnly_makeClass
    (form : ClassForm Expr)
    (sound : body.Sound)
    (within : frame.Within body.state.heap) :
    (makeClass (callUntil halt bound) ⟨some frame, holding⟩ form).RunsOnly body
      BodyEntry.OfElaboration := by
  obtain ⟨keys, conversions⟩ := coversKeys_ofElaboration
  have contextWithin :
      Context.Within body.state.heap ⟨some frame, holding⟩ := by
    rintro _ ⟨⟩
    exact within
  exact (runs_makeClass form
    (serves_callUntil halt bound BodyEntry.OfElaboration)
    (fun _ => trivial) keys conversions sound contextWithin).runsOnly

/-- A copy runs setters at the first depth. -/
theorem runsOnly_copyFields
    {operands : List Value}
    (sound : body.Sound)
    (within : AllWithin body.state.heap operands) :
    (perform (callUntil halt bound) ⟨some frame, holding⟩
      (.host .copyFields) operands).RunsOnly
      body fun _ entry => entry.depth = 1 := by
  let asked : Heap -> BodyEntry -> Prop := fun _ entry => entry.depth = 1
  have covers : (Demand.asking asked).Covers 1 := fun _ _ first _ _ _ => first
  have runs : (Progress.recording asked).RunsBody
      (perform (callUntil halt bound) ⟨some frame, holding⟩
        (.host .copyFields) operands) body
      fun _ _ => True := by
    -- The rule for all operations would allow bodies below the frame, and a
    -- copy runs none.
    refine .holding_bind fun held => .lift sound ?_
    refine .asObject_bind (within.getD 0) fun object holds => ?_
    refine .bind sound.state
      (runs_copyFields _ (serves_callUntil halt bound asked held) covers
        sound.state holds) ?_
    exact fun _ _ _ _ _ => .pure trivial
  exact runs.runsOnly

end Entries

/-- How deep the bodies are that a body runs by elaborating classes and
copying fields. -/
structure EntersAfresh (call : Caller) (frame : Frame) (holding : Holding)
    (body : BodyState) :
    Prop where
  /-- Keys run at the first depth and conversions on the second level,
  wherever the body is. -/
  elaboration : ∀ form,
    (makeClass call ⟨some frame, holding⟩ form).RunsOnly body
    fun heap entry => entry.OfElaboration heap ∧
      (frame.depth < entry.depth ↔ frame.depth = 0 ∨ frame.depth = 1 ∧
        entry.depth = 2)
  /-- Setters run at the first depth, wherever the body is. -/
  copy : ∀ operands, AllWithin body.state.heap operands ->
    (perform call ⟨some frame, holding⟩ (.host .copyFields) operands).RunsOnly
      body
      fun _ entry => entry.depth = 1 ∧
      (frame.depth < entry.depth ↔ frame.depth = 0)

/-- A level is below the first one only if it is zero. -/
theorem Depth.lt_one_iff (depth : Depth) : depth < 1 ↔ depth = 0 := by
  rw [UInt32.lt_iff_toNat_lt, ← UInt32.toNat_inj]
  show depth.toNat < 1 ↔ depth.toNat = 0
  omega

/-- A level is below the second one only if it is zero or the first one. -/
theorem Depth.lt_two_iff
    (depth : Depth) :
    depth < 2 ↔ depth = 0 ∨ depth = 1 := by
  rw [UInt32.lt_iff_toNat_lt, ← UInt32.toNat_inj, ← UInt32.toNat_inj]
  show depth.toNat < 2 ↔ depth.toNat = 0 ∨ depth.toNat = 1
  omega

/-- A body within a heap enters the engine afresh. -/
theorem Frame.Within.entersAfresh
    {frame : Frame}
    {body : BodyState}
    (within : frame.Within body.state.heap)
    (halt : State -> Bool)
    (bound : Nat)
    (holding : Holding)
    (sound : body.Sound) :
    EntersAfresh (callUntil halt bound) frame holding body := by
  refine ⟨fun form => ?_, fun operands known => ?_⟩
  · obtain ⟨events, recorded, nested⟩ := runsOnly_makeClass form sound within
    refine ⟨events, recorded, nested.mono fun entry entered => ⟨entered, ?_⟩⟩
    rcases entered with ⟨first, -⟩ | second
    · rw [first, Depth.lt_one_iff]
      simp
    · rw [second, Depth.lt_two_iff]
      simp
  · obtain ⟨events, recorded, nested⟩ := runsOnly_copyFields sound known
    refine ⟨events, recorded, nested.mono fun entry first => ⟨first, ?_⟩⟩
    rw [first, Depth.lt_one_iff]

/--
Wherever a program is stopped and whatever a body has done from there, the keys,
conversions and setters that the body runs by elaborating classes and copying
fields are at the first two depths. Recursion through them is never refused: it
nests without bound.
-/
theorem depths_of_freshEntries
    {steps : List Step}
    {frame : Frame}
    (stop halt : State -> Bool)
    (stepBound bound : Nat)
    (holding : Holding)
    (earlier : Expr)
    (within : frame.Within
      (Program.endState (callUntil stop stepBound) Program.initialState
        steps).heap) :
    let before := Program.endState
      (callUntil stop stepBound) Program.initialState steps
    let call := callUntil halt bound
    let body := (evaluate call ⟨some frame, holding⟩ earlier).endState
      ⟨before, ∅, .empty⟩
    EntersAfresh call frame holding body ∧
      NestsWithoutBound (.call ⟨0⟩ .undefined []) elaboratingState ∧
        NestsWithoutBound (.set ⟨0⟩ copiedKey .null) copyingState := by
  intro before call body
  refine ⟨?_, nestsWithoutBound_elaborating, nestsWithoutBound_copying⟩
  have sound : before.Sound :=
    Program.sound_endState stop stepBound steps Program.sound_initialState
  have contextWithin : Context.Within before.heap ⟨some frame, holding⟩ := by
    rintro _ ⟨⟩
    exact within
  have total := Demand.total_asking
  have runs := runs_evaluate
    (serves_callUntil halt bound fun _ _ => True) earlier
    total.allows (.inr total.fresh) sound.start contextWithin
  obtain ⟨⟨moves, -⟩, soundBody⟩ := runs.leads_endState
  exact (within.mono moves.path.extension).entersAfresh halt bound
    holding soundBody

/-- The function that elaborates a class enters the engine afresh from
its second level. -/
theorem depths_of_freshEntries_elaborating :
    let steps : List Step := [.evaluate (.function "again" elaborating) none]
    let before := Program.endState
      (callUntil (fun _ => false) 0) Program.initialState steps
    let frame : Frame := ⟨⟨0⟩, .undefined, [], ⟨0⟩, 2, none⟩
    let body :=
      (evaluate (callUntil (fun _ => false) 3)
        ⟨some frame, .none⟩ .nothing).endState
      ⟨before, ∅, .empty⟩
    frame.Within before.heap ∧
      EntersAfresh (callUntil (fun _ => false) 3) frame .none body := by
  intro steps before frame body
  have callee : before.heap.Holds (.function ⟨0⟩) := by
    show 0 < before.heap.functions.size
    decide +kernel
  have home : before.heap.Holds (.scope ⟨0⟩) := by
    show 0 < before.heap.scopes.size
    decide +kernel
  have within : frame.Within before.heap :=
    ⟨callee, Value.within_undefined, .nil, home⟩
  exact ⟨within,
    (depths_of_freshEntries (fun _ => false) (fun _ => false) 0 3 .none .nothing
      within).1⟩

end ClassLowering
