import ClassLowering.Proofs.Runs.Recording

/-!
# Single bodies

A function that is called within its limit enters its body once and leaves it
once, however the body ends. Whatever else is recorded meanwhile are bodies
within this one.

The bodies of several calls, one after another, are recorded one after another.
So a record can be read as the list of the outermost bodies that ran.
-/

namespace ClassLowering

/-- One body is entered and left between two states, and no other that is
not within it. -/
structure BodyEntry.RunsOnce (entry : BodyEntry)
    (interruption : Option Interruption) (before after : State) : Prop where
  moves : before.Moves (fun _ => True) after
  /-- All that is recorded is the body, with a history of bodies within it. -/
  recorded : ∃ inner,
    after.record = .left interruption ::
      (inner ++ .entered entry :: before.record) ∧
      ∀ later, after.heap.Extends later ->
        Nested later (entry.AsksFor later) inner

section Bodies

variable {call : Caller} {before : State}

/-- Running a body in its frame runs it once. -/
theorem runInFrame_once
    {context : Context}
    {frame : Frame}
    {entry : BodyEntry}
    {body : Expr}
    (serves : ∀ asked holding,
      (Progress.recording asked).Serves (Demand.asking asked) (call holding))
    (inFrame : context.frame = some frame)
    (sameDepth : frame.depth = entry.depth)
    (isBody : (before.heap.function entry.function).body = body)
    (held : before.heap.Holds (.function entry.function))
    (sound : before.Sound)
    (within : frame.Within before.heap) :
    match runInFrame call context entry body before with
    | .ok result after => entry.RunsOnce none before after ∧
        result.1.Known after ∧ AllWithin after.heap result.2.values
    | .error interruption after =>
        entry.RunsOnce (some interruption) before after := by
  let start := before.entering entry
  have soundStart : start.Sound := ⟨sound.heap, sound.session⟩
  have below := Demand.coversBelow_askedFrom body.keepsToFrame frame.depth
  have runs := Progress.runs_start
    (runs_evaluate (serves _) body (below.allows inFrame)
      (Demand.coversFresh_askedFrom _ _) soundStart.start
      (within.context inFrame))
  have once : ∀ interruption after, (Progress.recording
      (BodyEntry.AskedFrom body.keepsToFrame frame.depth)).Leads start after ->
        entry.RunsOnce interruption before (after.leaving interruption) := by
    rintro interruption after ⟨⟨path, session⟩, inner, recorded, nested⟩
    refine ⟨⟨path, session⟩, inner, by
      simp [State.leaving, recorded, start, State.entering], ?_⟩
    intro later extension
    have same : later.function entry.function =
        before.heap.function entry.function :=
      (path.extension.trans extension).function_eq entry.function held
    unfold BodyEntry.AsksFor
    rw [same, isBody, ← sameDepth]
    exact nested later extension
  unfold Progress.Runs at runs
  cases ended : BodyM.start (evaluate call context body) start with
  | ok result after =>
      rw [ended] at runs
      rw [runInFrame_of_ok ended]
      exact ⟨once none after runs.1, runs.2⟩
  | error interruption after =>
      rw [ended] at runs
      rw [runInFrame_of_error ended]
      exact once (some interruption) after runs.1

/-- What a run of a function makes of the result of its body moves the state
without events. -/
theorem conclude_quiet
    {result : Value × YieldBuffer}
    (cell : FunctionCell)
    (known : result.1.Known before)
    (yieldsKnown : AllWithin before.heap result.2.values) :
    ∃ value after, cell.conclude result before = .ok value after ∧
      before.Moves (fun _ => True) after ∧ after.record = before.record ∧
        value.Known after := by
  unfold FunctionCell.conclude
  dsimp only
  split
  · let made := before.heap.newGenerator result.2.values result.1
    refine ⟨.generator made.1, { before with heap := made.2 }, rfl,
      .of_path (.single (.generator _ _ yieldsKnown known)), rfl, ?_⟩
    exact (Value.within_generator _).2 (before.heap.holds_newGenerator _ _)
  · exact ⟨result.1, before, rfl, .refl before, rfl, known⟩

/-- How a call ends that runs one body: with a value of the heap, or with
an interruption. -/
def BodyEntry.Ends (entry : BodyEntry) (before : State) :
    EStateM.Result Interruption State Value -> Prop
  | .ok value after => entry.RunsOnce none before after ∧ value.Known after
  | .error interruption after => entry.RunsOnce (some interruption) before after

/-- A call that runs one body has run it once when it ends, however it ends. -/
theorem BodyEntry.Ends.runsOnce
    {entry : BodyEntry}
    {run : RunM Value}
    (ends : entry.Ends before (run before)) :
    entry.RunsOnce (run.interruption? before) before (run.endState before) := by
  rw [RunM.interruption?, RunM.endState]
  cases ended : run before with
  | ok value after =>
      rw [ended] at ends
      exact ends.1
  | error interruption after =>
      rw [ended] at ends
      exact ends

/-- A body that runs once after a move without events runs once since
before the move. -/
theorem BodyEntry.RunsOnce.after_quiet
    {entry : BodyEntry}
    {interruption : Option Interruption}
    {between after : State}
    (runs : entry.RunsOnce interruption between after)
    (quiet : before.Moves (fun _ => True) between)
    (same : between.record = before.record) :
    entry.RunsOnce interruption before after := by
  obtain ⟨moves, inner, recorded, nested⟩ := runs
  exact ⟨quiet.trans moves, inner, same ▸ recorded, nested⟩

/-- A function has a scope to run in, and making one is a move without
events. -/
theorem enterScope_quiet
    {cell : FunctionCell}
    (fits : cell.Sound before.heap) :
    ∃ scope between, enterScope cell before = .ok scope between ∧
      before.Moves (fun _ => True) between ∧ between.record = before.record ∧
        between.heap.Holds (.scope scope) := by
  unfold enterScope
  cases home : cell.scope with
  | some scope => exact ⟨scope, before, rfl, .refl before, rfl, fits scope home⟩
  | none =>
      exact ⟨_, _, rfl, .of_path (.single (.scope none (by simp))), rfl,
        before.heap.holds_newScope none⟩

/-- A function that is called within its limit runs its body once. -/
theorem enterFunction_once
    {invocation : Invocation}
    (serves : ∀ asked holding,
      (Progress.recording asked).Serves (Demand.asking asked) (call holding))
    (holding : Holding)
    (bounded : invocation.depth ≤
      (before.heap.function invocation.function).limits.callDepth)
    (sound : before.Sound)
    (within : invocation.Within before.heap) :
    invocation.entry.Ends before
      (enterFunction call holding invocation before) := by
  let cell := before.heap.function invocation.function
  obtain ⟨scope, between, enters, quiet, same, heldScope⟩ :=
    enterScope_quiet (sound.heap.function invocation.function)
  have extension := quiet.path.extension
  have sameCell : between.heap.function invocation.function = cell :=
    extension.function_eq invocation.function within.function
  let frame := invocation.frame cell scope
  let context : Context :=
    ⟨some frame,
      (holding.hold (invocation.receiver :: invocation.args)).holdScope scope⟩
  have heldFunction := extension.holds _ within.function
  have frameWithin : frame.Within between.heap :=
    ⟨heldFunction, within.receiver.mono extension,
      within.args.mono extension, heldScope⟩
  have runs :
      match runInFrame call context invocation.entry cell.body between with
      | .ok result after => invocation.entry.RunsOnce none between after ∧
          result.1.Known after ∧ AllWithin after.heap result.2.values
      | .error interruption after =>
          invocation.entry.RunsOnce (some interruption) between after :=
    runInFrame_once serves rfl rfl
      (congrArg FunctionCell.body sameCell) heldFunction
      (quiet.sound sound) frameWithin
  rw [enterFunction_of_scope enters, if_neg (UInt32.not_lt.2 bounded)]
  cases ended : runInFrame call context invocation.entry cell.body between with
  | error interruption after =>
      rw [ended] at runs
      rw [RunM.bind_of_error ended]
      exact runs.after_quiet quiet same
  | ok result middle =>
      rw [ended] at runs
      obtain ⟨⟨moves, inner, recorded, nested⟩, known, yieldsKnown⟩ := runs
      obtain ⟨value, after, concluded, further, unchanged, valueKnown⟩ :=
        conclude_quiet cell known yieldsKnown
      rw [RunM.bind_of_ok ended, concluded]
      have once : invocation.entry.RunsOnce none between after :=
        ⟨moves.trans further, inner, unchanged.trans recorded,
            fun later extension =>
          nested later (further.path.extension.trans extension)⟩
      exact ⟨once.after_quiet quiet same, valueKnown⟩

end Bodies

/-- A history of bodies that ran one after another, each left in some
way, oldest first. -/
inductive RanInTurn (heap : Heap) :
    List (BodyEntry × Option Interruption) -> List BodyEvent -> Prop
  | nil : RanInTurn heap [] []
  | next
      {bodies : List (BodyEntry × Option Interruption)}
      {entry : BodyEntry}
      {interruption : Option Interruption}
      {inner older : List BodyEvent} :
      RanInTurn heap bodies older -> Nested heap (entry.AsksFor heap) inner ->
        RanInTurn heap (bodies ++ [(entry, interruption)])
          (.left interruption :: (inner ++ .entered entry :: older))

/-- Between two states some bodies ran in turn, and no others that are
not within them. -/
structure State.RunsInTurn (before : State)
    (bodies : List (BodyEntry × Option Interruption))
    (after : State) : Prop where
  moves : before.Moves (fun _ => True) after
  recorded : ∃ events, after.record = events ++ before.record ∧
    ∀ later, after.heap.Extends later -> RanInTurn later bodies events

/-- Histories of bodies that ran in turn follow each other. -/
theorem RanInTurn.append
    {heap : Heap}
    {bodies others : List (BodyEntry × Option Interruption)}
    {older newer : List BodyEvent}
    (later : RanInTurn heap others newer)
    (earlier : RanInTurn heap bodies older) :
    RanInTurn heap (bodies ++ others) (newer ++ older) := by
  induction later with
  | nil => rwa [List.append_nil]
  | @next others entry interruption inner newer _ nested hypothesis =>
      have joined : RanInTurn heap (bodies ++ others ++ [(entry, interruption)])
          (.left interruption ::
            (inner ++ .entered entry :: (newer ++ older))) :=
        .next hypothesis nested
      simpa using joined

namespace State.RunsInTurn

variable {bodies others : List (BodyEntry × Option Interruption)}
  {first second third : State}

/-- A move without events runs no bodies. -/
theorem quiet
    (moves : first.Moves (fun _ => True) second)
    (same : second.record = first.record) :
    first.RunsInTurn [] second :=
  ⟨moves, [], same, fun _ _ => .nil⟩

/-- A body that runs once is the only one in its turn. -/
theorem once
    {entry : BodyEntry}
    {interruption : Option Interruption}
    (runs : entry.RunsOnce interruption first second) :
    first.RunsInTurn [(entry, interruption)] second := by
  obtain ⟨moves, inner, recorded, nested⟩ := runs
  refine ⟨moves, .left interruption ::
    (inner ++ [.entered entry]), by simp [recorded], ?_⟩
  intro later extension
  rw [← List.nil_append [(entry, interruption)]]
  exact .next .nil (nested later extension)

/-- Bodies run in turn after others that did. -/
theorem trans
    (earlier : first.RunsInTurn bodies second)
    (later : second.RunsInTurn others third) :
    first.RunsInTurn (bodies ++ others) third := by
  obtain ⟨older, recorded, inTurn⟩ := earlier.recorded
  obtain ⟨newer, recorded', inTurn'⟩ := later.recorded
  refine ⟨earlier.moves.trans later.moves, newer ++ older, ?_,
    fun last extension => ?_⟩
  · rw [recorded', recorded, List.append_assoc]
  · exact (inTurn' last extension).append
      (inTurn last (later.moves.path.extension.trans extension))

end State.RunsInTurn

end ClassLowering
