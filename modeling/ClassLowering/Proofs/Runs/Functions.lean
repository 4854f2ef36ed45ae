import ClassLowering.Proofs.Runs.Evaluation

/-!
# Runs of functions

A function runs its body in a frame, which is recorded when it is entered
and when it is left. What is known of the run of the body within the frame
may differ from what is known of the whole, as long as the one follows
from the other.
-/

namespace ClassLowering

/-- The start of the body of an invocation. -/
def Invocation.entry (invocation : Invocation) : BodyEntry :=
  ⟨invocation.function, invocation.receiver, invocation.args, invocation.depth⟩

/-- The frame in which an invocation runs a function. -/
def Invocation.frame (invocation : Invocation) (cell : FunctionCell)
    (scope : ScopeRef) :
    Frame where
  callee := invocation.function
  receiver := invocation.receiver
  args := invocation.args
  scope := scope
  depth := invocation.depth
  yieldLimit := if cell.kind = .generator
    then some cell.limits.generatorYields else none

/-- The state right after a body is entered. -/
def State.entering (state : State) (entry : BodyEntry) : State :=
  { state with record := .entered entry :: state.record }

/-- The state right after a body is left, possibly by an interruption. -/
def State.leaving (state : State)
    (interruption : Option Interruption) : State :=
  { state with record := .left interruption :: state.record }

/-- A body that ends well is recorded around what it records. -/
theorem runInFrame_of_ok
    {call : Caller}
    {context : Context}
    {entry : BodyEntry}
    {body : Expr}
    {before after : State}
    {result : Value × YieldBuffer}
    (ended : BodyM.start (evaluate call context body)
      { before with record := .entered entry :: before.record } =
        .ok result after) :
    runInFrame call context entry body before =
      .ok result { after with record := .left none :: after.record } := by
  simp only [runInFrame, tryCatch, tryCatchThe, MonadExceptOf.tryCatch,
    EStateM.tryCatch, bind, EStateM.bind, ended, RunM.note_apply]
  rfl

/-- A body that is interrupted is recorded around what it records. -/
theorem runInFrame_of_error
    {call : Caller}
    {context : Context}
    {entry : BodyEntry}
    {body : Expr}
    {before after : State}
    {interruption : Interruption}
    (ended : BodyM.start (evaluate call context body)
      { before with record := .entered entry :: before.record } =
        .error interruption after) :
    runInFrame call context entry body before =
      .error interruption
        { after with record := .left (some interruption) :: after.record } := by
  simp only [runInFrame, tryCatch, tryCatchThe, MonadExceptOf.tryCatch,
    EStateM.tryCatch, bind, EStateM.bind, ended, RunM.note_apply]
  rfl

/-- What a run of a function makes of the result and the yields of its body. -/
def FunctionCell.conclude (cell : FunctionCell) :
    Value × YieldBuffer -> RunM Value
  | (result, yields) =>
      if cell.kind = .generator then do
        return .generator
          (← RunM.allocate (·.newGenerator yields.values result))
      else return result

/-- A function runs its body in a frame with its home scope, or with a new
scope without one. -/
theorem enterFunction_of_scope
    {call : Caller}
    {holding : Holding}
    {invocation : Invocation}
    {before between : State}
    {scope : ScopeRef}
    (enters : enterScope (before.heap.function invocation.function) before =
      .ok scope between) :
    let cell := before.heap.function invocation.function
    enterFunction call holding invocation before =
      if cell.limits.callDepth < invocation.depth then
        .error (.fault (.callDepthExceeded cell.limits.callDepth)) before
      else
        (runInFrame call ⟨some (invocation.frame cell scope),
            (holding.hold (invocation.receiver :: invocation.args)).holdScope
              scope⟩
          invocation.entry cell.body >>= cell.conclude) between := by
  intro cell
  rw [enterFunction, RunM.bind_of_ok (RunM.readHeap_apply _ _)]
  split
  · rfl
  · refine (RunM.bind_of_ok enters).trans ?_
    rfl

/-- A function with a home scope runs its body in a frame with this scope. -/
theorem enterFunction_of_home
    {call : Caller}
    {holding : Holding}
    {invocation : Invocation}
    {before : State}
    {home : ScopeRef}
    (inside : (before.heap.function invocation.function).scope = some home) :
    let cell := before.heap.function invocation.function
    enterFunction call holding invocation before =
      if cell.limits.callDepth < invocation.depth then
        .error (.fault (.callDepthExceeded cell.limits.callDepth)) before
      else
        (runInFrame call ⟨some (invocation.frame cell home),
            (holding.hold (invocation.receiver :: invocation.args)).holdScope
              home⟩
          invocation.entry cell.body >>= cell.conclude) before := by
  refine enterFunction_of_scope ?_
  rw [enterScope, inside]
  rfl

/-- What is known of a body from when it is entered is known around it
when it is left. -/
structure Progress.Encloses (outer inner : Progress) (entry : BodyEntry)
    (before : State) :
    Prop where
  leads (interruption : Option Interruption) (after : State) :
    inner.Leads (before.entering entry) after ->
      outer.Leads before (after.leaving interruption)
  stalls (interruption : Option Interruption) (after : State) :
    inner.Stalls (before.entering entry) after ->
      outer.Stalls before (after.leaving interruption)

section Functions

variable {outer inner : Progress} {demand : Demand} {call : Caller}
  {before : State}

/-- The scope in which a function runs is held. -/
theorem runs_enterScope
    {cell : FunctionCell}
    (sound : cell.Sound before.heap) :
    outer.Runs (enterScope cell) before fun scope after =>
      after.heap.Holds (.scope scope) := by
  unfold enterScope
  cases home : cell.scope with
  | some scope => exact .pure (sound scope home)
  | none =>
      exact .allocate (.single (.scope none (by simp)))
        (before.heap.holds_newScope none)

/-- What may be demanded below a frame may be demanded where the frame is. -/
theorem Demand.CoversBelow.allows
    {context : Context}
    {frame : Frame}
    (below : demand.CoversBelow frame.depth)
    (inFrame : context.frame = some frame) :
    demand.Allows context := by
  have depth : context.keyDepth = frame.depth := by
    rw [Context.keyDepth, inFrame]; rfl
  refine ⟨?_, ?_⟩
  · rw [depth]
    exact below.calls
  · intro other present
    rw [inFrame] at present
    cases present
    exact below

/-- A context refers to cells of a heap when its frame does. -/
theorem Frame.Within.context
    {heap : Heap}
    {context : Context}
    {frame : Frame}
    (within : frame.Within heap)
    (inFrame : context.frame = some frame) :
    context.Within heap := by
  intro other present
  rw [inFrame] at present
  cases present
  exact within

/-- Running a body makes progress when what it asks for below its frame,
and afresh, does. -/
theorem runs_runInFrame
    {context : Context}
    {frame : Frame}
    {entry : BodyEntry}
    {body : Expr}
    (encloses : outer.Encloses inner entry before)
    (serves : ∀ holding, inner.Serves demand (call holding))
    (inFrame : context.frame = some frame)
    (below : demand.CoversBelow frame.depth)
    (fresh : body.keepsToFrame = true ∨ demand.CoversFresh)
    (makes : body.MakesOnly inner.Makes)
    (sound : before.Sound)
    (within : frame.Within before.heap) :
    outer.Runs (runInFrame call context entry body) before
      fun result after => result.1.Known after ∧
      AllWithin after.heap result.2.values := by
  let start := before.entering entry
  have soundStart : start.Sound := ⟨sound.heap, sound.session⟩
  have runs := Progress.runs_start
    (runs_expression serves body (below.allows inFrame) fresh soundStart.start
      (within.context inFrame) makes)
  unfold Progress.Runs at runs ⊢
  cases ended : BodyM.start (evaluate call context body) start with
  | ok result after =>
      rw [ended] at runs
      rw [runInFrame_of_ok ended]
      exact ⟨encloses.leads none after runs.1, runs.2⟩
  | error interruption after =>
      rw [ended] at runs
      rw [runInFrame_of_error ended]
      exact ⟨encloses.leads (some interruption) after runs.1, fun stalled =>
        encloses.stalls (some interruption) after (runs.2 stalled)⟩

/-- Running a function makes progress when running its body in its frame
does. -/
theorem runs_enterFunction
    {holding : Holding}
    {invocation : Invocation}
    (sound : before.Sound)
    (within : invocation.Within before.heap)
    (runs : invocation.depth ≤
      (before.heap.function invocation.function).limits.callDepth ->
      ∀ (scope : ScopeRef) (context : Context) (between : State),
      between.Sound ->
        before.heap.Extends between.heap ->
          context.frame = some
              (invocation.frame
                (between.heap.function invocation.function) scope) ->
            (invocation.frame (between.heap.function invocation.function)
                scope).Within between.heap ->
              outer.Runs (runInFrame call context invocation.entry
                  (between.heap.function invocation.function).body) between
                fun result after =>
                  result.1.Known after ∧ AllWithin after.heap result.2.values) :
    outer.Runs (enterFunction call holding invocation) before Value.Known := by
  refine .readHeap_bind ?_
  by_cases deep : (before.heap.function invocation.function).limits.callDepth <
    invocation.depth
  · rw [if_pos deep]
    exact .fail _
  · rw [if_neg deep]
    refine .bind sound
      (runs_enterScope (sound.heap.function invocation.function)) ?_
    intro scope between soundBetween extension heldScope
    have same : between.heap.function invocation.function =
        before.heap.function invocation.function :=
      extension.function_eq invocation.function within.function
    have frameWithin :
        (invocation.frame (between.heap.function invocation.function)
          scope).Within between.heap :=
      ⟨extension.holds _ within.function, within.receiver.mono extension,
        within.args.mono extension, heldScope⟩
    rw [← same] at deep ⊢
    refine .bind soundBetween
      (runs ?_ scope _ between soundBetween extension rfl frameWithin) ?_
    · rw [← same]
      exact UInt32.not_lt.1 deep
    · rintro ⟨result, yields⟩ after _ _ ⟨resultKnown, yieldsKnown⟩
      dsimp only
      split
      · have step : after.heap.Step outer.Makes
            (after.heap.newGenerator yields.values result).2 :=
          .generator yields.values result yieldsKnown resultKnown
        refine .allocate_bind (.single step) (.pure ?_)
        exact (Value.within_generator _).2 (after.heap.holds_newGenerator _ _)
      · exact .pure resultKnown

end Functions

end ClassLowering
