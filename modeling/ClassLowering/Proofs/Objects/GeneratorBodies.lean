import ClassLowering.Proofs.Runs.Programs

/-!
# Yields of bodies

A body yields into a buffer of its own, and whatever it runs has no way to this
buffer. The yields that a body attempts are listed here in the order of the
evaluator, each with the state in which it is attempted and with what refuses
it. A yield that is refused and caught is listed like any other.

The buffer collects the attempts that are not refused. In a generator an attempt
is refused when the buffer is full, and in any other body always.
-/

namespace ClassLowering

/-- What a part of a body is interrupted by, if it is. -/
def BodyM.interruption? {α : Type} (run : BodyM α)
    (before : BodyState) : Option Interruption :=
  match run before with
  | .ok _ _ => none
  | .error interruption _ => some interruption

/-- A yield that a body attempts. -/
structure YieldAttempt where
  value : Value
  /-- The state of the body when it attempts the yield. -/
  before : BodyState
  /-- What the yield is refused with, if it is. -/
  refusal? : Option Interruption

namespace YieldAttempt

/-- The values of the attempts that are not refused, in order. -/
def accepted (attempts : List YieldAttempt) : List Value :=
  (attempts.filter fun attempt => attempt.refusal?.isNone).map value

@[simp] theorem accepted_nil : accepted [] = [] := rfl

@[simp] theorem accepted_append (earlier later : List YieldAttempt) :
    accepted (earlier ++ later) = accepted earlier ++ accepted later := by
  simp [accepted]

end YieldAttempt

/-- The yields that a part of a body attempts when it starts in a state, in
order. -/
abbrev Attempts := BodyState -> List YieldAttempt

namespace Attempts

variable {α : Type}

/-- What attempts no yields. -/
def nothing : Attempts := fun _ => []

/-- The attempts of what follows a part that ends well. -/
def after (run : BodyM α) (next : α -> Attempts) : Attempts := fun before =>
  match run before with
  | .ok value between => next value between
  | .error _ _ => []

/-- The attempts of a part, and then those of what follows when it ends well. -/
def andThen (first : Attempts) (run : BodyM α)
    (next : α -> Attempts) : Attempts := fun before =>
  first before ++ after run next before

/-- The attempts of a part, and then those of a handler when it ends with a
fault. -/
def orElse (first : Attempts) (run : BodyM α)
    (handler : Failure -> Attempts) : Attempts :=
  fun before =>
    first before ++
      match run before with
      | .error (.fault cause) between => handler cause between
      | _ => []

/-- The attempts of rounds that count up from an index. -/
def countUp (action : Nat -> BodyM Unit)
    (round : Nat -> Attempts) : Nat -> Nat -> Attempts
  | 0, _ => nothing
  | rounds + 1, index =>
      (round index).andThen (action index) fun _ =>
        countUp action round rounds (index + 1)

end Attempts

section Course

variable (call : Caller)

/-- The yield that an operation attempts, if it is one. -/
def Operation.yieldAttempts (context : Context) (operation : Operation)
    (operands : List Value) :
    Attempts := fun before =>
  match operation with
  | .frame .yield =>
      [⟨operand operands 0, before,
        (perform call context (.frame .yield) operands).interruption? before⟩]
  | _ => []

mutual

/-- The yields that an expression attempts where it is evaluated, not those of
what it calls. -/
def yieldAttempts (context : Context) : Expr -> Attempts
  | .literal _ => .nothing
  | .apply operation operands =>
      (operandAttempts context [] operands).andThen
        (evaluateAll call context [] operands)
        (operation.yieldAttempts call context)
  | .sequence steps => stepAttempts context .undefined steps
  | .choose condition whenTrue whenFalse =>
      (yieldAttempts context condition).andThen
          (evaluate call context condition) fun value =>
        if value.isTruthy then yieldAttempts context whenTrue
        else yieldAttempts context whenFalse
  | .loop name count body =>
      (yieldAttempts context count).andThen (evaluate call context count)
          fun value =>
        let round (index : Nat) : BodyM Unit := do
          BodyM.setLocal name (.ofNat index)
          discard (evaluate call context body)
        let attempts (index : Nat) : Attempts :=
          .after (BodyM.setLocal name (.ofNat index)) fun _ =>
            yieldAttempts context body
        .countUp round attempts value.toCount 0
  | .attempt body handler =>
      (yieldAttempts context body).orElse (evaluate call context body)
          fun cause =>
        .after (BodyM.lift (showFault cause)) fun shown =>
          .after (BodyM.lift (RunM.log (.fault shown))) fun _ =>
            yieldAttempts (context.hold cause.values) handler
  | .function _ _ | .run _ | .klass _ => .nothing

/-- The yields that operands attempt, from left to right. -/
def operandAttempts (context : Context)
    (done : List Value) : List Expr -> Attempts
  | [] => .nothing
  | first :: rest =>
      (yieldAttempts (context.hold done) first).andThen
        (evaluate call (context.hold done) first) fun value =>
          operandAttempts context (done ++ [value]) rest

/-- The yields that steps attempt in order. -/
def stepAttempts (context : Context) (latest : Value) : List Expr -> Attempts
  | [] => .nothing
  | step :: rest =>
      (yieldAttempts (context.hold [latest]) step).andThen
        (evaluate call (context.hold [latest]) step) fun value =>
          stepAttempts context value rest

end

end Course

/-- What a yield is refused with in a state of a body, if it is. -/
def Frame.refusal? (frame : Frame) (before : BodyState) : Option Interruption :=
  match frame.yieldLimit with
  | none =>
      some (.fault
        (.type (.strayYield (before.state.heap.function frame.callee).name)))
  | some limit =>
      if before.yields.values.length < limit then none
      else some (.fault (.generatorOverflow limit))

/--
Attempts in a frame after some values were collected: each finds in the buffer
what was accepted so far, and is refused accordingly.
-/
def Frame.Answers (frame : Frame) : List Value -> List YieldAttempt -> Prop
  | _, [] => True
  | collected, attempt :: later =>
      (attempt.before.yields.values = collected ∧
        attempt.refusal? = frame.refusal? attempt.before) ∧
      frame.Answers (collected ++ YieldAttempt.accepted [attempt]) later

/-- Attempts after others find what the others added to the buffer. -/
theorem Frame.answers_append
    {frame : Frame}
    {collected : List Value}
    {earlier later : List YieldAttempt} :
    frame.Answers collected (earlier ++ later) ↔
      frame.Answers collected earlier ∧
        frame.Answers (collected ++ YieldAttempt.accepted earlier) later := by
  induction earlier generalizing collected with
  | nil => simp [Frame.Answers]
  | cons attempt rest hypothesis =>
      have split : YieldAttempt.accepted (attempt :: rest) =
          YieldAttempt.accepted [attempt] ++ YieldAttempt.accepted rest :=
        YieldAttempt.accepted_append [attempt] rest
      rw [List.cons_append, Frame.Answers, Frame.Answers, hypothesis, split,
        List.append_assoc]
      exact and_assoc.symm

/-- An attempt finds in the buffer what was accepted before it, and is
refused accordingly. -/
theorem Frame.Answers.of_split
    {frame : Frame}
    {collected : List Value}
    {attempts earlier later : List YieldAttempt}
    {attempt : YieldAttempt}
    (answers : frame.Answers collected attempts)
    (split : attempts = earlier ++ attempt :: later) :
    attempt.before.yields.values = collected ++ YieldAttempt.accepted earlier ∧
      attempt.refusal? = frame.refusal? attempt.before := by
  rw [split, Frame.answers_append, Frame.Answers] at answers
  exact answers.2.1

/-- A part of a body in a frame collects what its attempts say, and nothing
else. -/
structure Frame.Collects {α : Type} (frame : Frame) (run : BodyM α)
    (attempts : Attempts) :
    Prop where
  collected : ∀ before, (run.endState before).yields.values =
    before.yields.values ++ YieldAttempt.accepted (attempts before)
  answers : ∀ before, frame.Answers before.yields.values (attempts before)

/-- A part of a body leaves the buffer alone. -/
def BodyM.KeepsYields {α : Type} (run : BodyM α) : Prop :=
  ∀ before, (run.endState before).yields = before.yields

namespace BodyM.KeepsYields

variable {α β : Type}

/-- A value leaves the buffer alone. -/
theorem pure
    (value : α) :
    KeepsYields (Pure.pure value : BodyM α) := fun _ => rfl

/-- A run of the engine has no way to the buffer of the body that starts it. -/
theorem lift (run : RunM α) : KeepsYields (BodyM.lift run) := by
  intro before
  unfold endState BodyM.lift
  dsimp only
  cases run before.state <;> rfl

/-- Parts that leave the buffer alone do so one after another. -/
theorem bind
    {run : BodyM α}
    {next : α -> BodyM β}
    (first : KeepsYields run)
    (rest : ∀ value, KeepsYields (next value)) :
    KeepsYields (run >>= next) := by
  intro before
  have kept := first before
  unfold endState at kept ⊢
  simp only [Bind.bind, EStateM.bind]
  cases ended : run before with
  | error interruption after =>
      rw [ended] at kept
      exact kept
  | ok value between =>
      rw [ended] at kept
      exact (rest value between).trans kept

/-- Looking at what is held leaves the buffer alone. -/
theorem holding (context : Context) (operands : List Value) :
    KeepsYields (BodyM.holding context operands) := fun _ => rfl

/-- Setting a local variable leaves the buffer alone. -/
theorem setLocal
    (name : String)
    (value : Value) :
    KeepsYields (BodyM.setLocal name value) :=
  fun _ => rfl

/-- Looking up a local variable leaves the buffer alone. -/
theorem getLocal
    (name : String) :
    KeepsYields (BodyM.getLocal name) := fun _ => rfl

end BodyM.KeepsYields

namespace Frame.Collects

variable {α β : Type} {frame : Frame}

/-- What leaves the buffer alone collects nothing. -/
theorem nothing
    {run : BodyM α}
    (keeps : run.KeepsYields) :
    frame.Collects run .nothing where
  collected before := by
    rw [keeps before, Attempts.nothing, YieldAttempt.accepted_nil,
      List.append_nil]
  answers _ := trivial

/-- What follows a part adds its attempts to those of the part. -/
theorem andThen
    {run : BodyM α}
    {next : α -> BodyM β}
    {first : Attempts}
    {others : α -> Attempts}
    (collects : frame.Collects run first)
    (rest : ∀ value, frame.Collects (next value) (others value)) :
    frame.Collects (run >>= next) (first.andThen run others) where
  collected before := by
    have here := collects.collected before
    unfold BodyM.endState Attempts.andThen Attempts.after at *
    simp only [bind, EStateM.bind]
    cases ended : run before with
    | error interruption after =>
        rw [ended] at here
        simpa using here
    | ok value between =>
        rw [ended] at here
        have there := (rest value).collected between
        unfold BodyM.endState at there
        rw [YieldAttempt.accepted_append, ← List.append_assoc, ← here]
        exact there
  answers before := by
    have here := collects.collected before
    unfold BodyM.endState at here
    rw [Attempts.andThen, Frame.answers_append, ← here, Attempts.after]
    refine ⟨collects.answers before, ?_⟩
    cases run before with
    | error interruption after => trivial
    | ok value between => exact (rest value).answers between

/-- What follows a part that leaves the buffer alone collects what it
attempts. -/
theorem after
    {run : BodyM α}
    {next : α -> BodyM β}
    {others : α -> Attempts}
    (keeps : run.KeepsYields)
    (rest : ∀ value, frame.Collects (next value) (others value)) :
    frame.Collects (run >>= next) (.after run others) :=
  andThen (.nothing keeps) rest

/-- What makes something of the result of a part adds no attempts. -/
theorem map
    {run : BodyM α}
    {next : α -> BodyM β}
    {attempts : Attempts}
    (collects : frame.Collects run attempts)
    (quiet : ∀ value, (next value).KeepsYields) :
    frame.Collects (run >>= next) attempts := by
  have all :
      frame.Collects (run >>= next) (attempts.andThen run fun _ => .nothing) :=
    collects.andThen fun value => .nothing (quiet value)
  have same : attempts.andThen run (fun _ => .nothing) = attempts := by
    funext before
    unfold Attempts.andThen Attempts.after Attempts.nothing
    cases run before <;> exact List.append_nil _
  rwa [same] at all

/-- A handler adds its attempts to those of the part whose fault it handles. -/
theorem catchFault
    {run : BodyM α}
    {handler : Failure -> BodyM α}
    {first : Attempts}
    {others : Failure -> Attempts}
    (collects : frame.Collects run first)
    (handles : ∀ cause, frame.Collects (handler cause) (others cause)) :
    frame.Collects (BodyM.catchFault run handler)
      (first.orElse run others) where
  collected before := by
    have here := collects.collected before
    unfold BodyM.endState Attempts.orElse BodyM.catchFault at *
    cases ended : run before with
    | ok value after =>
        rw [ended] at here
        simpa using here
    | error interruption between =>
        rw [ended] at here
        cases interruption with
        | stalled => simpa using here
        -- What was collected before the fault stays collected for the handler.
        | fault cause =>
            have there := (handles cause).collected between
            unfold BodyM.endState at there
            rw [YieldAttempt.accepted_append, ← List.append_assoc, ← here]
            exact there
  answers before := by
    have here := collects.collected before
    unfold BodyM.endState at here
    rw [Attempts.orElse, Frame.answers_append, ← here]
    refine ⟨collects.answers before, ?_⟩
    cases run before with
    | ok value after => trivial
    | error interruption between =>
        cases interruption with
        | stalled => trivial
        | fault cause => exact (handles cause).answers between

/-- Rounds add their attempts one after another. -/
theorem countUp
    {action : Nat -> BodyM Unit}
    {round : Nat -> Attempts}
    (collects : ∀ index, frame.Collects (action index) (round index))
    (rounds index : Nat) :
    frame.Collects (BodyM.countUp action rounds index)
      (.countUp action round rounds index) := by
  induction rounds generalizing index with
  | zero => exact .nothing (.pure ())
  | succ rounds hypothesis =>
      exact (collects index).andThen fun _ => hypothesis (index + 1)

end Frame.Collects

section Operations

variable {call : Caller} {context : Context} {frame : Frame}

/-- Operations on variables, symbols and the log leave the buffer alone. -/
theorem keepsYields_performStorage
    (holding : Holding)
    (operation : StorageOperation)
    (operands : List Value) :
    (performStorage holding operation operands).KeepsYields := by
  cases operation with
  | symbol name => exact .bind (.lift _) fun _ => .pure _
  | freshSymbol name description =>
      exact .bind (.lift _) fun _ => .bind (.lift _) fun _ => .pure _
  | «variable» name => exact .bind (.lift _) fun _ => .pure _
  | setVariable name => exact .bind (.lift _) fun _ => .pure _
  | localVariable name => exact .getLocal name
  | setLocalVariable name => exact .bind (.setLocal _ _) fun _ => .pure _
  | log => exact .bind (.lift _) fun _ => .bind (.lift _) fun _ => .pure _
  | release name => exact .lift _

/-- A yield is refused and leaves the body as it is, or its value is put
into the buffer. -/
theorem yieldValue_apply
    (frame : Frame)
    (value : Value)
    (before : BodyState) :
    yieldValue frame value before =
      match frame.refusal? before with
      | some interruption => .error interruption before
      | none => .ok () { before with yields := before.yields.push value } := by
  unfold Frame.refusal?
  cases limited : frame.yieldLimit with
  | none => exact yieldValue_of_none value before limited
  | some limit =>
      rw [yieldValue_of_some value before limited, YieldBuffer.length_values]
      dsimp only
      by_cases full : limit ≤ before.yields.count
      · rw [if_pos full, if_neg (Nat.not_lt.2 full)]
      · rw [if_neg full, if_pos (Nat.lt_of_not_le full)]

/-- The yield of a frame acts on the state in which it is attempted. -/
theorem perform_yield
    (inFrame : context.frame = some frame)
    (operands : List Value)
    (before : BodyState) :
    perform call context (.frame .yield) operands before =
      match frame.refusal? before with
      | some interruption => .error interruption before
      | none => .ok .undefined
          { before with yields :=
            before.yields.push (operand operands 0) } := by
  have enters : perform call context (.frame .yield) operands before =
      (do yieldValue frame (operand operands 0)
          return .undefined : BodyM Value) before := by
    unfold perform
    rw [inFrame]
    rfl
  rw [enters]
  simp only [bind, EStateM.bind, yieldValue_apply]
  cases frame.refusal? before <;> rfl

/-- An operation that is no yield leaves the buffer alone, whatever it runs. -/
theorem keepsYields_perform
    {operation : Operation}
    (other : operation ≠ .frame .yield)
    (operands : List Value) :
    (perform call context operation operands).KeepsYields := by
  refine .bind (.holding context operands) fun holding => ?_
  -- Whatever enters the engine is a run of it, also where other bodies
  -- yield in that run.
  cases operation with
  | calculation calculation => exact fun _ => rfl
  | storage operation =>
      exact keepsYields_performStorage holding operation operands
  | scope operation => exact .lift _
  | host operation => exact .lift _
  | frame operation =>
      cases context.frame with
      | none => exact .lift _
      | some frame =>
          have enters := BodyM.KeepsYields.lift
            (enterFrom (call holding) frame operation operands)
          cases operation with
          | yield => exact absurd rfl other
          | _ => exact enters
  | throw => exact .lift _

/-- An operation collects the value of the yield that it attempts, if
nothing refuses it. -/
theorem collects_perform
    (inFrame : context.frame = some frame)
    (operation : Operation)
    (operands : List Value) :
    frame.Collects (perform call context operation operands)
      (operation.yieldAttempts call context operands) := by
  by_cases yields : operation = .frame .yield
  · subst yields
    constructor
    · intro before
      unfold BodyM.endState Operation.yieldAttempts BodyM.interruption?
      dsimp only
      rw [perform_yield inFrame]
      cases frame.refusal? before with
      | some interruption => exact (List.append_nil _).symm
      | none => exact YieldBuffer.values_push _ _
    · intro before
      refine ⟨⟨rfl, ?_⟩, trivial⟩
      unfold BodyM.interruption?
      dsimp only
      rw [perform_yield inFrame]
      cases frame.refusal? before <;> rfl
  · have none : operation.yieldAttempts call context operands = .nothing := by
      funext before
      unfold Operation.yieldAttempts
      split
      · exact absurd rfl yields
      · rfl
    rw [none]
    exact .nothing (keepsYields_perform yields operands)

/-- Elaborating a class leaves the buffer alone. -/
theorem keepsYields_makeClass (form : ClassForm Expr) :
    (makeClass call context form).KeepsYields :=
  .bind (.holding context []) fun _ => .bind (.lift _) fun _ =>
      .bind (.lift _) fun _ =>
    .bind (.lift _) fun _ => .pure _

end Operations

section Expressions

variable {call : Caller} {frame : Frame}

mutual

/-- An expression in a frame collects what it attempts to yield. -/
theorem collects_evaluate
    (expr : Expr)
    {context : Context}
    (inFrame : context.frame = some frame) :
    frame.Collects (evaluate call context expr)
      (yieldAttempts call context expr) := by
  cases expr with
  | literal literal => exact .nothing (.pure _)
  | apply operation operands =>
      exact (collects_evaluateAll operands inFrame []).andThen
        (collects_perform inFrame operation)
  | sequence steps => exact collects_evaluateSteps steps inFrame .undefined
  | choose condition whenTrue whenFalse =>
      refine (collects_evaluate condition inFrame).andThen fun value => ?_
      cases value.isTruthy with
      | true => exact collects_evaluate whenTrue inFrame
      | false => exact collects_evaluate whenFalse inFrame
  | loop name count body =>
      refine (collects_evaluate count inFrame).andThen fun value => ?_
      refine .map (.countUp (fun index => ?_) value.toCount 0) fun _ => .pure _
      refine .after (.setLocal _ _) fun _ => ?_
      exact .map (collects_evaluate body inFrame) fun _ => .pure _
  | attempt body handler =>
      refine .catchFault (collects_evaluate body inFrame) fun cause => ?_
      exact .after (.lift _) fun shown => .after (.lift _) fun _ =>
        collects_evaluate handler inFrame
  | function name body => exact .nothing (.bind (.lift _) fun _ => .pure _)
  | run body =>
      exact .nothing (.bind (.lift _) fun _ =>
        .bind (.holding context []) fun _ => .lift _)
  | klass form => exact .nothing (keepsYields_makeClass form)

/-- Operands in a frame collect what they attempt to yield. -/
theorem collects_evaluateAll
    (operands : List Expr)
    {context : Context}
    (inFrame : context.frame = some frame)
    (done : List Value) :
    frame.Collects (evaluateAll call context done operands)
      (operandAttempts call context done operands) := by
  cases operands with
  | nil => exact .nothing (.pure done)
  | cons first rest =>
      refine .andThen (collects_evaluate first inFrame) fun value => ?_
      exact collects_evaluateAll rest inFrame (done ++ [value])

/-- Steps in a frame collect what they attempt to yield. -/
theorem collects_evaluateSteps
    (steps : List Expr)
    {context : Context}
    (inFrame : context.frame = some frame)
    (latest : Value) :
    frame.Collects (evaluateSteps call context latest steps)
      (stepAttempts call context latest steps) := by
  cases steps with
  | nil => exact .nothing (.pure latest)
  | cons first rest =>
      refine .andThen (collects_evaluate first inFrame) fun value => ?_
      exact collects_evaluateSteps rest inFrame value

end

end Expressions

/--
What a call makes of the yields that its body attempts. The body starts in a
context and a state, and the call ends in some way.
-/
structure Invocation.CollectsYields (invocation : Invocation) (call : Caller)
    (cell : FunctionCell)
    (context : Context) (start : BodyState)
    (ended : EStateM.Result Interruption State Value) :
    Prop where
  /-- Every attempt finds in the buffer the values that were accepted before it,
  and no others. -/
  buffered : ∀ earlier attempt later,
    yieldAttempts call context cell.body start = earlier ++ attempt :: later ->
      attempt.before.yields.values = YieldAttempt.accepted earlier
  /-- In a generator a yield is refused exactly when as many values are
  collected as may be. -/
  generator : cell.kind = .generator -> ∀ earlier attempt later,
    yieldAttempts call context cell.body start = earlier ++ attempt :: later ->
      attempt.refusal? =
        if (YieldAttempt.accepted earlier).length <
          cell.limits.generatorYields then none
        else some (.fault (.generatorOverflow cell.limits.generatorYields))
  /-- In any other body every yield is refused. -/
  stray : cell.kind ≠ .generator ->
    ∀ attempt ∈ yieldAttempts call context cell.body start,
    attempt.refusal? = some (.fault (.type
      (.strayYield
        (attempt.before.state.heap.function invocation.function).name)))
  /-- In whatever state the body yields, its yield is put into the buffer or
  changes nothing. -/
  yields : ∀ inner : Context, inner.frame = context.frame -> ∀ operands now,
    perform call inner (.frame .yield) operands now =
      if cell.kind = .generator then
        if now.yields.values.length < cell.limits.generatorYields then
          .ok .undefined
            { now with yields := now.yields.push (operand operands 0) }
        else .error (.fault (.generatorOverflow cell.limits.generatorYields))
          now
      else .error (.fault (.type
        (.strayYield (now.state.heap.function invocation.function).name))) now
  /-- Nothing but its own yields reaches the buffer of a body, whatever it
  runs. -/
  own : ∀ inner : Context, inner.frame = context.frame -> ∀ operation operands,
    operation ≠ .frame .yield ->
      (perform call inner operation operands).KeepsYields
  /-- A generator hands out the accepted values and then the result. It is
  all that is new. -/
  returned : ∀ result last, evaluate call context cell.body start =
    .ok result last -> let left := last.state.leaving none
    let accepted :=
      YieldAttempt.accepted (yieldAttempts call context cell.body start)
    let made := left.heap.newGenerator accepted result
    ended = if cell.kind = .generator
    then .ok (.generator made.1) { left with heap := made.2 }
      else .ok result left
  /-- A body that fails leaves its interruption and no generator. -/
  failed : ∀ interruption last, evaluate call context cell.body start =
    .error interruption last ->
    ended = .error interruption (last.state.leaving (some interruption))

/-- The context in which an invocation runs the body of a function. -/
def Invocation.context (invocation : Invocation) (holding : Holding)
    (cell : FunctionCell) (scope : ScopeRef) : Context :=
  ⟨some (invocation.frame cell scope),
    (holding.hold (invocation.receiver :: invocation.args)).holdScope scope⟩

/-- The state in which the body of an invocation starts. -/
def Invocation.start (invocation : Invocation) (before : State) : BodyState :=
  ⟨before.entering invocation.entry, ∅, .empty⟩

/-- What refuses the yields of a function: its limit if it is a generator,
or else always. -/
theorem Invocation.refusal?_frame
    (invocation : Invocation)
    (cell : FunctionCell)
    (scope : ScopeRef)
    (before : BodyState) :
    (invocation.frame cell scope).refusal? before =
      if cell.kind = .generator then
        if before.yields.values.length < cell.limits.generatorYields then none
        else some (.fault (.generatorOverflow cell.limits.generatorYields))
      else some (.fault (.type
        (.strayYield
          (before.state.heap.function invocation.function).name))) := by
  unfold Frame.refusal? Invocation.frame
  by_cases isGenerator : cell.kind = .generator
  · rw [if_pos isGenerator, if_pos isGenerator]
  · rw [if_neg isGenerator, if_neg isGenerator]

/-- A function has a scope to run in. -/
theorem exists_enterScope (cell : FunctionCell) (before : State) :
    ∃ scope between, enterScope cell before = .ok scope between := by
  unfold enterScope
  cases cell.scope with
  | none => exact ⟨_, _, rfl⟩
  | some scope => exact ⟨scope, before, rfl⟩

section Calls

variable {call : Caller} {holding : Holding} {invocation : Invocation}
  {before between : State}
variable {scope : ScopeRef}

/-- A call within its limit ends as its body does, with what it makes of the
result. -/
theorem enterFunction_of_evaluate
    (bounded : invocation.depth ≤
      (before.heap.function invocation.function).limits.callDepth)
    (enters : enterScope (before.heap.function invocation.function) before =
      .ok scope between) :
    let cell := before.heap.function invocation.function
    enterFunction call holding invocation before =
      match evaluate call (invocation.context holding cell scope) cell.body
        (invocation.start between) with
      | .ok result last =>
          cell.conclude (result, last.yields) (last.state.leaving none)
      | .error interruption last =>
          .error interruption (last.state.leaving (some interruption)) := by
  intro cell
  rw [enterFunction_of_scope enters, if_neg (UInt32.not_lt.2 bounded)]
  cases ended : evaluate call (invocation.context holding cell scope) cell.body
      (invocation.start between) with
  | ok result last =>
      exact RunM.bind_of_ok (runInFrame_of_ok (BodyM.start_of_ok ended))
  | error interruption last =>
      exact RunM.bind_of_error
        (runInFrame_of_error (BodyM.start_of_error ended))

/--
A call within its limit refuses exactly the yields of its body that find
the buffer full, or all of them if it is no generator, and a generator
hands out the others.
-/
theorem collectsYields_of_enterFunction
    (call : Caller)
    (holding : Holding)
    (invocation : Invocation)
    (before : State)
    (bounded : invocation.depth ≤
      (before.heap.function invocation.function).limits.callDepth) :
    let cell := before.heap.function invocation.function
    ∃ scope between, enterScope cell before = .ok scope between ∧
      invocation.CollectsYields call cell
        (invocation.context holding cell scope)
        (invocation.start between)
        (enterFunction call holding invocation before) := by
  intro cell
  obtain ⟨scope, between, enters⟩ := exists_enterScope cell before
  refine ⟨scope, between, enters, ?_⟩
  let frame := invocation.frame cell scope
  let context := invocation.context holding cell scope
  let start := invocation.start between
  -- The buffer is empty at the start, so all that it holds later was
  -- accepted by this call.
  have collects : frame.Collects (evaluate call context cell.body)
      (yieldAttempts call context cell.body) := collects_evaluate cell.body rfl
  have answers :
      frame.Answers [] (yieldAttempts call context cell.body start) :=
    collects.answers start
  have ends : enterFunction call holding invocation before =
      match evaluate call context cell.body start with
      | .ok result last =>
          cell.conclude (result, last.yields) (last.state.leaving none)
      | .error interruption last =>
          .error interruption (last.state.leaving (some interruption)) :=
    enterFunction_of_evaluate bounded enters
  refine ⟨?_, ?_, ?_, ?_, ?_, ?_, ?_⟩
  · intro earlier attempt later split
    exact (answers.of_split split).1
  · intro isGenerator earlier attempt later split
    obtain ⟨found, refused⟩ := answers.of_split split
    rw [refused, Invocation.refusal?_frame, if_pos isGenerator, found]
    rfl
  · intro isNone attempt attempted
    obtain ⟨earlier, later, split⟩ := List.append_of_mem attempted
    obtain ⟨-, refused⟩ := answers.of_split split
    rw [refused, Invocation.refusal?_frame, if_neg isNone]
  · intro inner sameFrame operands now
    have inFrame : inner.frame = some frame := sameFrame
    rw [perform_yield inFrame, Invocation.refusal?_frame]
    by_cases isGenerator : cell.kind = .generator
    · rw [if_pos isGenerator, if_pos isGenerator]
      by_cases hasRoom : now.yields.values.length < cell.limits.generatorYields
      · rw [if_pos hasRoom, if_pos hasRoom]
      · rw [if_neg hasRoom, if_neg hasRoom]
    · rw [if_neg isGenerator, if_neg isGenerator]
  · exact fun inner _ operation operands other =>
      keepsYields_perform other operands
  · intro result last ended left accepted made
    have collected : last.yields.values = accepted := by
      have all := collects.collected start
      rw [BodyM.endState, show evaluate call context cell.body start =
        .ok result last from ended] at all
      exact all
    rw [ends, show evaluate call context cell.body start =
      .ok result last from ended]
    dsimp only
    rw [FunctionCell.conclude, collected]
    split <;> rfl
  · intro interruption last ended
    rw [ends, show evaluate call context cell.body start =
      .error interruption last from ended]

/--
An object with a generator that may yield twice. It yields three times, and it
calls a method that tries to yield and a generator that does.
-/
def overflowingSteps : List Step :=
  let yields (text : String) : Expr :=
    .apply (.frame .yield) [.literal (.string text)]
  let calls (key : String) : Expr :=
    .apply (.frame .invoke)
      [.apply (.frame .receiver) [], .literal (.string key)]
  let caught (body : Expr) : Expr := .attempt body .nothing
  let outer : Expr :=
    .sequence [yields "first", caught (calls "stray"), calls "inner",
      yields "second", caught (yields "third"), .literal (.string "done")]
  let form : ClassForm Expr := {
    blueprint := {
      name := some "Yielding"
      scope := none
      body := .ofEntries [
        .generator (.literal (.text "outer")) outer,
        .method (.literal (.text "stray")) (yields "lost"),
        .generator (.literal (.text "inner")) (yields "own")] }
    binding := .expression
    limits := ⟨8, 2⟩ }
  [.evaluate (.apply (.host .construct) [.klass form]) none]

/-- The third yield of the generator is the only one that it attempts in
vain. -/
theorem collectsYields_of_enterFunction_overflowingSteps :
    let call := callUntil (fun _ => false) 1
    let before := Program.endState call Program.initialState overflowingSteps
    let invocation : Invocation := ⟨⟨0⟩, .object ⟨0⟩, [], 1⟩
    let attempts :=
      let cell := before.heap.function invocation.function
      yieldAttempts call
        (invocation.context .none cell (cell.scope.getD default)) cell.body
        (invocation.start before)
    (before.heap.sharedMember? ⟨0⟩ (.ofText "outer") = some (.method ⟨0⟩) ∧
        (before.heap.function ⟨0⟩).kind = .generator ∧
        attempts.map YieldAttempt.value =
          [.string "first", .string "second", .string "third"] ∧
        attempts.map YieldAttempt.refusal? =
          [none, none, some (.fault (.generatorOverflow 2))]) ∧
      invocation.depth ≤
        (before.heap.function invocation.function).limits.callDepth ∧
      let cell := before.heap.function invocation.function
      ∃ scope between, enterScope cell before = .ok scope between ∧
        invocation.CollectsYields call cell
          (invocation.context .none cell scope)
          (invocation.start between)
          (enterFunction call .none invocation before) := by
  intro call before invocation attempts
  have bounded : invocation.depth ≤
      (before.heap.function invocation.function).limits.callDepth := by
        decide +kernel
  refine ⟨by decide +kernel, bounded, ?_⟩
  exact collectsYields_of_enterFunction call .none invocation before bounded

end Calls
end ClassLowering
