import ClassLowering.Evaluation.FrameOperation
import ClassLowering.Evaluation.SessionOperation
import ClassLowering.Semantics.Elaboration

/-!
# Evaluation

The evaluator goes through an expression once, by recursion on the expression.
It never runs the body of a function itself but asks a caller to; so its
definition is total without any bound.

The bound on nested bodies enters only where the evaluator and the caller are
tied together. With a bound of zero every call stalls, and with one more than a
bound the bodies of calls may nest that much deeper. The depth limits of
functions are checked on entry to a body, before anything is allocated.
-/

namespace ClassLowering

/-- Do an operation whose operands are evaluated. -/
def perform (call : Caller) (context : Context) (operation : Operation)
    (operands : List Value) : BodyM Value := do
  let holding ← BodyM.holding context operands
  match operation with
  | .calculation calculation =>
      return (← get).state.heap.calculate calculation operands
  | .storage operation => performStorage holding operation operands
  | .scope operation =>
      performScope holding (context.frame.map Frame.scope) operation operands
  | .host operation =>
      performHost (call holding) context.keyDepth operation operands
  | .frame operation =>
      match context.frame with
      | some frame => performInFrame (call holding) frame operation operands
      | none => RunM.failType (.unsuitableOperand "used inside a body")
  | .throw => RunM.fail (.thrown (operand operands 0))

/-- A key as written, with the symbol that it names. -/
def draftKey : MemberKey WrittenKey Expr -> RunM (MemberKey PropertyKey Expr)
  | .literal (.text text) => return .literal (.ofText text)
  | .literal (.symbol name) => return .literal (.ofSymbol (← symbolNamed name))
  | .computed body => return .computed body

/-- Members as written, with the symbols that their keys name. -/
def draftMembers : List (Member WrittenKey Expr) ->
    RunM (List (Member PropertyKey Expr))
  | [] => return []
  | member :: rest => do
      let key ← draftKey member.key
      return { member with key := key } :: (← draftMembers rest)

/-- The name of the scope around classes of the host. -/
def globalScopeName : String := "global"

/-- A class as written, with the keys and the scope that it names. -/
def draftClass (home : Option ScopeRef)
    (blueprint : Blueprint (Option String) WrittenKey Expr) :
    RunM ClassDraft := do
  let scope ← match blueprint.scope, home with
    | some name, _ => scopeNamed name
    | none, some scope => pure scope
    | none, none => scopeNamed globalScopeName
  let members ← draftMembers blueprint.body.members
  return ⟨blueprint.name, ⟨members, blueprint.body.constructor⟩, scope⟩

/-- Elaborate a class as written. The session keeps the class. -/
def makeClass (call : Caller) (context : Context)
    (form : ClassForm Expr) : BodyM Value := do
  let holding ← BodyM.holding context []
  let draft ← draftClass (context.frame.map Frame.scope) form.blueprint
  let klass ← elaborateAs call holding form.limits draft form.binding
  RunM.changeSession (·.keepClass klass)
  return .klass klass

/-- Make a function outside of all classes. -/
def makeFunction (name : String) (body : Expr) : RunM FunctionRef :=
  RunM.allocate (·.newFunction ⟨name, .ordinary, [], body, none, .standard⟩)

mutual

/-- Evaluate an expression. -/
def evaluate (call : Caller) (context : Context) : Expr -> BodyM Value
  | .literal literal => return literal.toValue
  | .apply operation operands => do
      perform call context operation (← evaluateAll call context [] operands)
  | .sequence steps => evaluateSteps call context .undefined steps
  | .choose condition whenTrue whenFalse => do
      if (← evaluate call context condition).isTruthy
        then evaluate call context whenTrue
      else evaluate call context whenFalse
  | .loop name count body => do
      let rounds := (← evaluate call context count).toCount
      let round (index : Nat) : BodyM Unit := do
        BodyM.setLocal name (.ofNat index)
        discard (evaluate call context body)
      BodyM.countUp round rounds 0
      return .undefined
  | .attempt body handler =>
      BodyM.catchFault (evaluate call context body) fun cause => do
        let shown ← showFault cause
        RunM.log (.fault shown)
        evaluate call (context.hold cause.values) handler
  | .function name body => return .function (← makeFunction name body)
  | .run body => do
      let function ← makeFunction "run" body
      let holding ← BodyM.holding context []
      call holding ⟨function, .undefined, [], 1⟩
  | .klass form => makeClass call context form

/-- Evaluate operands from left to right behind those that are evaluated
already. -/
def evaluateAll (call : Caller) (context : Context) (done : List Value) :
    List Expr -> BodyM (List Value)
  | [] => return done
  | first :: rest => do
      let value ← evaluate call (context.hold done) first
      evaluateAll call context (done ++ [value]) rest

/--
Evaluate steps in order. The value is that of the last one. The latest value is
held until the next step has one.
-/
def evaluateSteps (call : Caller) (context : Context) (latest : Value) :
    List Expr -> BodyM Value
  | [] => return latest
  | step :: rest => do
      let value ← evaluate call (context.hold [latest]) step
      evaluateSteps call context value rest

end

/-- The scope in which a function runs: its home scope, or a new one. -/
def enterScope (cell : FunctionCell) : RunM ScopeRef :=
  match cell.scope with
  | some scope => return scope
  | none => RunM.allocate (·.newScope none)

/-- Run the body of a function in a frame, and record that it is entered and
how it is left. -/
def runInFrame (call : Caller) (context : Context) (entry : BodyEntry)
    (body : Expr) :
    RunM (Value × YieldBuffer) := do
  RunM.note (.entered entry)
  try
    let result ← BodyM.start (evaluate call context body)
    RunM.note (.left none)
    return result
  catch interruption =>
    RunM.note (.left (some interruption))
    throw interruption

/-- Run a function. A generator becomes an object that hands out what
its body yielded. -/
def enterFunction (call : Caller) (holding : Holding)
    (invocation : Invocation) :
    RunM Value := do
  let cell ← RunM.readHeap (·.function invocation.function)
  if cell.limits.callDepth < invocation.depth then
    RunM.fail (.callDepthExceeded cell.limits.callDepth)
  else
    let scope ← enterScope cell
    let isGenerator := cell.kind = .generator
    let frame : Frame := {
      callee := invocation.function
      receiver := invocation.receiver
      args := invocation.args
      scope := scope
      depth := invocation.depth
      yieldLimit :=
        if isGenerator then some cell.limits.generatorYields else none }
    let context : Context :=
      ⟨some frame,
        (holding.hold (invocation.receiver :: invocation.args)).holdScope scope⟩
    let entry : BodyEntry :=
      ⟨invocation.function, invocation.receiver, invocation.args,
        invocation.depth⟩
    let (result, yields) ← runInFrame call context entry cell.body
    if isGenerator then
      return .generator (← RunM.allocate (·.newGenerator yields.values result))
    else return result

/-- Run functions whose bodies nest at most to a bound. Beyond it,
computations stall. -/
def callWithin : Nat -> Caller
  | 0 => fun _ _ => throw .stalled
  | bound + 1 => enterFunction (callWithin bound)

/-- A bound on the nesting of bodies that is above every depth. -/
def nestingBound : Nat := Nat.pow 2 32

/-- Run functions within the standard bound. -/
def standardCall : Caller := callWithin nestingBound

end ClassLowering
