import ClassLowering.Heap.Yields
import ClassLowering.Run

/-!
# Running bodies

A running body has a frame that stays the same while it runs, and a state of its
own that starts empty: its local variables and its yields. Runs of the engine
are lifted into bodies and cannot touch the locals or the yields of the body
that started them.

A step of the host runs like a body without a frame.
-/

namespace ClassLowering

/-- What a body knows about its call. -/
structure Frame where
  callee : FunctionRef
  receiver : Value
  args : List Value
  scope : ScopeRef
  depth : Depth
  /-- How often the body may yield; bodies that are no generators may not. -/
  yieldLimit : Option Nat

/-- Where an expression is evaluated: inside a body or in a step of the host. -/
structure Context where
  frame : Option Frame
  /-- What the computations around the expression hold. -/
  holding : Holding

namespace Context

/-- The context of a step of the host. -/
def host : Context := ⟨none, .none⟩

/-- The depth at which conversions of keys start. -/
def keyDepth (context : Context) : Depth :=
  (context.frame.map Frame.depth).getD 1

/-- The context while some operands are already evaluated. -/
def hold (context : Context) (values : List Value) : Context :=
  { context with holding := context.holding.hold values }

end Context

/-- What a running body can change. -/
structure BodyState where
  state : State
  locals : OrderedMap String Value
  yields : YieldBuffer

/-- Computations of a running body. -/
abbrev BodyM := EStateM Interruption BodyState

namespace BodyM

variable {α : Type}

/-- Do a run of the engine inside a body. -/
def lift (run : RunM α) : BodyM α := fun ⟨state, locals, yields⟩ =>
  match run state with
  | .ok result after => .ok result ⟨after, locals, yields⟩
  | .error interruption after => .error interruption ⟨after, locals, yields⟩

instance : MonadLift RunM BodyM := ⟨lift⟩

/-- Run a body from empty locals and yields. -/
def start (body : BodyM α) : RunM (α × YieldBuffer) := fun state =>
  match body ⟨state, ∅, .empty⟩ with
  | .ok result after => .ok (result, after.yields) after.state
  | .error interruption after => .error interruption after.state

/-- Go on with a handler when a body ends with a fault. Changes made
before it stay. -/
def catchFault (body : BodyM α) (handler : Failure -> BodyM α) : BodyM α :=
  fun state =>
  match body state with
  | .error (.fault cause) after => handler cause after
  | other => other

/-- Set a local variable. -/
def setLocal (name : String) (value : Value) : BodyM Unit :=
  modify fun ⟨state, locals, yields⟩ =>
    ⟨state, locals.insert name value, yields⟩

/-- The value of a local variable. -/
def getLocal (name : String) : BodyM Value := do
  return ((← get).locals.find? name).getD .undefined

/-- Do something for every number below a bound, counting up from an index. -/
def countUp (action : Nat -> BodyM Unit) : Nat -> Nat -> BodyM Unit
  | 0, _ => return ()
  | rounds + 1, index => do
      action index
      countUp action rounds (index + 1)

/-- What is held while an operation acts: its operands, the locals and the
yields as well. -/
def holding (context : Context) (operands : List Value) : BodyM Holding := do
  let body ← get
  return ((context.holding.hold operands).hold body.locals.values).hold
    body.yields.newestFirst

end BodyM

end ClassLowering
