import ClassLowering.Evaluation.Body
import ClassLowering.Evaluation.Calculation
import ClassLowering.Evaluation.HostOperation
import ClassLowering.Session.Showing

/-!
# Operations on the session

Expressions read and write the variables, symbols and scopes that the session
stores under names, the local variables of the body, and the bindings of scopes.

A class is released by dropping every hold that the session has on it. The
answer says whether nothing else owned it.
-/

namespace ClassLowering

/-- Store a symbol under a name. -/
def storeSymbol (name : String) (symbol : Symbol) : RunM Unit :=
  RunM.changeSession fun session =>
    { session with symbols := session.symbols.insert name symbol }

/-- The symbol of the session with a name. It is made when it is first asked
for. -/
def symbolNamed (name : String) : RunM Symbol := do
  match (← RunM.readSession (·.symbols)).find? name with
  | some symbol => return symbol
  | none =>
      let symbol ← RunM.allocate (·.newSymbol (some name))
      storeSymbol name symbol
      return symbol

/-- The scope that the session stores under a name. -/
def scopeNamed (name : String) : RunM ScopeRef := do
  match (← RunM.readSession (·.scopes)).find? name with
  | some scope => return scope
  | none => RunM.failType (.unsuitableOperand "a stored scope")

/-- Store a scope under a name. -/
def storeScope (name : String) (scope : ScopeRef) : RunM Unit :=
  RunM.changeSession fun session =>
    { session with scopes := session.scopes.insert name scope }

/-- The scope at which an operation on bindings starts. -/
def siteScope (home : Option ScopeRef) : ScopeSite -> RunM ScopeRef
  | .stored name => scopeNamed name
  | .home =>
      match home with
      | some scope => return scope
      | none => RunM.failType (.unsuitableOperand "used inside a body")

/-- Give up a class that a variable holds. Whether it is gone then is the
result. -/
def releaseClass (holding : Holding) (name : String) : RunM Value := do
  match (← RunM.readSession (·.storedValues)).find? name with
  | some (.klass klass) =>
      RunM.changeSession (·.release name klass)
      return .bool (!(← get).isAlive holding klass)
  | _ => RunM.failType (.unsuitableOperand "a variable that holds a class")

/-- Do an operation on variables, symbols or the log. -/
def performStorage (holding : Holding) (operation : StorageOperation)
    (operands : List Value) :
    BodyM Value := do
  let value := operand operands 0
  match operation with
  | .symbol name => return .symbol (← symbolNamed name)
  | .freshSymbol name description =>
      let symbol ← RunM.allocate (·.newSymbol description)
      storeSymbol name symbol
      return .symbol symbol
  | .variable name =>
      return ((← RunM.readSession (·.storedValues)).find? name).getD .undefined
  | .setVariable name =>
      RunM.changeSession fun session =>
        { session with storedValues := session.storedValues.insert name value }
      return value
  | .localVariable name => BodyM.getLocal name
  | .setLocalVariable name =>
      BodyM.setLocal name value
      return value
  | .log =>
      let shown ← showValue value
      RunM.log (.value shown)
      return value
  | .release name => releaseClass holding name

/-- Do an operation on scopes or bindings. -/
def performScope (holding : Holding) (home : Option ScopeRef)
    (operation : ScopeOperation) (operands : List Value) : RunM Value := do
  let value := operand operands 0
  match operation with
  | .newRoot store =>
      storeScope store (← RunM.allocate (·.newScope none))
      return .undefined
  | .newChild store parent =>
      let parent ← scopeNamed parent
      storeScope store (← RunM.allocate (·.newScope (some parent)))
      return .undefined
  | .storeHome store =>
      storeScope store (← siteScope home .home)
      return .undefined
  | .storeClassScope store =>
      storeScope store (← RunM.readHeap (·.klass (← asClass value))).scope
      return .undefined
  | .storeParent store child =>
      match ← RunM.readHeap (·.parentScope? (← scopeNamed child)) with
      | some parent =>
          storeScope store parent
          return .bool true
      | none => return .bool false
  | .same left right =>
      return .bool ((← scopeNamed left) = (← scopeNamed right))
  | .declare site name =>
      let scope ← siteScope home site
      RunM.changeHeap (·.declare scope name value)
      return .undefined
  | .declareConst site name =>
      let scope ← siteScope home site
      RunM.changeHeap (·.declareConst scope name value)
      return .undefined
  | .assign site name =>
      let scope ← siteScope home site
      let heap ← RunM.ofExcept ((← RunM.readHeap id).assign scope name value)
      RunM.changeHeap fun _ => heap
      return .undefined
  | .resolve site name =>
      let scope ← siteScope home site
      let state ← get
      RunM.ofExcept (state.heap.resolve (state.isAlive holding) scope name)
  | .hasOwn site name =>
      let scope ← siteScope home site
      return .bool (← RunM.readHeap (·.hasOwnBinding scope name))
  | .isBound site name =>
      let scope ← siteScope home site
      return .bool (← RunM.readHeap (·.isBound scope name))

end ClassLowering
