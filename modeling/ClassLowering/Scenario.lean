import ClassLowering.Outline.FunctionForm
import ClassLowering.Outline.Document
import ClassLowering.Semantics.Enumeration
import ClassLowering.Evaluation.Evaluator

/-!
# Scenarios

A scenario makes one class, works with it and records every action with what
came of it. Faults that a scenario sets out to show are recorded as outcomes.
Any other fault ends the scenario, which then has no report.
-/

namespace ClassLowering

/-- The scenarios. -/
inductive Scenario
  | greeter
  | guardedName
  | computedKey
  | namedExpression
  | directCall
  deriving DecidableEq, Repr

/-- An action and what came of it. -/
structure ScenarioStep where
  action : String
  outcome : String
  /-- Whether the action ended without a fault. -/
  succeeded : Bool
  deriving DecidableEq, Repr

/-- What a scenario recorded, and the class that it was about. -/
structure ScenarioReport where
  scenario : Scenario
  steps : List ScenarioStep
  outline : ClassOutline

/-- How a scenario ended. -/
inductive ScenarioOutcome
  | completed (report : ScenarioReport)
  | failed (fault : ShownFault)
  | stalled

namespace Scenario

/-- All scenarios, in the order in which they are run together. -/
def all : List Scenario :=
    [greeter, guardedName, computedKey, namedExpression, directCall]

/-- The name of a scenario. -/
def name : Scenario -> String
  | .greeter => "greeter"
  | .guardedName => "guarded-name"
  | .computedKey => "computed-key"
  | .namedExpression => "named-expression"
  | .directCall => "direct-call"

/-- What a scenario shows. -/
def summary : Scenario -> String
  | .greeter => "constructor stores a name, DigaOla() returns it"
  | .guardedName => "setter ignores names shorter than 4 characters"
  | .computedKey => "method key comes from getMethodName()"
  | .namedExpression => "MyClass resolves inside its methods only"
  | .directCall => "calling the class without instantiation fails"

/-- The scenario with a name. Upper and lower case of ASCII letters may
count as the same. -/
def parse? (text : String) (ignoreCase : Bool) : Option Scenario :=
  all.find? fun scenario =>
    if ignoreCase then text.toLower = scenario.name else text = scenario.name

/-- A text as an expression. -/
def textExpr (text : String) : Expr := .literal (.string text)

/-- The first argument of the running body. -/
def firstArgument : Expr := .apply (.frame .argument) [.literal (.number 0)]

/-- Store the first argument in a property of the receiver. -/
def storeArgument (property : String) : Expr :=
  .apply (.frame .writeReceiver) [textExpr property, firstArgument]

/-- Read a property of the receiver. -/
def readOwn (property : String) : Expr :=
  .apply (.frame .readReceiver) [textExpr property]

/-- A key as written. -/
def writtenKey (text : String) : MemberKey PropertyKey Expr :=
  .literal (.ofText text)

/-- A constructor that stores its argument under `name`. -/
def namingConstructor : BlueprintEntry PropertyKey Expr :=
  .constructor ["name"] (storeArgument "name")

/-- A person who greets with the name. -/
def greetingPerson : ClassBody PropertyKey Expr :=
  .ofEntries [namingConstructor,
    .method (writtenKey "DigaOla") (readOwn "name")]

/-- A person whose name changes only to a text of four characters or more. -/
def guardedPerson : ClassBody PropertyKey Expr :=
  let kind : Expr := .apply (.calculation .typeName) [firstArgument]
  let isText : Expr :=
    .apply (.calculation .strictEquals) [kind, textExpr "string"]
  let length : Expr := .apply (.frame .read) [firstArgument, textExpr "length"]
  let isShort : Expr :=
    .apply (.calculation .less) [length, .literal (.number 4)]
  .ofEntries [
    namingConstructor,
    .getter (writtenKey "name") (readOwn "_name"),
    .setter (writtenKey "name")
      (.choose isText (.choose isShort .nothing (storeArgument "_name"))
        .nothing)]

/-- A person whose method has a key that a function of the scope computes. -/
def computedPerson : ClassBody PropertyKey Expr :=
  let function : Expr := .apply (.scope (.resolve .home "getMethodName")) []
  .ofEntries [
    namingConstructor,
    .method (.computed (.apply (.frame .call) [function]))
      (.apply (.calculation .join) [textExpr "Olá, ", readOwn "name"])]

/-- A class with a method that returns the class by its internal name. -/
def selfNaming : ClassBody PropertyKey Expr :=
  .ofEntries [.method (writtenKey "whoAmI")
    (.apply (.scope (.resolve .home "MyClass")) [])]

/--
Elaborate the class of a scenario in a scope. The scenario holds on to the
class. Scenarios release nothing, so it does not matter what is held meanwhile.
-/
def makeClass (call : Invoker) (limits : Limits) (name : String)
    (body : ClassBody PropertyKey Expr) (scope : ScopeRef) : RunM ClassRef := do
  let klass ← elaborate (fun _ => call) .none limits none
    ⟨some name, body, scope⟩
  RunM.changeSession (·.keepClass klass)
  return klass

/-- Record an action with the value or the fault that it ended with. -/
def record (action : String) (run : RunM Value) : RunM ScenarioStep := do
  try
    let value ← run
    return ⟨action, ← RunM.readHeap (·.diagnostic value), true⟩
  catch
    | .fault cause =>
        return ⟨action, ← RunM.readHeap (·.failureMessage cause), false⟩
    | .stalled => throw .stalled

/-- Record a construction that has to succeed. -/
def recordConstruction (call : Invoker) (action : String) (klass : ClassRef)
    (args : List Value) : RunM (ObjectRef × ScenarioStep) := do
  let value ← construct call klass args 1
  return (← asObject value, ← record action (pure value))

/-- The argument of all scenarios. -/
def john : List Value := [.string "John"]

/-- Put together the report on a class. -/
def conclude (scenario : Scenario) (klass : ClassRef)
    (steps : List ScenarioStep) :
    RunM ScenarioReport := do
  return ⟨scenario, steps, ← RunM.readHeap (·.classOutline klass)⟩

/-- A constructor stores a name and a method returns it. -/
def runGreeter (call : Invoker) (limits : Limits) : RunM ScenarioReport := do
  let scope ← RunM.allocate (·.newScope none)
  let klass ← makeClass call limits "Person" greetingPerson scope
  let (person, first) ←
    recordConstruction call "new Person(\"John\")" klass john
  let second ← record "john.DigaOla()"
    (invokeObject call person (.ofText "DigaOla") [])
  conclude .greeter klass [first, second]

/-- Write a name and read it back. -/
def offerName (call : Invoker) (person : ObjectRef) (candidate : String) :
    RunM (List ScenarioStep) := do
  let write ← record ("person.name = " ++ Diagnostic.quoted candidate) do
    writeObject call person (.ofText "name") (.string candidate) 1
    return .undefined
  let read ← record "person.name" (readObject call person (.ofText "name") 1)
  return [write, read]

/-- A setter refuses short names in silence. -/
def runGuardedName (call : Invoker) (limits : Limits) :
    RunM ScenarioReport := do
  let scope ← RunM.allocate (·.newScope none)
  let klass ← makeClass call limits "Person" guardedPerson scope
  let (person, first) ←
    recordConstruction call "new Person(\"John\")" klass john
  let offers ← ["", "Ana", "Maria"].mapM (offerName call person)
  conclude .guardedName klass (first :: offers.flatten)

/-- A function computes the key of a method. -/
def runComputedKey (call : Invoker) (limits : Limits) :
    RunM ScenarioReport := do
  let scope ← RunM.allocate (·.newScope none)
  let function ← makeFunction "getMethodName" (textExpr "DigaOla")
  RunM.changeHeap (·.declare scope "getMethodName" (.function function))
  let klass ← makeClass call limits "Person" computedPerson scope
  let names := (← RunM.readHeap (·.klass klass)).prototype.textKeys
  let listing := Value.string ("[" ++ ", ".intercalate names ++ "]")
  let first ← record "Object.getOwnPropertyNames(Person.prototype)"
    (pure listing)
  let (person, second) ← recordConstruction call
    "new Person(\"John\")" klass john
  let third ← record "person.DigaOla()"
    (invokeObject call person (.ofText "DigaOla") [])
  conclude .computedKey klass [first, second, third]

/-- The internal name of a class means the class in its methods and
nothing outside. -/
def runNamedExpression (call : Invoker)
    (limits : Limits) : RunM ScenarioReport := do
  let scope ← RunM.allocate (·.newScope none)
  let klass ← makeClass call limits "MyClass" selfNaming scope
  RunM.changeHeap (·.declare scope "Pessoa" (.klass klass))
  let (object, first) ← recordConstruction call "new Pessoa()" klass []
  let self ← RunM.attempt (invokeObject call object (.ofText "whoAmI") [])
  let second ← record "instance.whoAmI()" (RunM.ofExcept self)
  let third ← record "instance.whoAmI() === Pessoa" do
    return .bool ((← RunM.ofExcept self).strictEquals (.klass klass))
  let last ← record "MyClass (from the enclosing scope)" do
    let state ← get
    RunM.ofExcept (state.heap.resolve (state.isAlive .none) scope "MyClass")
  conclude .namedExpression klass [first, second, third, last]

/-- A class refuses to be called and can still be constructed. -/
def runDirectCall (call : Invoker) (limits : Limits) : RunM ScenarioReport := do
  let scope ← RunM.allocate (·.newScope none)
  let klass ← makeClass call limits "Person" greetingPerson scope
  let first ← record "Person(\"John\")"
    (callValue call (.klass klass) .undefined john 1)
  let second ← record "Person()" (callValue call (.klass klass) .undefined [] 1)
  let third ← record "new Person(\"John\")" (construct call klass john 1)
  conclude .directCall klass [first, second, third]

/-- Run a scenario with limits on the bodies of its class. -/
def runWith (call : Invoker) (limits : Limits) : Scenario -> RunM ScenarioReport
  | .greeter => runGreeter call limits
  | .guardedName => runGuardedName call limits
  | .computedKey => runComputedKey call limits
  | .namedExpression => runNamedExpression call limits
  | .directCall => runDirectCall call limits

/-- How a scenario ends when it is run on its own. -/
def run (limits : Limits) (scenario : Scenario) : ScenarioOutcome :=
  match scenario.runWith (standardCall .none) limits .empty with
  | .ok report _ => .completed report
  | .error .stalled _ => .stalled
  | .error (.fault cause) state =>
      match showFault cause state with
      | .ok fault _ => .failed fault
      | .error _ _ => .stalled

end Scenario

namespace ScenarioReport

/-- The outcome of the last step. -/
def lastOutcome? (report : ScenarioReport) : Option String :=
  report.steps.getLast?.map ScenarioStep.outcome

/-- A step as data. -/
def stepDocument (step : ScenarioStep) : Json :=
  .record [
    ("action", .string step.action),
    ("outcome", .string step.outcome),
    ("ok", .bool step.succeeded)]

/-- A report as data. -/
def document (report : ScenarioReport) : Json :=
  .record [
    ("scenario", .string report.scenario.name),
    ("summary", .string report.scenario.summary),
    ("steps", .list (report.steps.map stepDocument)),
    ("layout", report.outline.document)]

end ScenarioReport
end ClassLowering
