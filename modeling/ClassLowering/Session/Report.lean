import ClassLowering.Evaluation.Evaluator
import ClassLowering.Outline.FunctionForm
import ClassLowering.Outline.Document
import ClassLowering.Semantics.Enumeration

/-!
# Reports

A report says what a class, function, object, generator, scope, key or other
value is like. Everything with an identity is shown with a number, and the parts
of a report are shown in the order in which they are listed.
-/

namespace ClassLowering

/-- What a value is like. -/
structure ValueReport where
  typeName : String
  text : String
  diagnostic : String
  isTruthy : Bool
  isComposite : Bool
  isUndefined : Bool
  string? : Option String
  number? : Option Float
  bool? : Option Bool

/-- What a function is like. -/
structure FunctionReport where
  function : Shown
  kind : FunctionKind
  params : List String
  diagnostic : String

namespace FunctionReport

/-- Whether the function is a generator. -/
def isGenerator (report : FunctionReport) : Bool := report.kind = .generator

/-- The number of parameters. -/
def length (report : FunctionReport) : Nat := report.params.length

end FunctionReport

/-- What an entry of a prototype holds. -/
inductive EntryReport
  | constructor
  | method (function : FunctionReport)
  | accessor (getter setter : Option FunctionReport)

/-- What a class is like. -/
structure ClassReport where
  name : String
  internalName : Option String
  params : List String
  limits : Limits
  fields : List (ShownKey × Option FunctionReport)
  diagnostic : String

/-- What a prototype is like. -/
structure PrototypeReport where
  entries : List (ShownKey × Attributes × EntryReport)
  enumerable : List String
  names : List String
  diagnostic : String

/-- What an object is like. -/
structure ObjectReport where
  fields : List (ShownKey × Shown)
  keys : List String
  loopKeys : List String
  diagnostic : String

/-- Answers to questions about values. -/
inductive Report
  | shown (value : Shown)
  | value (report : ValueReport)
  | function (report : FunctionReport)
  | text (text : String)
  | texts (texts : List String)
  | klass (report : ClassReport)
  | prototype (report : PrototypeReport)
  | entry (found : Option (Attributes × EntryReport))
  | object (report : ObjectReport)
  | delivery (value : Shown) (isDone : Bool)
  | values (values : List Shown)
  | key (shown : ShownKey) (key : PropertyKey)
  | draft (diagnostic : String) (computed : List Bool)

/-- What a session can be asked about the value of an expression. -/
inductive Question
  | value
  | function
  | functionForm
  | document
  | ownKeys
  | klass
  | prototype
  | lookUp (key : Expr)
  | object
  | next
  | remaining
  | key (depth : Depth)

/-- Show values in order. -/
def showValues (values : List Value) : RunM (List Shown) :=
  values.mapM showValue

/-- Report on a value. -/
def reportValue (value : Value) : RunM ValueReport := do
  let heap ← RunM.readHeap id
  return {
    typeName := value.typeName
    text := heap.text value
    diagnostic := heap.diagnostic value
    isTruthy := value.isTruthy
    isComposite := value.isComposite
    isUndefined := value = .undefined
    string? := match value with
      | .string text => some text
      | _ => none
    number? := match value with
      | .number x => some x
      | _ => none
    bool? := match value with
      | .bool b => some b
      | _ => none }

/-- Report on a function. -/
def reportFunction (ref : FunctionRef) : RunM FunctionReport := do
  let heap ← RunM.readHeap id
  let cell := heap.function ref
  return ⟨← showValue (.function ref), cell.kind, cell.params,
    heap.functionDiagnostic ref⟩

/-- Report on a function if there is one. -/
def reportFunction? : Option FunctionRef -> RunM (Option FunctionReport)
  | none => return none
  | some ref => return some (← reportFunction ref)

/-- Report on an entry of a prototype. -/
def reportEntry : PrototypeEntry -> RunM EntryReport
  | .constructor => return .constructor
  | .method function => return .method (← reportFunction function)
  | .accessor getter setter =>
      return .accessor (← reportFunction? getter) (← reportFunction? setter)

/-- Report on a class. -/
def reportClass (ref : ClassRef) : RunM ClassReport := do
  let heap ← RunM.readHeap id
  let cell := heap.klass ref
  let fields ← cell.fields.mapM fun field => do
    let key ← showKey field.key
    return (key, ← reportFunction? field.initializer?)
  return {
    name := cell.name
    internalName := cell.internalName
    params := (heap.function cell.constructor).params
    limits := cell.limits
    fields := fields
    diagnostic := heap.classDiagnostic ref }

/-- Report on the prototype of a class. -/
def reportPrototype (ref : ClassRef) : RunM PrototypeReport := do
  let heap ← RunM.readHeap id
  let prototype := (heap.klass ref).prototype
  let entries ← prototype.entries.mapM fun entry => do
    let key ← showKey entry.1
    return (key, entry.2.attributes, ← reportEntry entry.2.entry)
  return {
    entries := entries
    enumerable := prototype.enumerableKeys.map PropertyKey.display
    names := prototype.textKeys
    diagnostic := heap.prototypeDiagnostic prototype }

/-- Report on what a prototype holds under a key. -/
def reportLookUp (ref : ClassRef) (key : PropertyKey) :
    RunM (Option (Attributes × EntryReport)) := do
  let prototype := (← RunM.readHeap (·.klass ref)).prototype
  match prototype.find? key with
  | none => return none
  | some slot => return some (slot.attributes, ← reportEntry slot.entry)

/-- Report on an object. -/
def reportObject (ref : ObjectRef) : RunM ObjectReport := do
  let heap ← RunM.readHeap id
  let fields ← (heap.object ref).fields.entries.mapM fun field => do
    let key ← showKey field.1
    return (key, ← showValue field.2)
  return {
    fields := fields
    keys := heap.ownTextKeys (.object ref)
    loopKeys := (heap.loopKeys ref).map PropertyKey.display
    diagnostic := heap.objectDiagnostic ref }

/-- The outline of a class that a value refers to. -/
def outlineOf (value : Value) : RunM ClassOutline := do
  let ref ← asClass value
  RunM.readHeap (·.classOutline ref)

/-- Answer a question about the value of an expression. -/
def answer (call : Caller) (subject : Expr)
    (question : Question) : BodyM Report := do
  let value ← evaluate call .host subject
  match question with
  | .value => return .value (← reportValue value)
  | .function => return .function (← reportFunction (← asFunction value))
  | .functionForm => return .text (← outlineOf value).functionForm
  | .document => return .text (← outlineOf value).document.text
  | .ownKeys => return .texts (← RunM.readHeap (·.ownTextKeys value))
  | .klass => return .klass (← reportClass (← asClass value))
  | .prototype => return .prototype (← reportPrototype (← asClass value))
  | .lookUp key =>
      let klass ← asClass value
      let keyValue ← evaluate call (Context.host.hold [value]) key
      let holding ← BodyM.holding .host [value, keyValue]
      let key ← toKey (call holding) keyValue 1
      return .entry (← reportLookUp klass key)
  | .object => return .object (← reportObject (← asObject value))
  | .next =>
      let generator ← asGenerator value
      let delivery ← RunM.allocate (·.nextYield generator)
      return .delivery (← showValue delivery.value) delivery.isDone
  | .remaining =>
      let generator ← asGenerator value
      let values ← RunM.allocate (·.drainYields generator)
      return .values (← showValues values)
  | .key depth =>
      let holding ← BodyM.holding .host [value]
      let key ← toKey (call holding) value depth
      return .key (← showKey key) key

end ClassLowering
