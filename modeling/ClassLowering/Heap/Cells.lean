import ClassLowering.Expr
import ClassLowering.Fault
import ClassLowering.Prototype

/-!
# The heap

The heap holds a cell for every scope, object, function, class and generator
that was ever made. Functions and classes never change; scopes, objects and
generators do.

A scope keeps the list of the scopes around it, nearest first, from the moment
it is opened. Walking outwards is then a walk along a list, and every chain of
scopes is finite.
-/

namespace ClassLowering

/-- What a function was made for. -/
inductive FunctionKind
  | ordinary
  | method
  | generator
  | getter
  | setter
  | constructor
  | fieldInitializer
  | computedKey
  deriving DecidableEq, Repr

/-- A function: a body with its home scope. A function without one gets a new
scope per call. -/
structure FunctionCell where
  name : String
  kind : FunctionKind
  params : List String
  body : Expr
  scope : Option ScopeRef
  limits : Limits

/-- A field of a class, with its initializer if it has one. -/
structure FieldDeclaration where
  key : PropertyKey
  initializer? : Option FunctionRef
  deriving DecidableEq, Repr

/-- A class that was elaborated. -/
structure ClassCell where
  /-- The name in messages: the internal name, else the hint, else empty. -/
  name : String
  /-- The name that the members see. -/
  internalName : Option String
  constructor : FunctionRef
  fields : List FieldDeclaration
  prototype : Prototype
  scope : ScopeRef
  limits : Limits

/-- An object: its own fields, and the class that it was constructed from. -/
structure ObjectCell where
  klass : Option ClassRef
  fields : OrderedMap PropertyKey Value

/-- What a binding holds. -/
inductive Slot
  | value (value : Value)
  | uninitialized
  /-- The class that the scope belongs to. This link does not keep the class
  alive. -/
  | selfReference (klass : ClassRef)
  deriving DecidableEq

/-- A binding of a scope. -/
structure Binding where
  slot : Slot
  isMutable : Bool
  deriving DecidableEq

/-- A scope: its bindings, and the scopes around it from the nearest
outwards. -/
structure ScopeCell where
  bindings : OrderedMap String Binding
  enclosing : List ScopeRef

/-- A generator that ran to its end: the values to hand out, and then
the completion. -/
structure GeneratorCell where
  pending : List Value
  completion : Option Value
  deriving DecidableEq

instance : Inhabited FunctionCell :=
    ⟨"", .ordinary, [], .nothing, none, .standard⟩

instance : Inhabited ClassCell :=
    ⟨"", none, default, [], .initial, default, .standard⟩

instance : Inhabited ObjectCell := ⟨none, ∅⟩

instance : Inhabited ScopeCell := ⟨∅, []⟩

instance : Inhabited GeneratorCell := ⟨[], none⟩

/-- A computation on values that ended early. -/
abbrev Failure := Fault PropertyKey Value

/-- All cells, and the number of the next symbol. -/
structure Heap where
  scopes : Store .scope ScopeCell
  objects : Store .object ObjectCell
  functions : Store .function FunctionCell
  classes : Store .klass ClassCell
  generators : Store .generator GeneratorCell
  nextSymbol : SymbolNumber

namespace Heap

/-- The heap without cells. Symbols are numbered from one. -/
def empty : Heap := ⟨∅, ∅, ∅, ∅, ∅, 1⟩

instance : Inhabited Heap := ⟨empty⟩

/-- The cell of a scope. -/
def scope (heap : Heap) (ref : ScopeRef) : ScopeCell :=
  (heap.scopes.get? ref).getD default

/-- The cell of an object. -/
def object (heap : Heap) (ref : ObjectRef) : ObjectCell :=
  (heap.objects.get? ref).getD default

/-- The cell of a function. -/
def function (heap : Heap) (ref : FunctionRef) : FunctionCell :=
  (heap.functions.get? ref).getD default

/-- The cell of a class. -/
def klass (heap : Heap) (ref : ClassRef) : ClassCell :=
  (heap.classes.get? ref).getD default

/-- The cell of a generator. -/
def generator (heap : Heap) (ref : GeneratorRef) : GeneratorCell :=
  (heap.generators.get? ref).getD default

/-- The prototype that an object is linked to. -/
def prototype? (heap : Heap) (ref : ObjectRef) : Option Prototype :=
  (heap.object ref).klass.map fun klass => (heap.klass klass).prototype

/-- What the prototype of an object holds under a key. -/
def sharedMember? (heap : Heap) (ref : ObjectRef) (key : PropertyKey) :
    Option PrototypeEntry :=
  (heap.prototype? ref).bind fun prototype => prototype.lookup key

/-- Create or overwrite an own field, whatever the prototype holds. -/
def defineField (heap : Heap) (ref : ObjectRef) (key : PropertyKey)
    (value : Value) : Heap :=
  { heap with
    objects := heap.objects.modify ref fun cell =>
      { cell with fields := cell.fields.insert key value } }

/-- A new object of a class, or one of no class. -/
def newObject (heap : Heap) (klass : Option ClassRef) : ObjectRef × Heap :=
  (heap.objects.next, { heap with objects := heap.objects.push ⟨klass, ∅⟩ })

/-- A new function. -/
def newFunction (heap : Heap) (cell : FunctionCell) : FunctionRef × Heap :=
  (heap.functions.next, { heap with functions := heap.functions.push cell })

/-- A new class. -/
def newClass (heap : Heap) (cell : ClassCell) : ClassRef × Heap :=
  (heap.classes.next, { heap with classes := heap.classes.push cell })

/-- A generator that will hand out values and then a completion. -/
def newGenerator (heap : Heap) (yields : List Value) (completion : Value) :
    GeneratorRef × Heap :=
  (heap.generators.next,
    { heap with generators := heap.generators.push ⟨yields, some completion⟩ })

/-- A new symbol with the next number. -/
def newSymbol (heap : Heap) (description : Option String) : Symbol × Heap :=
  (⟨heap.nextSymbol, description⟩,
    { heap with nextSymbol := heap.nextSymbol + 1 })

end Heap
end ClassLowering
