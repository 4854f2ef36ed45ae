import ClassLowering.Heap.Cells

/-!
# Bindings

A name means the binding of the nearest scope that has one, walking outwards.
Reading, assigning and asking whether a name is bound all act on that binding;
declaring acts on the scope itself.

A class scope binds the internal name of its class to the class without keeping
it alive. Whether the class still exists is decided outside of this module and
handed in as a predicate.
-/

namespace ClassLowering
namespace Heap

/-- A scope and the scopes around it, nearest first. -/
def scopePath (heap : Heap) (ref : ScopeRef) : List ScopeRef :=
  ref :: (heap.scope ref).enclosing

/-- The scope right around a scope. -/
def parentScope? (heap : Heap) (ref : ScopeRef) : Option ScopeRef :=
  (heap.scope ref).enclosing.head?

/-- The binding of a name in a scope itself. -/
def ownBinding? (heap : Heap) (ref : ScopeRef)
    (name : String) : Option Binding :=
  (heap.scope ref).bindings.find? name

/-- The nearest binding of a name, with the scope that has it. -/
def nearestBinding? (heap : Heap) (ref : ScopeRef) (name : String) :
    Option (ScopeRef × Binding) :=
  (heap.scopePath ref).findSome? fun scope =>
    (heap.ownBinding? scope name).map fun binding => (scope, binding)

/-- Whether a scope itself binds a name. -/
def hasOwnBinding (heap : Heap) (ref : ScopeRef) (name : String) : Bool :=
  (heap.ownBinding? ref name).isSome

/-- Whether a name is bound in a scope or around it. -/
def isBound (heap : Heap) (ref : ScopeRef) (name : String) : Bool :=
  (heap.nearestBinding? ref name).isSome

/-- Open a scope inside another one, or outside of all. -/
def newScope (heap : Heap) (parent : Option ScopeRef) : ScopeRef × Heap :=
  let enclosing := match parent with
    | none => []
    | some outer => heap.scopePath outer
  (heap.scopes.next, { heap with scopes := heap.scopes.push ⟨∅, enclosing⟩ })

/-- Set the binding of a name in a scope, replacing any that it has. -/
def bind (heap : Heap) (ref : ScopeRef) (name : String)
    (binding : Binding) : Heap :=
  { heap with
    scopes := heap.scopes.modify ref fun cell =>
      { cell with bindings := cell.bindings.insert name binding } }

/-- Declare a name that can be assigned to. -/
def declare (heap : Heap) (ref : ScopeRef) (name : String)
    (value : Value) : Heap :=
  heap.bind ref name ⟨.value value, true⟩

/-- Declare a name that cannot be assigned to. -/
def declareConst (heap : Heap) (ref : ScopeRef) (name : String)
    (value : Value) : Heap :=
  heap.bind ref name ⟨.value value, false⟩

/-- What a binding yields when its name is read. -/
def readBinding (isAlive : ClassRef -> Bool) (name : String)
    (binding : Binding) :
    Except Failure Value :=
  match binding.slot with
  | .value value => .ok value
  | .uninitialized => .error (.uninitialized name)
  | .selfReference klass =>
      if isAlive klass then .ok (.klass klass) else .error (.reference name)

/-- The value of a name. -/
def resolve (heap : Heap) (isAlive : ClassRef -> Bool) (ref : ScopeRef)
    (name : String) :
    Except Failure Value :=
  match heap.nearestBinding? ref name with
  | some (_, binding) => readBinding isAlive name binding
  | none => .error (.reference name)

/-- Give the nearest binding of a name another value. -/
def assign (heap : Heap) (ref : ScopeRef) (name : String) (value : Value) :
    Except Failure Heap :=
  match heap.nearestBinding? ref name with
  | some (owner, binding) =>
      if binding.slot = .uninitialized then .error (.uninitialized name)
      else if binding.isMutable then
        .ok (heap.bind owner name ⟨.value value, true⟩)
      else .error (.constAssignment name)
  | none => .error (.reference name)

/-- The scope of a class: its internal name is bound there but cannot be used
yet. -/
def openClassScope (heap : Heap) (outer : ScopeRef)
    (internalName : Option String) :
    ScopeRef × Heap :=
  let (scope, opened) := heap.newScope (some outer)
  match internalName with
  | none => (scope, opened)
  | some name => (scope, opened.bind scope name ⟨.uninitialized, false⟩)

/-- Let the internal name of a class mean the class, for reading only. -/
def bindSelf (heap : Heap) (scope : ScopeRef) (internalName : Option String)
    (klass : ClassRef) :
    Heap :=
  match internalName with
  | none => heap
  | some name => heap.bind scope name ⟨.selfReference klass, false⟩

end Heap
end ClassLowering
