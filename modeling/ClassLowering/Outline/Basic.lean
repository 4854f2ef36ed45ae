import ClassLowering.Heap.Cells

/-!
# Outlines of classes

The outline of a class is what can be said about it without its bodies: names,
parameters, fields and entries of the prototype. Everything that is written
about a class, as code or as data, is written from its outline.
-/

namespace ClassLowering

/-- A function without its body. -/
structure FunctionOutline where
  name : String
  isGenerator : Bool
  params : List String
  deriving DecidableEq, Repr

/-- A field without its initializer. -/
structure FieldOutline where
  key : PropertyKey
  hasInitializer : Bool
  deriving DecidableEq, Repr

/-- An entry of a prototype without bodies. -/
inductive EntryOutline
  | constructor
  | method (function : FunctionOutline)
  | accessor (getter setter : Option FunctionOutline)
  deriving DecidableEq, Repr

/-- An entry of a prototype with its key and its attributes. -/
structure MemberOutline where
  key : PropertyKey
  entry : EntryOutline
  attributes : Attributes
  deriving DecidableEq, Repr

/-- A class without bodies. -/
structure ClassOutline where
  name : String
  internalName : Option String
  params : List String
  fields : List FieldOutline
  entries : List MemberOutline
  deriving DecidableEq, Repr

namespace Heap

/-- The outline of a function. -/
def functionOutline (heap : Heap) (ref : FunctionRef) : FunctionOutline :=
  let cell := heap.function ref
  ⟨cell.name, cell.kind = .generator, cell.params⟩

/-- The outline of an entry. -/
def entryOutline (heap : Heap) : PrototypeEntry -> EntryOutline
  | .constructor => .constructor
  | .method function => .method (heap.functionOutline function)
  | .accessor getter setter =>
      .accessor (getter.map heap.functionOutline)
        (setter.map heap.functionOutline)

/-- The outline of a class. -/
def classOutline (heap : Heap) (ref : ClassRef) : ClassOutline :=
  let cell := heap.klass ref
  { name := cell.name
    internalName := cell.internalName
    params := (heap.function cell.constructor).params
    fields := cell.fields.map fun field =>
      ⟨field.key, field.initializer?.isSome⟩
    entries := cell.prototype.entries.map fun stored =>
      ⟨stored.1, heap.entryOutline stored.2.entry, stored.2.attributes⟩ }

end Heap
end ClassLowering
