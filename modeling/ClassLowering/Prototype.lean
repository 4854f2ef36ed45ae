import ClassLowering.Data.OrderedMap
import ClassLowering.Data.Store
import ClassLowering.PropertyKey

/-!
# Prototypes

The prototype of a class is the map from keys to shared members that all
its objects are linked to. It starts with the link back to the class and
then takes the definitions of the class in order. Every entry is stored
with its attributes.

A method replaces whatever its key held. A getter or setter joins the accessor
that its key holds, and replaces a method. A key keeps the place of its first
definition, whatever happens to its entry later.
-/

namespace ClassLowering

/-- What a key of a prototype holds. -/
inductive PrototypeEntry
  | constructor
  | method (function : FunctionRef)
  | accessor (getter setter : Option FunctionRef)
  deriving DecidableEq, Repr

/-- The attributes of a property. -/
structure Attributes where
  writable : Bool
  enumerable : Bool
  configurable : Bool
  deriving DecidableEq, Repr

namespace Attributes

/-- The attributes of methods and of the link to the class. -/
def ofMethod : Attributes := ⟨true, false, true⟩

/-- The attributes of accessors, which cannot be written over. -/
def ofAccessor : Attributes := ⟨false, false, true⟩

/-- The attributes as a sum of powers of two. -/
def bits (attributes : Attributes) : Nat :=
  (if attributes.writable then 1 else 0) +
    (if attributes.enumerable then 2 else 0) +
    (if attributes.configurable then 4 else 0)

end Attributes

/-- The roles in which a function becomes part of a prototype. -/
inductive MemberRole
  | method
  | getter
  | setter
  deriving DecidableEq, Repr

/-- The attributes that a definition in a role stores. -/
def MemberRole.attributes : MemberRole -> Attributes
  | .method => .ofMethod
  | .getter | .setter => .ofAccessor

/-- A function that a class defines under a key. -/
structure Definition where
  key : PropertyKey
  role : MemberRole
  function : FunctionRef
  deriving DecidableEq, Repr

namespace PrototypeEntry

/-- The entry of a key after one more definition. -/
def define (function : FunctionRef) :
    MemberRole -> Option PrototypeEntry -> PrototypeEntry
  | .method, _ => .method function
  | .getter, some (.accessor _ setter) => .accessor (some function) setter
  | .getter, _ => .accessor (some function) none
  | .setter, some (.accessor getter _) => .accessor getter (some function)
  | .setter, _ => .accessor none (some function)

/-- The functions of an entry. -/
def functions : PrototypeEntry -> List FunctionRef
  | .constructor => []
  | .method function => [function]
  | .accessor getter setter => getter.toList ++ setter.toList

end PrototypeEntry

/-- An entry with the attributes that it was stored with. -/
structure PrototypeSlot where
  entry : PrototypeEntry
  attributes : Attributes
  deriving DecidableEq, Repr

/-- The shared members of the objects of a class. -/
abbrev Prototype := OrderedMap PropertyKey PrototypeSlot

namespace Prototype

/-- The prototype of a class without members. -/
def initial : Prototype :=
  OrderedMap.empty.insert .constructor ⟨.constructor, .ofMethod⟩

/-- The entry under a key. -/
def lookup (prototype : Prototype)
    (key : PropertyKey) : Option PrototypeEntry :=
  (prototype.find? key).map PrototypeSlot.entry

/-- A key without an entry is absent. -/
theorem lookup_eq_none_iff (prototype : Prototype) (key : PropertyKey) :
    prototype.lookup key = none ↔ key ∉ prototype := by
  rw [lookup, Option.map_eq_none_iff, OrderedMap.find?_eq_none_iff]

/-- Keys that count as one have the same entry. -/
theorem lookup_congr (prototype : Prototype) {key other : PropertyKey}
    (same : key == other) :
    prototype.lookup key = prototype.lookup other :=
  congrArg (Option.map PrototypeSlot.entry) (prototype.find?_congr same)

/-- Take one more definition. -/
def define (prototype : Prototype) (definition : Definition) : Prototype :=
  prototype.insert definition.key
    ⟨.define definition.function definition.role
      (prototype.lookup definition.key), definition.role.attributes⟩

/-- A definition changes the entry of its key. -/
theorem lookup_define (prototype : Prototype) (definition : Definition)
    (key : PropertyKey) :
    (prototype.define definition).lookup key =
      if definition.key == key then
        some (.define definition.function definition.role
          (prototype.lookup definition.key))
      else prototype.lookup key := by
  rw [lookup, define, OrderedMap.find?_insert]
  split <;> rfl

/-- The prototype that takes definitions in order. -/
def ofDefinitions (definitions : List Definition) : Prototype :=
  definitions.foldl define initial

/-- The method under a key. -/
def method? (prototype : Prototype) (key : PropertyKey) : Option FunctionRef :=
  match prototype.lookup key with
  | some (.method function) => some function
  | _ => none

/-- The getter under a key. -/
def getter? (prototype : Prototype) (key : PropertyKey) : Option FunctionRef :=
  match prototype.lookup key with
  | some (.accessor getter _) => getter
  | _ => none

/-- The setter under a key. -/
def setter? (prototype : Prototype) (key : PropertyKey) : Option FunctionRef :=
  match prototype.lookup key with
  | some (.accessor _ setter) => setter
  | _ => none

/-- The keys that an enumeration shows. -/
def enumerableKeys (prototype : Prototype) : List PropertyKey :=
  (prototype.entries.filter fun entry =>
    entry.2.attributes.enumerable).map Prod.fst

/-- The functions that a prototype holds. -/
def functions (prototype : Prototype) : List FunctionRef :=
  prototype.values.flatMap fun slot => slot.entry.functions

end Prototype
end ClassLowering
