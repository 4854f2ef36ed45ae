import ClassLowering.Heap.Cells
import ClassLowering.Text.Diagnostic

/-!
# Texts of values

The text of a value is what messages, concatenation and conversion to a key
show. The diagnostic text differs from it for strings, which are quoted, and for
objects, which show the name of their class.
-/

namespace ClassLowering

/-- The text of a class with a name. -/
def classText (name : String) : String := "class " ++ name

/-- The text of a function with a name. -/
def functionText (name : String) : String :=
  "function " ++ name ++ "() \x7b [native code] \x7d"

/-- The text of every object. -/
def objectText : String := "[object Object]"

/-- The text of every generator. -/
def generatorText : String := "[object Generator]"

namespace FunctionKind

/-- The name of a kind of function. -/
def name : FunctionKind -> String
  | .ordinary => "Normal"
  | .method => "Method"
  | .generator => "Generator"
  | .getter => "Getter"
  | .setter => "Setter"
  | .constructor => "Constructor"
  | .fieldInitializer => "FieldInitializer"
  | .computedKey => "ComputedKey"

end FunctionKind

namespace MemberKind

/-- The name of a kind of member. -/
def name : MemberKind -> String
  | .method => "Method"
  | .getter => "Getter"
  | .setter => "Setter"
  | .field => "Field"

end MemberKind

namespace Heap

/-- The text of a value. -/
def text (heap : Heap) : Value -> String
  | .undefined => "undefined"
  | .null => "null"
  | .bool b => Diagnostic.bool b
  | .number x => numberText x
  | .string text => text
  | .symbol symbol => symbol.text
  | .object _ => objectText
  | .klass ref => classText (heap.klass ref).name
  | .function ref => functionText (heap.function ref).name
  | .generator _ => generatorText

/-- The name of the class of an object. -/
def className? (heap : Heap) (ref : ObjectRef) : Option String :=
  (heap.object ref).klass.map fun klass => (heap.klass klass).name

/-- The diagnostic text of a value. -/
def diagnostic (heap : Heap) : Value -> String
  | .string text => Diagnostic.quoted text
  | .object ref =>
      match heap.className? ref with
      | some name => "[object " ++ name ++ "]"
      | none => objectText
  | value => heap.text value

/-- The message of a failure. -/
def failureMessage (heap : Heap) (failure : Failure) : String :=
  failure.message PropertyKey.display heap.text

/-- The diagnostic text of a function. -/
def functionDiagnostic (heap : Heap) (ref : FunctionRef) : String :=
  let cell := heap.function ref
  Diagnostic.record "Function" [
    ("name", Diagnostic.quoted cell.name),
    ("kind", cell.kind.name),
    ("length", toString cell.params.length)]

/-- The diagnostic text of a class. -/
def classDiagnostic (heap : Heap) (ref : ClassRef) : String :=
  let cell := heap.klass ref
  Diagnostic.record "Constructible" [
    ("name", Diagnostic.quoted cell.name),
    ("internal_name", Diagnostic.option
      (cell.internalName.map Diagnostic.quoted)),
    ("fields", toString cell.fields.length),
    ("members", toString cell.prototype.size)]

/-- The diagnostic text of an object. -/
def objectDiagnostic (heap : Heap) (ref : ObjectRef) : String :=
  Diagnostic.record "Instance" [
    ("class", Diagnostic.option ((heap.className? ref).map Diagnostic.quoted)),
    ("fields", Diagnostic.list ((heap.object ref).fields.keys.map fun key =>
      Diagnostic.quoted key.display))]

/-- The diagnostic text of an entry of a prototype. -/
def entryDiagnostic (heap : Heap) : PrototypeEntry -> String
  | .constructor => "Constructor"
  | .method function => "Method(" ++ heap.functionDiagnostic function ++ ")"
  | .accessor getter setter =>
      "Accessor(" ++ Diagnostic.record "AccessorPair" [
        ("get", Diagnostic.option (getter.map heap.functionDiagnostic)),
        ("set", Diagnostic.option (setter.map heap.functionDiagnostic))] ++ ")"

/-- The diagnostic text of a prototype. -/
def prototypeDiagnostic (heap : Heap) (prototype : Prototype) : String :=
  Diagnostic.map (prototype.entries.map fun entry =>
    (entry.1.display, heap.entryDiagnostic entry.2.entry))

/-- The diagnostic text of a scope, with its names in alphabetical order. -/
def scopeDiagnostic (heap : Heap) (ref : ScopeRef) : String :=
  let cell := heap.scope ref
  let names := cell.bindings.keys.mergeSort fun left right =>
    decide (left ≤ right)
  Diagnostic.record "Scope" [
    ("bindings", Diagnostic.list (names.map Diagnostic.quoted)),
    ("has_parent", Diagnostic.bool (!cell.enclosing.isEmpty))]

/-- The diagnostic text of a member. -/
def memberDiagnostic (member : Member PropertyKey Expr) : String :=
  Diagnostic.record "Member" [
    ("kind", member.kind.name),
    ("key", match member.key with
      | .literal key => key.display
      | .computed _ => "[<computed>]"),
    ("is_generator", Diagnostic.bool member.isGenerator),
    ("params", Diagnostic.list (member.params.map Diagnostic.quoted)),
    ("position", toString member.position)]

/-- A constructor as the member that it is written as. -/
def constructorMember (part : ConstructorPart Expr) : Member PropertyKey Expr :=
  ⟨.method, .literal .constructor, false, part.body, part.params, part.position⟩

/-- The diagnostic text of a class before its elaboration. -/
def draftDiagnostic (heap : Heap) (draft : ClassDraft) : String :=
  Diagnostic.record "ClassDescriptor" [
    ("name", Diagnostic.option (draft.name.map Diagnostic.quoted)),
    ("members", Diagnostic.list (draft.body.members.map memberDiagnostic)),
    ("constructor", Diagnostic.option
      (draft.body.constructor.map fun part =>
        memberDiagnostic (constructorMember part))),
    ("scope", heap.scopeDiagnostic draft.scope)]

end Heap
end ClassLowering
