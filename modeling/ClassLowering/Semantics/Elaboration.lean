import ClassLowering.Semantics.KeyConversion

/-!
# Elaboration of classes

Elaboration turns a class as written into a class cell. The class scope is
opened first, with the internal name bound but unusable. Then the keys of all
members are evaluated in order of position; the first fault stops the
elaboration and is wrapped with the index of its member. Then the declared keys
are checked, the prototype and the fields are put together, and the internal
name becomes usable.

Whatever bodies of keys did before a fault stays done. No class exists after
one.
-/

namespace ClassLowering

/-- Evaluate one key. A computed key is the value of a function that
runs at depth one. -/
def evaluateKey (call : Invoker) (scope : ScopeRef) (limits : Limits) :
    MemberKey PropertyKey Expr -> RunM PropertyKey
  | .literal key => return key
  | .computed body => do
      let cell : FunctionCell :=
        ⟨"", .computedKey, [], body, some scope, limits⟩
      let function ← RunM.allocate (·.newFunction cell)
      toKey call (← call ⟨function, .undefined, [], 1⟩) 1

/-- Evaluate keys in order. The first fault is wrapped with the index of its
member. -/
def evaluateKeys (call : Invoker) (scope : ScopeRef) (limits : Limits) :
    Nat -> List (MemberKey PropertyKey Expr) -> RunM (List PropertyKey)
  | _, [] => return []
  | index, key :: rest => do
      let first ← RunM.mapFault (.keyEvaluation index)
        (evaluateKey call scope limits key)
      return first :: (← evaluateKeys call scope limits (index + 1) rest)

/-- The first member whose key is reserved for the link to the class. -/
def reservedIndex? (keys : List PropertyKey) : Option Nat :=
  keys.findIdx? fun key => key == .constructor

/-- The key of the first field that shares its key with a member of another
kind. -/
def conflictingKey?
    (members : List (MemberKind × PropertyKey)) : Option PropertyKey :=
  (members.find? fun member =>
    member.1 = .field && members.any fun other =>
      other.1 ≠ .field && other.2 == member.2).map Prod.snd

/-- What is wrong with the keys of a class. A reserved key outweighs
every conflict. -/
def declarationFault?
    (members : List (MemberKind × PropertyKey)) : Option Failure :=
  match reservedIndex? (members.map Prod.snd) with
  | some index => some (.reservedConstructorKey index)
  | none => (conflictingKey? members).map .memberConflict

/-- What a member contributes to its class. -/
inductive MemberPart
  | field (declaration : FieldDeclaration)
  | definition (definition : Definition)
  deriving DecidableEq

namespace MemberPart

/-- The field that a part declares. -/
def field? : MemberPart -> Option FieldDeclaration
  | .field declaration => some declaration
  | .definition _ => none

/-- The definition that a part makes. -/
def definition? : MemberPart -> Option Definition
  | .field _ => none
  | .definition made => some made

end MemberPart

/-- Make the function of a member, if it needs one. A missing procedure does
nothing. -/
def elaborateMember (scope : ScopeRef) (limits : Limits)
    (member : Member PropertyKey Expr)
    (key : PropertyKey) : RunM MemberPart := do
  let newFunction (kind : FunctionKind) (name : String) (body : Expr) :
      RunM FunctionRef :=
    RunM.allocate
      (·.newFunction ⟨name, kind, member.params, body, some scope, limits⟩)
  let procedure := member.body.getD .nothing
  let name := key.functionName
  match member.kind with
  | .field =>
      match member.body with
      | none => return .field ⟨key, none⟩
      | some initial =>
          let function ← newFunction .fieldInitializer name initial
          return .field ⟨key, some function⟩
  | .method =>
      let kind := if member.isGenerator then .generator else .method
      return .definition ⟨key, .method, ← newFunction kind name procedure⟩
  | .getter =>
      return .definition
        ⟨key, .getter, ← newFunction .getter ("get " ++ name) procedure⟩
  | .setter =>
      return .definition
        ⟨key, .setter, ← newFunction .setter ("set " ++ name) procedure⟩

/-- Make the functions of members in order. -/
def elaborateMembers (scope : ScopeRef) (limits : Limits) :
    List (Member PropertyKey Expr × PropertyKey) -> RunM (List MemberPart)
  | [] => return []
  | (member, key) :: rest => do
      let part ← elaborateMember scope limits member key
      return part :: (← elaborateMembers scope limits rest)

/-- The name of a class in messages. -/
def displayName (internalName hint : Option String) : String :=
  (internalName.or hint).getD ""

/-- Put a class together from members whose keys are known and sound. -/
def assembleClass (scope : ScopeRef) (limits : Limits)
    (internalName hint : Option String)
    (constructor : Option (ConstructorPart Expr))
    (members : List (Member PropertyKey Expr × PropertyKey)) :
    RunM ClassRef := do
  let parts ← elaborateMembers scope limits members
  let name := displayName internalName hint
  let procedure := (constructor.bind ConstructorPart.body).getD .nothing
  let params := (constructor.map ConstructorPart.params).getD []
  let function ← RunM.allocate
    (·.newFunction ⟨name, .constructor, params, procedure, some scope, limits⟩)
  let klass ← RunM.allocate (·.newClass {
    name := name
    internalName := internalName
    constructor := function
    fields := parts.filterMap MemberPart.field?
    prototype := .ofDefinitions (parts.filterMap MemberPart.definition?)
    scope := scope
    limits := limits })
  RunM.changeHeap (·.bindSelf scope internalName klass)
  return klass

/--
Elaborate a class. Nothing is bound in the scope around it. The class scope is
held while the keys are evaluated, also between the body of a key and the
conversion of its value.
-/
def elaborate (call : Caller) (holding : Holding) (limits : Limits)
    (hint : Option String) (draft : ClassDraft) : RunM ClassRef := do
  let members := ClassBody.inOrder draft.body.members
  let scope ← RunM.allocate (·.openClassScope draft.scope draft.name)
  let keys ← evaluateKeys (call (holding.holdScope scope)) scope limits 0
    (members.map Member.key)
  match declarationFault? ((members.map Member.kind).zip keys) with
  | some cause => RunM.fail cause
  | none =>
      assembleClass scope limits draft.name hint draft.body.constructor
        (members.zip keys)

/-- Elaborate a class and declare its name in the scope around it. -/
def declareClass (call : Caller) (holding : Holding) (limits : Limits)
    (draft : ClassDraft) :
    RunM ClassRef := do
  match draft.name with
  | none => RunM.failType .namelessDeclaration
  | some name =>
      let klass ← elaborate call holding limits none draft
      RunM.changeHeap (·.declare draft.scope name (.klass klass))
      return klass

/-- Elaborate a class as an expression, an expression with a hint, or a
declaration. -/
def elaborateAs (call : Caller) (holding : Holding) (limits : Limits)
    (draft : ClassDraft) :
    ClassBinding -> RunM ClassRef
  | .expression => elaborate call holding limits none draft
  | .hinted name => elaborate call holding limits (some name) draft
  | .declaration => declareClass call holding limits draft

end ClassLowering
