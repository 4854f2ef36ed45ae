import ClassLowering.Blueprint
import ClassLowering.Values

/-!
# Expressions

Bodies of functions are expressions of a small strict language. An operation
evaluates its operands from left to right before it acts; the forms that
evaluate an operand later, never or repeatedly have constructors of their own.

Operations come in groups by what they touch. Only the operations on the running
frame re-enter the engine below the frame that uses them. The operations of the
host enter it afresh, as they do outside of all bodies.
-/

namespace ClassLowering

/-- Constants. -/
inductive Literal
  | undefined
  | null
  | bool (b : Bool)
  | number (x : Float)
  | string (text : String)
  deriving DecidableEq

namespace Literal

/-- The value of a constant. -/
def toValue : Literal -> Value
  | .undefined => .undefined
  | .null => .null
  | .bool b => .bool b
  | .number x => .number x
  | .string text => .string text

end Literal

/-- Operations on values alone. -/
inductive Calculation
  | add
  | subtract
  | multiply
  | divide
  | less
  | strictEquals
  | not
  | typeName
  | join
  | diagnose
  deriving DecidableEq, Repr

/-- Operations on the variables and symbols of a session and on the
locals of a body. -/
inductive StorageOperation
  | symbol (name : String)
  | freshSymbol (name : String) (description : Option String)
  | variable (name : String)
  | setVariable (name : String)
  | localVariable (name : String)
  | setLocalVariable (name : String)
  | log
  | release (name : String)
  deriving DecidableEq, Repr

/-- Where an operation on bindings starts: at the scope of the body or at
a stored scope. -/
inductive ScopeSite
  | home
  | stored (name : String)
  deriving DecidableEq, Repr

/-- Operations on scopes, which a session stores under names. -/
inductive ScopeOperation
  | newRoot (store : String)
  | newChild (store parent : String)
  | storeHome (store : String)
  | storeClassScope (store : String)
  | storeParent (store child : String)
  | same (left right : String)
  | declare (site : ScopeSite) (name : String)
  | declareConst (site : ScopeSite) (name : String)
  | assign (site : ScopeSite) (name : String)
  | resolve (site : ScopeSite) (name : String)
  | hasOwn (site : ScopeSite) (name : String)
  | isBound (site : ScopeSite) (name : String)
  deriving DecidableEq, Repr

/-- Operations of the host, which enter the engine at the first depth. -/
inductive HostOperation
  | newObject
  | construct
  | callClass
  | callFunction
  | sameClass
  | readProperty
  | writeProperty
  | invokeProperty
  | ownField
  | hasOwnField
  | classOf
  | samePrototype
  | prototypeMethod
  | prototypeGetter
  | prototypeSetter
  | prototypeClass
  | fieldInitializer
  | copyFields
  | isInstance
  | nextYield
  | isExhausted
  | drainCount
  | toKey
  deriving DecidableEq, Repr

/-- Operations of a running body on its frame, which enter the engine one
level below it. -/
inductive FrameOperation
  | receiver
  | receiverObject
  | argument
  | argumentCount
  | callee
  | depth
  | read
  | write
  | readReceiver
  | writeReceiver
  | invoke
  | call
  | callWithReceiver
  | construct
  | yield
  deriving DecidableEq, Repr

/-- Operations whose operands are all evaluated first. -/
inductive Operation
  | calculation (operation : Calculation)
  | storage (operation : StorageOperation)
  | scope (operation : ScopeOperation)
  | host (operation : HostOperation)
  | frame (operation : FrameOperation)
  | throw
  deriving DecidableEq, Repr

/-- A key as an expression writes it: a text, or the symbol of the
session with a name. -/
inductive WrittenKey
  | text (text : String)
  | symbol (name : String)
  deriving DecidableEq, Repr

/-- What a class becomes known as. -/
inductive ClassBinding
  | expression
  | hinted (name : String)
  | declaration
  deriving DecidableEq, Repr

/-- A class as an expression writes it. -/
structure ClassForm (β : Type) where
  /-- The class; the scope is the one stored under a name, or else the
  one of the body. -/
  blueprint : Blueprint (Option String) WrittenKey β
  binding : ClassBinding
  limits : Limits

/-- The language of bodies. -/
inductive Expr
  | literal (value : Literal)
  | apply (operation : Operation) (operands : List Expr)
  | sequence (steps : List Expr)
  | choose (condition whenTrue whenFalse : Expr)
  | loop (name : String) (count body : Expr)
  | attempt (body handler : Expr)
  | function (name : String) (body : Expr)
  | run (body : Expr)
  | klass (form : ClassForm Expr)

namespace Expr

/-- The body that does nothing. -/
def nothing : Expr := .literal .undefined

instance : Inhabited Expr := ⟨nothing⟩

end Expr

/-- A class whose literal keys and scope are known. -/
abbrev ClassDraft := Blueprint ScopeRef PropertyKey Expr

end ClassLowering
