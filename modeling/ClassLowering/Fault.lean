import ClassLowering.Depth
import ClassLowering.PropertyKey

/-!
# Faults

A fault is the cause for which a body, a construction or the elaboration of a
class ended early. Faults are data over two types: what stands for a property
key and what stands for a thrown value. The same messages can so be written for
the faults of a run and for faults in a report.

A fault in the key of a member is wrapped once, with the place of the member.
-/

namespace ClassLowering

/-- The two directions in which an accessor can be used. -/
inductive AccessSide
  | get
  | set
  deriving DecidableEq, Repr

namespace AccessSide

/-- The word for a direction. -/
def word : AccessSide -> String
  | .get => "get"
  | .set => "set"

end AccessSide

/-- The ways in which a value can be of the wrong type, with the texts of
what was involved. -/
inductive TypeFault
  | unreadable (target key : String)
  | unwritable (key typeName : String)
  | notFunction (what : String)
  | notClass (what : String)
  | wrongReceiver (callee typeName : String)
  | strayYield (callee : String)
  | notPrimitive
  | namelessDeclaration
  | unsuitableOperand (wanted : String)
  deriving DecidableEq, Repr

namespace TypeFault

/-- The message of a type fault. -/
def message : TypeFault -> String
  | .unreadable target key =>
      "Cannot read properties of " ++ target ++ " (reading '" ++ key ++ "')"
  | .unwritable key typeName =>
      "Cannot set property '" ++ key ++ "' of " ++ typeName
  | .notFunction what => what ++ " is not a function"
  | .notClass what => what ++ " is not a constructor"
  | .wrongReceiver callee typeName =>
      callee ++ " called on a " ++ typeName ++ " receiver"
  | .strayYield callee => "yield used outside a generator (" ++ callee ++ ")"
  | .notPrimitive => "Cannot convert object to primitive value"
  | .namelessDeclaration => "A class declaration requires a name"
  | .unsuitableOperand wanted => "the operand must be " ++ wanted

end TypeFault

/-- The cause for which a computation ended early, over keys `κ` and
thrown values `ν`. -/
inductive Fault (κ ν : Type)
  | keyEvaluation (index : Nat) (cause : Fault κ ν)
  | invocation (className : String)
  | accessorMissing (key : κ) (side : AccessSide)
  | memberConflict (key : κ)
  | reservedConstructorKey (index : Nat)
  | readOnlyMember (key : κ)
  | reference (name : String)
  | uninitialized (name : String)
  | constAssignment (name : String)
  | type (fault : TypeFault)
  | callDepthExceeded (limit : Depth)
  | generatorOverflow (limit : Nat)
  | thrown (value : ν)
  deriving DecidableEq

namespace Fault

variable {κ ν : Type}

/-- The message of a class that was called without construction. -/
def invocationMessage (className : String) : String :=
  "Class constructor " ++ className ++
    " cannot be invoked without instantiation"

/-- The message of a fault, given the texts of keys and of thrown values. -/
def message (keyText : κ -> String)
    (valueText : ν -> String) : Fault κ ν -> String
  | .keyEvaluation index cause =>
      "computed key of member #" ++ toString index ++
        " could not be evaluated: " ++ cause.message keyText valueText
  | .invocation className => invocationMessage className
  | .accessorMissing key side =>
      "Cannot " ++ side.word ++ " '" ++ keyText key ++ "': accessor has no " ++
        side.word ++ "ter"
  | .memberConflict key =>
      "'" ++ keyText key ++
        "' is declared both as a field and as a method or accessor"
  | .reservedConstructorKey index =>
      "Class member #" ++ toString index ++ " may not be named 'constructor'"
  | .readOnlyMember key =>
      "Cannot assign to '" ++ keyText key ++ "': it is a method of the class"
  | .reference name => name ++ " is not defined"
  | .uninitialized name =>
      "Cannot access '" ++ name ++ "' before initialization"
  | .constAssignment name => "Assignment to constant binding '" ++ name ++ "'"
  | .type fault => fault.message
  | .callDepthExceeded limit =>
      "Maximum call depth of " ++ toString limit.toNat ++ " exceeded"
  | .generatorOverflow limit =>
      "Generator yielded more than " ++ toString limit ++ " values"
  | .thrown value => "Uncaught " ++ valueText value

/-- The thrown values that a fault carries. -/
def values : Fault κ ν -> List ν
  | .keyEvaluation _ cause => cause.values
  | .thrown value => [value]
  | _ => []

/-- Whether a fault belongs to the elaboration of a class, so that no class
exists. -/
def isBuildFault : Fault κ ν -> Bool
  | .keyEvaluation _ _ | .memberConflict _ | .reservedConstructorKey _ => true
  | _ => false

end Fault
end ClassLowering
