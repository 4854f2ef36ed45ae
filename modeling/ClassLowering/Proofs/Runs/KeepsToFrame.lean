import ClassLowering.Expr

/-!
# Expressions that keep to their frame

Most of what an expression does to run bodies goes through the frame in which it
is evaluated. An expression keeps to its frame when all of it does: when it has
no operation of the host that runs a body for any other reason than to convert a
key, and when it neither elaborates a class nor runs a body of its own.
-/

namespace ClassLowering

/-- Whether a host operation asks for no body but to convert a key. -/
def HostOperation.keepsToFrame : HostOperation -> Bool
  | .construct | .callFunction | .readProperty | .writeProperty |
      .invokeProperty
  | .copyFields => false
  | _ => true

/-- Whether an operation asks for no body but below the frame that uses it. -/
def Operation.keepsToFrame : Operation -> Bool
  | .host operation => operation.keepsToFrame
  | _ => true

mutual

/-- Whether an expression asks for no body but below the frame that evaluates
it. -/
def Expr.keepsToFrame : Expr -> Bool
  | .literal _ => true
  | .apply operation operands =>
      operation.keepsToFrame && Expr.allKeepToFrame operands
  | .sequence steps => Expr.allKeepToFrame steps
  | .choose condition whenTrue whenFalse =>
      condition.keepsToFrame &&
        (whenTrue.keepsToFrame && whenFalse.keepsToFrame)
  | .loop _ count body => count.keepsToFrame && body.keepsToFrame
  | .attempt body handler => body.keepsToFrame && handler.keepsToFrame
  | .function _ _ => true
  | .run _ => false
  | .klass _ => false

/-- Whether all of some expressions ask for no body but below the frame that
evaluates them. -/
def Expr.allKeepToFrame : List Expr -> Bool
  | [] => true
  | first :: rest => first.keepsToFrame && Expr.allKeepToFrame rest

end

end ClassLowering
