import ClassLowering.Heap.Cells

/-!
# Functions that an expression makes

A body makes functions where it writes them, and where it elaborates classes.
The former can be read off the body. The latter depend on the keys of the class,
so that a class may be elaborated only where every function may be made.
-/

namespace ClassLowering

/-- The function that an expression makes of a body that is written in it. -/
def FunctionCell.ofBody (name : String) (body : Expr) : FunctionCell :=
  ⟨name, .ordinary, [], body, none, .standard⟩

mutual

/-- Whether an expression makes no function but some, as long as it asks for no
body. -/
def Expr.MakesOnly (makes : FunctionCell -> Prop) : Expr -> Prop
  | .literal _ => True
  | .apply _ operands => Expr.AllMakeOnly makes operands
  | .sequence steps => Expr.AllMakeOnly makes steps
  | .choose condition whenTrue whenFalse =>
      condition.MakesOnly makes ∧ whenTrue.MakesOnly makes ∧
        whenFalse.MakesOnly makes
  | .loop _ count body => count.MakesOnly makes ∧ body.MakesOnly makes
  | .attempt body handler => body.MakesOnly makes ∧ handler.MakesOnly makes
  | .function name body => makes (.ofBody name body)
  | .run body => makes (.ofBody "run" body)
  | .klass _ => ∀ cell, makes cell

/-- Whether all of some expressions make no function but some. -/
def Expr.AllMakeOnly (makes : FunctionCell -> Prop) : List Expr -> Prop
  | [] => True
  | first :: rest => first.MakesOnly makes ∧ Expr.AllMakeOnly makes rest

end

section Total

variable {makes : FunctionCell -> Prop}

mutual

/-- Every expression may be evaluated where every function may be made. -/
theorem Expr.makesOnly_of_total (total : ∀ cell, makes cell) (expr : Expr) :
    expr.MakesOnly makes := by
  cases expr with
  | literal _ => trivial
  | apply _ operands => exact Expr.allMakeOnly_of_total total operands
  | sequence steps => exact Expr.allMakeOnly_of_total total steps
  | choose condition whenTrue whenFalse =>
      exact ⟨makesOnly_of_total total condition,
        makesOnly_of_total total whenTrue, makesOnly_of_total total whenFalse⟩
  | loop _ count body =>
      exact ⟨makesOnly_of_total total count, makesOnly_of_total total body⟩
  | attempt body handler =>
      exact ⟨makesOnly_of_total total body, makesOnly_of_total total handler⟩
  | function name body => exact total _
  | run body => exact total _
  | klass _ => exact total

/-- All expressions may be evaluated where every function may be made. -/
theorem Expr.allMakeOnly_of_total
    (total : ∀ cell, makes cell)
    (exprs : List Expr) :
    Expr.AllMakeOnly makes exprs := by
  cases exprs with
  | nil => trivial
  | cons first rest =>
      exact ⟨Expr.makesOnly_of_total total first,
        Expr.allMakeOnly_of_total total rest⟩

end

end Total

end ClassLowering
