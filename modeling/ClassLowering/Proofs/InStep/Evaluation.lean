import ClassLowering.Proofs.InStep.Elaboration
import ClassLowering.Proofs.InStep.Operations

/-!
# Evaluation in step

Two expressions that are alike are evaluated in step, and so two functions
that are alike run in step. A body that may not hand out its own function must
not ask for it.
-/

namespace ClassLowering

/-- Whether an operation does anything but to ask for the function that runs. -/
def Operation.avoidsCallee : Operation -> Bool
  | .frame .callee => false
  | _ => true

mutual

/-- Whether an expression never asks for the function that evaluates it. -/
def Expr.avoidsCallee : Expr -> Bool
  | .literal _ => true
  | .apply operation operands =>
      operation.avoidsCallee && Expr.allAvoidCallee operands
  | .sequence steps => Expr.allAvoidCallee steps
  | .choose condition whenTrue whenFalse =>
      condition.avoidsCallee &&
        (whenTrue.avoidsCallee && whenFalse.avoidsCallee)
  | .loop _ count body => count.avoidsCallee && body.avoidsCallee
  | .attempt body handler => body.avoidsCallee && handler.avoidsCallee
  | .function _ _ | .run _ | .klass _ => true

/-- Whether none of some expressions asks for the function that evaluates it. -/
def Expr.allAvoidCallee : List Expr -> Bool
  | [] => true
  | first :: rest => first.avoidsCallee && Expr.allAvoidCallee rest

end

namespace Context

/-- The context with another limit of yields. -/
def withYieldLimit (context : Context) (limit : Option Nat) : Context :=
  { context with frame := context.frame.map fun frame =>
    { frame with yieldLimit := limit } }

/-- What a body sees of its call. In another run it may yield as often as
a limit allows. -/
def Shows (likeness : Likeness) (context : Context)
    (limit : Option Nat) : Prop :=
  ∀ frame ∈ context.frame, frame.Shows likeness limit

/-- The function that runs may be asked for. -/
def ShowsCallee (likeness : Likeness) (context : Context) : Prop :=
  ∀ frame ∈ context.frame, likeness.visible (.function frame.callee)

end Context

section Evaluation

variable {likeness : Likeness} {coupling : Coupling likeness} {given : Prop}
variable {call other : Caller} {context : Context} {limit : Option Nat}

/-- No calculation makes a function. -/
theorem Heap.calculate_ne_function
    (heap : Heap)
    (calculation : Calculation)
    (operands : List Value)
    (ref : FunctionRef) :
    heap.calculate calculation operands ≠ .function ref := by
  cases calculation with
  | add =>
      show heap.add _ _ ≠ _
      unfold Heap.add
      split <;> nofun
  | _ => nofun

/-- Doing an operation whose operands are evaluated. -/
theorem inStep_perform
    {operands : List Value}
    (hosts : coupling.Hosts call other)
    (operation : Operation)
    (sees : given -> context.Shows likeness limit)
    (callee : given -> operation.avoidsCallee = true ∨
      context.ShowsCallee likeness)
    (seen : given -> likeness.AllVisible operands) :
    coupling.InStep given (perform call context operation operands)
      (perform other (context.withYieldLimit limit) operation operands)
      (Agree likeness.visible) := by
  refine .bind (inStep_holding context operands) fun holding => ?_
  have scope : (context.withYieldLimit limit).frame.map Frame.scope =
      context.frame.map Frame.scope := by
    cases inside : context.frame <;> simp [Context.withYieldLimit, inside]
  have keyDepth : (context.withYieldLimit limit).keyDepth =
      context.keyDepth := by
    cases inside : context.frame <;>
      simp [Context.keyDepth, Context.withYieldLimit, inside]
  cases operation with
  | calculation calculation =>
      exact coupling.settled
        { quiet := fun _ => .refl _
          alike := fun before _ _ like => .ok
            ⟨congrFun₂ (BodyState.Like.state like).heap.calculate_eq
                calculation operands,
              likeness.visible_of_not_function _
                (before.state.heap.calculate_ne_function calculation operands)⟩
            like }
  | storage operation =>
      exact inStep_performStorage holding operation fun facts => seen facts.1
  | scope operation =>
      dsimp only
      rw [scope]
      exact coupling.lift (inStep_performScope holding _ operation fun facts =>
        seen facts.1)
  | host operation =>
      dsimp only
      rw [keyDepth]
      exact coupling.lift (inStep_performHost (hosts.serves holding) _ operation
        fun facts => seen facts.1)
  | frame operation =>
      cases inside : context.frame with
      | none =>
          simp only [Context.withYieldLimit, inside, Option.map_none]
          exact .failBody _
      | some frame =>
          simp only [Context.withYieldLimit, inside, Option.map_some]
          refine inStep_performInFrame (hosts.serves holding) operation
            (fun facts => sees facts.1 frame inside) ?_ fun facts =>
              seen facts.1
          rintro facts rfl
          exact (callee facts.1).resolve_left nofun frame inside
  | throw => exact coupling.lift (.fail _ rfl)

/-- Finding the symbol that a key names. -/
theorem inStep_draftKey
    {key last : MemberKey WrittenKey Expr}
    (like : given -> key.Like likeness.body last) :
    coupling.InStep given (draftKey key) (draftKey last)
      (MemberKey.Like likeness.body) := by
  have made {made : RunM (MemberKey PropertyKey Expr)}
      (run : coupling.InStep given made made
        (Agree fun key => key.Like likeness.body key)) :
      coupling.InStep given made made (MemberKey.Like likeness.body) := by
    refine coupling.imp run id ?_
    rintro _ result final ⟨rfl, like⟩
    exact like
  cases key with
  | literal written =>
      refine coupling.replace ?_ fun facts => by cases like facts; rfl
      cases written with
      | text text => exact made (.pure fun _ => .literal _)
      | symbol name =>
          exact made (.bind (inStep_symbolNamed name) fun symbol =>
            .pure fun _ => .literal _)
  | computed body =>
      obtain ⟨otherBody, alike⟩ := MemberKey.exists_computed like
      refine coupling.replace (coupling.settled ?_) fun facts =>
        congrArg draftKey (alike facts).1
      exact
        { quiet := fun _ => .refl _
          alike := fun _ _ facts same => .ok (.computed (alike facts).2) same }

/-- Finding the symbols that the keys of members name. -/
theorem inStep_draftMembers
    {members others : List (Member WrittenKey Expr)}
    (like : given -> List.Forall₂ (Member.Like likeness.body) members others) :
    coupling.InStep given (draftMembers members) (draftMembers others)
      (List.Forall₂ (Member.Like likeness.body)) := by
  induction members generalizing given others with
  | nil =>
      refine coupling.replace (coupling.settled ?_)
        fun facts => by cases like facts; rfl
      exact
        { quiet := fun _ => .refl _
          alike := fun _ _ _ same => .ok .nil same }
  | cons member rest hypothesis =>
      obtain ⟨last, remaining, alike⟩ := exists_cons_of_forall₂ like
      refine coupling.replace ?_ fun facts =>
        congrArg draftMembers (alike facts).1
      refine coupling.bind (inStep_draftKey fun facts =>
        (alike facts).2.1.eq.2.1) fun key further => ?_
      refine coupling.bind (hypothesis fun facts => (alike facts.1).2.2)
        fun drafts finals => ?_
      exact coupling.settled
        { quiet := fun _ => .refl _
          alike := fun _ _ facts same => by
            obtain ⟨⟨known, keys⟩, rests⟩ := facts
            refine .ok (.cons ?_ rests) same
            obtain ⟨kind, isGenerator, params, position, -, bodies⟩ :=
              (alike known).2.1
            exact .of kind isGenerator params position keys bodies }

/-- Finding the scope and the symbols that a class names. -/
theorem inStep_draftClass
    {blueprint last : Blueprint (Option String) WrittenKey Expr}
    (home : Option ScopeRef)
    (like : given -> blueprint.Like likeness.body last) :
    coupling.InStep given (draftClass home blueprint) (draftClass home last)
      (Blueprint.Like likeness.body) := by
  obtain ⟨name, ⟨members, constructor⟩, written⟩ := blueprint
  obtain ⟨others, otherConstructor, alike⟩ := Blueprint.exists_parts like
  refine coupling.replace ?_ fun facts => congrArg _ (alike facts).1
  have drafts (scope : ScopeRef) : coupling.InStep given
      (do return ⟨name, ⟨← draftMembers members, constructor⟩, scope⟩ :
        RunM ClassDraft)
      (do return ⟨name, ⟨← draftMembers others, otherConstructor⟩, scope⟩ :
        RunM ClassDraft)
      (Blueprint.Like likeness.body) := by
    refine coupling.bind (inStep_draftMembers fun facts => (alike facts).2.1)
      fun made further => coupling.settled ?_
    exact
      { quiet := fun _ => .refl _
        alike := fun _ _ facts same =>
          .ok (.of name scope facts.2 (alike facts.1).2.2) same }
  cases written with
  | some stored =>
      exact .bind (inStep_scopeNamed stored) fun scope =>
        (drafts scope).mono And.left
  | none =>
      cases home with
      | some scope => exact drafts scope
      | none =>
          exact .bind (inStep_scopeNamed globalScopeName) fun scope =>
            (drafts scope).mono And.left

/-- Elaborating a class as written. -/
theorem inStep_makeClass
    {form last : ClassForm Expr}
    (hosts : coupling.Hosts call other)
    (like : given -> form.Like likeness.body likeness.limits last) :
    coupling.InStep given (makeClass call context form)
      (makeClass other (context.withYieldLimit limit) last)
      (Agree likeness.visible) := by
  have scope : (context.withYieldLimit limit).frame.map Frame.scope =
      context.frame.map Frame.scope := by
    cases inside : context.frame <;> simp [Context.withYieldLimit, inside]
  obtain ⟨blueprint, binding, limits⟩ := form
  obtain ⟨⟨otherBlueprint, otherLimits⟩, alike⟩ :=
    exists_of_imp (blueprint, limits) fun facts : given =>
      show ∃ rest : Blueprint (Option String) WrittenKey Expr × Limits,
          last = ⟨rest.1, binding, rest.2⟩ ∧
            blueprint.Like likeness.body rest.1 ∧
            likeness.limits limits rest.2 by
        cases like facts with
        | of _ same related => exact ⟨⟨_, _⟩, rfl, same, related⟩
  refine coupling.replace ?_ fun facts => congrArg _ (alike facts).1
  refine .bind (inStep_holding context []) fun holding => ?_
  rw [scope]
  refine coupling.bind
    (coupling.lift (inStep_draftClass _ fun facts => (alike facts.1).2.1))
    fun draft final => ?_
  refine .bind (coupling.lift (inStep_elaborateAs hosts holding binding
    (fun facts => (alike facts.1.1).2.2) fun facts => facts.2)) fun klass => ?_
  refine .bind (coupling.lift (.changeSession (fun _ => List.suffix_rfl)
    fun _ _ stored => stored)) fun _ => .value

/-- Making a function outside of all classes. -/
theorem inStep_makeFunction
    {body last : Expr}
    (name : String)
    (related : given -> likeness.body body last) :
    coupling.InStep given (makeFunction name body) (makeFunction name last)
      (Agree fun function => likeness.visible (.function function)) := by
  refine .weaken (coupling.newFunction fun facts => ?_)
    fun _ _ seen => seen.1 rfl
  exact ⟨rfl, rfl, rfl, rfl, related facts, likeness.limits_refl _⟩

/-- Making a function as written. -/
theorem inStep_function
    {body last : Expr}
    (name : String)
    (like : given -> likeness.body (.function name body) last) :
    coupling.InStep given (evaluate call context (.function name body))
      (evaluate other (context.withYieldLimit limit) last)
      (Agree likeness.visible) := by
  obtain ⟨further, alike⟩ := Likeness.exists_function like
  refine coupling.replace ?_ fun facts => congrArg _ (alike facts).1
  exact .bind
    (coupling.lift (inStep_makeFunction name fun facts => (alike facts).2))
    fun _ => .pure And.right

/-- Making a function as written and calling it. -/
theorem inStep_run
    {body last : Expr}
    (hosts : coupling.Hosts call other)
    (like : given -> likeness.body (.run body) last) :
    coupling.InStep given (evaluate call context (.run body))
      (evaluate other (context.withYieldLimit limit) last)
      (Agree likeness.visible) := by
  obtain ⟨further, alike⟩ := Likeness.exists_run like
  refine coupling.replace ?_ fun facts => congrArg _ (alike facts).1
  refine .bind
    (coupling.lift (inStep_makeFunction "run" fun facts => (alike facts).2))
    fun function => ?_
  refine .bind (inStep_holding context []) fun holding => ?_
  exact coupling.lift ((hosts.serves holding).calls.inStep
    (fun facts => facts.1.2) (fun _ => likeness.visible_undefined)
    fun _ => nofun)

/-- The rounds of a loop, each of which tells its number to the body. -/
theorem inStep_rounds
    {run last : BodyM Value}
    (name : String)
    (rounds : Nat)
    (each : coupling.InStep given run last (Agree likeness.visible)) :
    coupling.InStep given
      (BodyM.countUp (fun index => do
        BodyM.setLocal name (.ofNat index)
        discard run) rounds 0)
      (BodyM.countUp (fun index => do
        BodyM.setLocal name (.ofNat index)
        discard last) rounds 0)
      (Agree fun _ => True) := by
  refine inStep_countUp rounds 0 fun index => ?_
  refine .bind (inStep_setLocal name fun _ =>
    likeness.visible_of_not_function _ nofun) fun _ => ?_
  exact .bind (each.mono And.left) fun _ => .pure fun _ => trivial

end Evaluation

section Expressions

variable {likeness : Likeness} {coupling : Coupling likeness}
  {call other : Caller}

mutual

/-- Evaluating an expression. -/
theorem inStep_evaluate
    (hosts : coupling.Hosts call other)
    (expr : Expr)
    {given : Prop}
    {context : Context}
    {limit : Option Nat}
    {last : Expr}
    (like : given -> likeness.body expr last)
    (sees : given -> context.Shows likeness limit)
    (callee : given -> expr.avoidsCallee = true ∨
      context.ShowsCallee likeness) :
    coupling.InStep given (evaluate call context expr)
      (evaluate other (context.withYieldLimit limit) last)
      (Agree likeness.visible) := by
  cases expr with
  | literal literal =>
      refine coupling.replace (.value ?_)
        fun facts => by cases likeness.layer (like facts); rfl
      cases literal <;> nofun
  | apply operation operands =>
      obtain ⟨others, alike⟩ := Likeness.exists_apply like
      have avoids (facts : given) :=
        (callee facts).imp_left (Bool.and_eq_true_iff.1 ·)
      refine coupling.replace ?_ fun facts => congrArg _ (alike facts).1
      refine .bind (inStep_evaluateAll hosts operands
        (fun facts => (alike facts).2) sees
        (fun facts => (avoids facts).imp_left And.right) fun _ =>
          nofun) fun values => ?_
      exact inStep_perform hosts operation (fun facts => sees facts.1)
        (fun facts => (avoids facts.1).imp_left And.left) And.right
  | sequence steps =>
      obtain ⟨others, alike⟩ := Likeness.exists_sequence like
      refine coupling.replace ?_ fun facts => congrArg _ (alike facts).1
      exact inStep_evaluateSteps hosts steps
        (fun facts => (alike facts).2) sees callee
        fun _ => likeness.visible_undefined
  | choose condition whenTrue whenFalse =>
      obtain ⟨first, second, third, alike⟩ := Likeness.exists_choose like
      have avoids (facts : given) := (callee facts).imp_left fun avoids =>
        (Bool.and_eq_true_iff.1 avoids).imp_right Bool.and_eq_true_iff.1
      refine coupling.replace ?_ fun facts => congrArg _ (alike facts).1
      refine .bind (inStep_evaluate hosts condition
        (fun facts => (alike facts).2.1) sees
        fun facts => (avoids facts).imp_left And.left) fun value => ?_
      cases value.isTruthy with
      | true =>
          exact inStep_evaluate hosts whenTrue
            (fun facts => (alike facts.1).2.2.1)
            (fun facts => sees facts.1) fun facts =>
              (avoids facts.1).imp_left fun avoids => avoids.2.1
      | false =>
          exact inStep_evaluate hosts whenFalse
            (fun facts => (alike facts.1).2.2.2)
            (fun facts => sees facts.1) fun facts =>
              (avoids facts.1).imp_left fun avoids => avoids.2.2
  | loop name count body =>
      obtain ⟨otherCount, otherBody, alike⟩ := Likeness.exists_loop like
      have avoids (facts : given) :=
        (callee facts).imp_left (Bool.and_eq_true_iff.1 ·)
      refine coupling.replace ?_ fun facts => congrArg _ (alike facts).1
      refine .bind (inStep_evaluate hosts count
        (fun facts => (alike facts).2.1) sees
        fun facts => (avoids facts).imp_left And.left) fun value => ?_
      refine .bind (inStep_rounds name value.toCount ?_) fun _ => .value
      exact inStep_evaluate hosts body
        (fun facts => (alike facts.1).2.2) (fun facts => sees facts.1)
        fun facts => (avoids facts.1).imp_left And.right
  | attempt body handler =>
      obtain ⟨otherBody, otherHandler, alike⟩ := Likeness.exists_attempt like
      have avoids (facts : given) :=
        (callee facts).imp_left (Bool.and_eq_true_iff.1 ·)
      refine coupling.replace ?_ fun facts => congrArg _ (alike facts).1
      refine coupling.attempt (fun facts => (alike facts).2.1)
        (inStep_evaluate hosts body (fun facts => (alike facts).2.2.1) sees
          fun facts => (avoids facts).imp_left And.left) inStep_showFault
          fun cause => ?_
      exact inStep_evaluate hosts handler
        (fun facts => (alike facts).2.2.2) sees
        fun facts => (avoids facts).imp_left And.right
  | function name body => exact inStep_function name like
  | run body => exact inStep_run hosts like
  | klass form =>
      obtain ⟨other, alike⟩ := Likeness.exists_klass like
      refine coupling.replace ?_ fun facts => congrArg _ (alike facts).1
      exact inStep_makeClass hosts fun facts => (alike facts).2

/-- Evaluating operands. -/
theorem inStep_evaluateAll
    (hosts : coupling.Hosts call other)
    (operands : List Expr)
    {given : Prop}
    {context : Context}
    {limit : Option Nat}
    {done : List Value}
    {others : List Expr}
    (like : given -> List.Forall₂ likeness.body operands others)
    (sees : given -> context.Shows likeness limit)
    (callee : given -> Expr.allAvoidCallee operands = true ∨
      context.ShowsCallee likeness)
    (seen : given -> likeness.AllVisible done) :
    coupling.InStep given (evaluateAll call context done operands)
      (evaluateAll other (context.withYieldLimit limit) done others)
      (Agree likeness.AllVisible) := by
  cases operands with
  | nil =>
      exact coupling.replace (.pure seen) fun facts => by cases like facts; rfl
  | cons first rest =>
      obtain ⟨last, remaining, alike⟩ := exists_cons_of_forall₂ like
      have avoids (facts : given) :=
        (callee facts).imp_left (Bool.and_eq_true_iff.1 ·)
      refine coupling.replace ?_ fun facts => congrArg _ (alike facts).1
      refine .bind (inStep_evaluate hosts first
        (fun facts => (alike facts).2.1) sees
        fun facts => (avoids facts).imp_left And.left) fun value => ?_
      refine inStep_evaluateAll hosts rest (fun facts => (alike facts.1).2.2)
        (fun facts => sees facts.1)
        (fun facts => (avoids facts.1).imp_left And.right) ?_
      intro facts held present
      rcases List.mem_append.1 present with old | new
      · exact seen facts.1 held old
      · exact List.mem_singleton.1 new ▸ facts.2

/-- Evaluating steps. -/
theorem inStep_evaluateSteps
    (hosts : coupling.Hosts call other)
    (steps : List Expr)
    {given : Prop}
    {context : Context}
    {limit : Option Nat}
    {latest : Value}
    {others : List Expr}
    (like : given -> List.Forall₂ likeness.body steps others)
    (sees : given -> context.Shows likeness limit)
    (callee : given -> Expr.allAvoidCallee steps = true ∨
      context.ShowsCallee likeness)
    (seen : given -> likeness.visible latest) :
    coupling.InStep given (evaluateSteps call context latest steps)
      (evaluateSteps other (context.withYieldLimit limit) latest others)
      (Agree likeness.visible) := by
  cases steps with
  | nil =>
      exact coupling.replace (.pure seen) fun facts => by cases like facts; rfl
  | cons first rest =>
      obtain ⟨last, remaining, alike⟩ := exists_cons_of_forall₂ like
      have avoids (facts : given) :=
        (callee facts).imp_left (Bool.and_eq_true_iff.1 ·)
      refine coupling.replace ?_ fun facts => congrArg _ (alike facts).1
      refine .bind (inStep_evaluate hosts first
        (fun facts => (alike facts).2.1) sees
        fun facts => (avoids facts).imp_left And.left) fun value => ?_
      exact inStep_evaluateSteps hosts rest (fun facts => (alike facts.1).2.2)
        (fun facts => sees facts.1)
        (fun facts => (avoids facts.1).imp_left And.right) And.right

end

end Expressions

section Functions

variable {likeness : Likeness} {coupling : Coupling likeness}
  {call other : Caller}

/-- Running a function that bodies may get hold of. -/
theorem calls_enterFunction
    (hosts : coupling.Hosts call other)
    (holding : Holding) :
    coupling.Calls (enterFunction call holding)
      (enterFunction other holding) := by
  intro invocation
  refine .readFunction_bind fun cell body limits => ?_
  refine coupling.within invocation.depth (fun facts => facts.2.2) ?_
  have enters : coupling.InStep
      ((likeness.visible (.function invocation.function) ∧
          likeness.visible invocation.receiver ∧
            likeness.AllVisible invocation.args) ∧
        likeness.body cell.body body ∧ likeness.limits cell.limits limits)
      (enterScope cell)
      (enterScope { cell with body := body, limits := limits })
      (Agree fun _ => True) := by
    unfold enterScope
    cases cell.scope with
    | some scope => exact .pure fun _ => trivial
    | none =>
        exact .allocate' (fun heap => ⟨heap.extends_newScope none, rfl⟩)
          fun _ _ _ like => like.newScope none
  refine .bind enters fun scope => ?_
  have yields (facts : likeness.limits cell.limits limits) :
      likeness.YieldLimits
        (if cell.kind = .generator
          then some cell.limits.generatorYields else none)
        (if cell.kind = .generator
          then some limits.generatorYields else none) := by
    split
    · exact .some facts
    · exact .none
  refine .bind
    (coupling.enters
      (inStep_evaluate hosts cell.body (fun facts => facts.1.2.1) ?_ ?_)
      fun facts => facts.1.1.1)
    fun ⟨result, yielded⟩ => ?_
  · rintro facts frame ⟨⟩
    exact ⟨facts.1.1.2.1, facts.1.1.2.2, yields facts.1.2.2⟩
  · intro facts
    right
    rintro frame ⟨⟩
    exact facts.1.1.1
  by_cases generator : cell.kind = .generator
  · simp only [generator, if_true]
    exact .bind
      (.allocate' (fun heap => ⟨heap.extends_newGenerator _ _, rfl⟩)
        fun facts _ _ like => like.newGenerator facts.2.2 facts.2.1)
      fun _ => .value
  · simp only [generator, if_false]
    exact .pure fun facts => facts.2.1

/-- Run functions whose bodies nest at most to a count, and leave what is
further in to others. -/
def callOver (call : Caller) : Nat -> Caller
  | 0 => call
  | count + 1 => enterFunction (callOver call count)

/-- To run functions within a bound is to leave the innermost ones to a
smaller bound. -/
theorem callOver_callWithin (inner outer : Nat) :
    callOver (callWithin inner) outer = callWithin (inner + outer) := by
  induction outer with
  | zero => rfl
  | succ outer hypothesis =>
      rw [callOver, hypothesis]
      rfl

/-- Where bodies may get hold of everything, functions run in step over
those that do. -/
theorem hosts_callOver
    (seen : ∀ value, likeness.visible value)
    (calls : ∀ holding, coupling.Calls (call holding) (other holding))
    (count : Nat) :
    coupling.Hosts (callOver call count) (callOver other count) := by
  induction count with
  | zero => exact Coupling.hosts_of_calls seen calls
  | succ count hypothesis =>
      exact Coupling.hosts_of_calls seen (calls_enterFunction hypothesis)

/-- Where bodies may get hold of everything, functions run in step
within every bound. -/
theorem hosts_callWithin
    (seen : ∀ value, likeness.visible value)
    (bound : Nat) :
    coupling.Hosts (callWithin bound) (callWithin bound) := by
  have stalls (holding : Holding) :
      coupling.Calls (callWithin 0 holding) (callWithin 0 holding) :=
    fun _ => coupling.stall
  rw [← Nat.zero_add bound, ← callOver_callWithin]
  exact hosts_callOver seen stalls bound

end Functions

end ClassLowering
