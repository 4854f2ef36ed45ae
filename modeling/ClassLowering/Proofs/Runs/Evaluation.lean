import ClassLowering.Evaluation.Evaluator
import ClassLowering.Proofs.Runs.Elaboration
import ClassLowering.Proofs.Runs.Makes
import ClassLowering.Proofs.Runs.SessionOperations

/-!
# Runs of expressions

Evaluating an expression makes progress when its caller does. What the
expression asks its caller for depends on where it is evaluated: below a frame,
it asks for bodies below the depth of the frame, and for others only if it
enters the engine afresh.

The proof is an induction on the expression, with one case for every form.
-/

namespace ClassLowering

/-- The frame of a context, if there is one, refers to cells of a heap. -/
def Context.Within (heap : Heap) (context : Context) : Prop :=
  ∀ frame ∈ context.frame, frame.Within heap

/-- All that an expression asks for in a context without entering the
engine afresh. -/
structure Demand.Allows (demand : Demand) (context : Context) : Prop where
  conversions : demand.Covers (context.keyDepth + 1)
  below : ∀ frame ∈ context.frame, demand.CoversBelow frame.depth

section Evaluation

variable {progress : Progress} {demand : Demand} {call : Caller}
  {context : Context}

/-- A context that holds more values is allowed as much. -/
theorem Demand.Allows.hold
    (allows : demand.Allows context)
    (values : List Value) :
    demand.Allows (context.hold values) :=
  ⟨allows.conversions, allows.below⟩

/-- A context within a heap is within every heap that extends it. -/
theorem Context.Within.mono
    {heap later : Heap}
    (within : context.Within heap)
    (extension : heap.Extends later) :
    context.Within later :=
  fun frame present => (within frame present).mono extension

/-- The scope of a context is held. -/
theorem Context.Within.holds_home
    {heap : Heap}
    (within : context.Within heap) :
    ∀ scope ∈ context.frame.map Frame.scope, heap.Holds (.scope scope) := by
  intro scope home
  obtain ⟨frame, present, rfl⟩ := Option.map_eq_some_iff.1 home
  exact (within frame present).scope

/-- A literal refers to nothing. -/
theorem within_toValue
    (heap : Heap)
    (literal : Literal) :
    literal.toValue.Within heap := by
  cases literal with
  | undefined => exact Value.within_undefined
  | null => exact Value.within_null
  | bool b => exact Value.within_bool b
  | number x => exact Value.within_number x
  | string text => exact Value.within_string text

/-- The result of a calculation refers to nothing. -/
theorem within_calculate
    (heap : Heap)
    (calculation : Calculation)
    (operands : List Value) :
    (heap.calculate calculation operands).Within heap := by
  cases calculation with
  | add =>
      simp only [Heap.calculate]
      unfold Heap.add
      split
      · exact Value.within_number _
      · exact Value.within_string _
  | subtract => exact Value.within_number _
  | multiply => exact Value.within_number _
  | divide => exact Value.within_number _
  | less => exact Value.within_bool _
  | strictEquals => exact Value.within_bool _
  | not => exact Value.within_bool _
  | typeName => exact Value.within_string _
  | join => exact Value.within_string _
  | diagnose => exact Value.within_string _

/-- An operation makes progress. -/
theorem runs_perform
    {before : BodyState}
    {operation : Operation}
    {operands : List Value}
    (serves : ∀ holding, progress.Serves demand (call holding))
    (allows : demand.Allows context)
    (fresh : operation.keepsToFrame = true ∨ demand.CoversFresh)
    (sound : before.Sound)
    (contextWithin : context.Within before.state.heap)
    (within : AllWithin before.state.heap operands) :
    progress.RunsBody (perform call context operation operands) before
      Value.Known := by
  refine .holding_bind fun holding => ?_
  cases operation with
  | calculation calculation =>
      exact .get_bind (.pure sound (within_calculate _ _ _))
  | storage operation => exact runs_performStorage sound within
  | scope operation =>
      exact .lift sound
        (runs_performScope sound.state contextWithin.holds_home within)
  | host operation =>
      exact .lift sound
        (runs_performHost (serves holding) allows.conversions fresh
          sound.state within)
  | frame operation =>
      cases present : context.frame with
      | none => exact .lift sound (.failType _)
      | some frame =>
          exact runs_performInFrame (serves holding)
            (allows.below frame present) sound
            (contextWithin frame present) within
  | throw => exact .lift sound (.fail _)

/-- Finding the symbols of keys makes progress. -/
theorem runs_draftMembers
    {before : State}
    (members : List (Member WrittenKey Expr))
    (sound : before.Sound) :
    progress.Runs (draftMembers members) before fun _ _ => True := by
  induction members generalizing before with
  | nil => exact .pure trivial
  | cons member rest hypothesis =>
      have key :
          progress.Runs (draftKey member.key) before fun _ _ => True := by
        cases member.key with
        | literal written =>
            cases written with
            | text text => exact .pure trivial
            | symbol name =>
                exact .bind sound (runs_symbolNamed name) fun _ _ _ _ _ =>
                  .pure trivial
        | computed body => exact .pure trivial
      refine .bind sound key fun _ _ soundKey _ _ => ?_
      exact .bind soundKey (hypothesis soundKey) fun _ _ _ _ _ => .pure trivial

/-- The scope of a drafted class is held. -/
theorem runs_draftClass
    {before : State}
    {home : Option ScopeRef}
    (blueprint : Blueprint (Option String) WrittenKey Expr)
    (sound : before.Sound)
    (held : ∀ scope ∈ home, before.heap.Holds (.scope scope)) :
    progress.Runs (draftClass home blueprint) before
      fun draft after => after.heap.Holds (.scope draft.scope) := by
  have continues : ∀ (scope : ScopeRef) (between : State), between.Sound ->
      before.heap.Extends between.heap -> between.heap.Holds (.scope scope) ->
        progress.Runs (do
          let members ← draftMembers blueprint.body.members
          return (⟨blueprint.name, ⟨members, blueprint.body.constructor⟩,
            scope⟩ : ClassDraft))
          between fun draft after => after.heap.Holds (.scope draft.scope) := by
    intro scope between soundBetween _ heldScope
    refine .bind soundBetween (runs_draftMembers _ soundBetween) ?_
    exact fun _ _ _ extension _ => .pure (extension.holds _ heldScope)
  unfold draftClass
  cases blueprint.scope with
  | some name => exact .bind sound (runs_scopeNamed name sound) continues
  | none =>
      cases home with
      | some scope =>
          exact continues scope before sound (.refl _) (held scope rfl)
      | none =>
          exact .bind sound (runs_scopeNamed globalScopeName sound) continues

/-- Elaborating a class as written makes progress. -/
theorem runs_makeClass
    {before : BodyState}
    (form : ClassForm Expr)
    (serves : ∀ holding, progress.Serves demand (call holding))
    (total : ∀ cell, progress.Makes cell)
    (keys : demand.CoversKeys)
    (conversions : demand.Covers 2)
    (sound : before.Sound)
    (contextWithin : context.Within before.state.heap) :
    progress.RunsBody (makeClass call context form) before Value.Known := by
  refine .holding_bind fun holding => ?_
  refine .bind (.lift sound
    (runs_draftClass form.blueprint sound.state contextWithin.holds_home)) ?_
  intro draft between soundBetween _ held
  refine .bind (.lift soundBetween
    (runs_elaborateAs form.binding total serves keys conversions
      soundBetween.state held)) ?_
  intro klass later soundLater _ heldClass
  have keeps :
      progress.Runs (RunM.changeSession (·.keepClass klass)) later.state
      fun _ after => after.heap.Holds (.klass klass) :=
    .changeSession (fun session =>
      ⟨session.storedValues, session.scopes⟩) heldClass
  refine .bind (.lift soundLater keeps) ?_
  exact fun _ _ soundAfter _ heldAfter =>
    .pure soundAfter ((Value.within_klass klass).2 heldAfter)

/-- Making a function makes progress. -/
theorem runs_makeFunction
    {before : State}
    {name : String}
    {body : Expr}
    (made : progress.Makes (.ofBody name body)) :
    progress.Runs (makeFunction name body) before
      fun function after => after.heap.Holds (.function function) := by
  have step : before.heap.Step progress.Makes
      (before.heap.newFunction (.ofBody name body)).2 := by
    refine .function _ made ?_
    rintro home ⟨⟩
  exact .allocate (.single step) (before.heap.holds_newFunction _)

end Evaluation

section Expressions

variable {progress : Progress} {demand : Demand} {call : Caller}

mutual

/-- Evaluating an expression makes progress. -/
theorem runs_expression
    (serves : ∀ holding, progress.Serves demand (call holding))
    (expr : Expr)
    {context : Context}
    {before : BodyState}
    (allows : demand.Allows context)
    (fresh : expr.keepsToFrame = true ∨ demand.CoversFresh)
    (sound : before.Sound)
    (within : context.Within before.state.heap)
    (makes : expr.MakesOnly progress.Makes) :
    progress.RunsBody (evaluate call context expr) before Value.Known := by
  cases expr with
  | literal literal =>
      exact .pure sound (within_toValue before.state.heap literal)
  | apply operation operands =>
      rw [Expr.keepsToFrame, Bool.and_eq_true] at fresh
      refine .bind (runs_operands serves operands allows
        (fresh.imp_left And.right) sound within .nil makes) ?_
      intro values between soundBetween extension valuesWithin
      exact runs_perform serves allows (fresh.imp_left And.left) soundBetween
        (within.mono extension) valuesWithin
  | sequence steps =>
      exact runs_steps serves steps allows fresh sound within
        Value.within_undefined makes
  | choose condition whenTrue whenFalse =>
      rw [Expr.keepsToFrame, Bool.and_eq_true, Bool.and_eq_true] at fresh
      obtain ⟨first, second, third⟩ := makes
      refine .bind (runs_expression serves condition allows
        (fresh.imp_left And.left) sound within first) ?_
      intro value between soundBetween extension _
      have later := within.mono extension
      cases value.isTruthy with
      | true =>
          exact runs_expression serves whenTrue allows
            (fresh.imp_left fun keeps => keeps.2.1) soundBetween later second
      | false =>
          exact runs_expression serves whenFalse allows
            (fresh.imp_left fun keeps => keeps.2.2) soundBetween later third
  | loop name count body =>
      rw [Expr.keepsToFrame, Bool.and_eq_true] at fresh
      obtain ⟨first, second⟩ := makes
      refine .bind (runs_expression serves count allows
        (fresh.imp_left And.left) sound within first) ?_
      intro value between soundBetween extension _
      refine .bind (.countUp value.toCount 0 soundBetween ?_)
        fun _ _ soundAfter _ _ => .pure soundAfter Value.within_undefined
      intro index state soundState further
      refine .bind (.setLocal soundState (Value.within_ofNat index)) ?_
      intro _ round soundRound last _
      refine .bind (runs_expression serves body allows
        (fresh.imp_left And.right) soundRound
        (within.mono ((extension.trans further).trans last)) second) ?_
      exact fun _ _ soundAfter _ _ => .pure soundAfter trivial
  | attempt body handler =>
      rw [Expr.keepsToFrame, Bool.and_eq_true] at fresh
      obtain ⟨first, second⟩ := makes
      refine .catchFault
        (runs_expression serves body allows
          (fresh.imp_left And.left) sound within first) ?_
      intro cause between soundBetween extension
      refine .bind (.lift soundBetween
        (runs_showFault soundBetween.state cause)) ?_
      intro shown later soundLater further _
      refine .bind (.lift soundLater (runs_log (.fault shown))) ?_
      intro _ last soundLast logged _
      exact runs_expression serves handler (allows.hold cause.values)
        (fresh.imp_left And.right) soundLast
        (within.mono ((extension.trans further).trans logged)) second
  | function name body =>
      refine .bind (.lift sound (runs_makeFunction makes)) ?_
      intro function _ soundAfter _ held
      exact .pure soundAfter ((Value.within_function function).2 held)
  | run body =>
      have covers := fresh.resolve_left (by simp [Expr.keepsToFrame])
      refine .bind (.lift sound (runs_makeFunction makes)) ?_
      intro function between soundBetween _ held
      refine .holding_bind fun holding => ?_
      exact .lift soundBetween
        (serves holding _ between.state soundBetween.state
          ⟨held, Value.within_undefined, .nil⟩ (covers.calls _ _ rfl))
  | klass form =>
      have covers := fresh.resolve_left (by simp [Expr.keepsToFrame])
      exact runs_makeClass form serves makes covers.calls.keys
        covers.conversions sound within

/-- Evaluating operands makes progress. -/
theorem runs_operands
    (serves : ∀ holding, progress.Serves demand (call holding))
    (operands : List Expr)
    {context : Context}
    {before : BodyState}
    {done : List Value}
    (allows : demand.Allows context)
    (fresh : Expr.allKeepToFrame operands = true ∨ demand.CoversFresh)
    (sound : before.Sound)
    (within : context.Within before.state.heap)
    (doneWithin : AllWithin before.state.heap done)
    (makes : Expr.AllMakeOnly progress.Makes operands) :
    progress.RunsBody (evaluateAll call context done operands) before
      fun values after => AllWithin after.heap values := by
  cases operands with
  | nil => exact .pure sound doneWithin
  | cons first rest =>
      rw [Expr.allKeepToFrame, Bool.and_eq_true] at fresh
      refine .bind (runs_expression serves first (allows.hold done)
        (fresh.imp_left And.left) sound within makes.1) ?_
      intro value between soundBetween extension known
      exact runs_operands serves rest allows
        (fresh.imp_left And.right) soundBetween (within.mono extension)
        (AllWithin.append_iff.2
          ⟨doneWithin.mono extension, AllWithin.cons_iff.2 ⟨known, .nil⟩⟩)
          makes.2

/-- Evaluating steps makes progress. -/
theorem runs_steps
    (serves : ∀ holding, progress.Serves demand (call holding))
    (steps : List Expr)
    {context : Context}
    {before : BodyState}
    {latest : Value}
    (allows : demand.Allows context)
    (fresh : Expr.allKeepToFrame steps = true ∨ demand.CoversFresh)
    (sound : before.Sound)
    (within : context.Within before.state.heap)
    (latestWithin : latest.Within before.state.heap)
    (makes : Expr.AllMakeOnly progress.Makes steps) :
    progress.RunsBody (evaluateSteps call context latest steps) before
      Value.Known := by
  cases steps with
  | nil => exact .pure sound latestWithin
  | cons first rest =>
      rw [Expr.allKeepToFrame, Bool.and_eq_true] at fresh
      refine .bind (runs_expression serves first (allows.hold [latest])
        (fresh.imp_left And.left) sound within makes.1) ?_
      intro value between soundBetween extension known
      exact runs_steps serves rest allows
        (fresh.imp_left And.right) soundBetween
        (within.mono extension) known makes.2

end

end Expressions

end ClassLowering
