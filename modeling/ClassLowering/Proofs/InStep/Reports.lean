import ClassLowering.Proofs.InStep.Evaluation
import ClassLowering.Session.Program

/-!
# Programs in step

The steps of two programs that are written alike run in step. What a report says
about a class tells its limits, and nothing else in a report tells of them.
-/

namespace ClassLowering

/-- Two reports say the same, but for the limits of a class. -/
inductive Report.Like
    (limits : Limits -> Limits -> Prop) : Report -> Report -> Prop
  | same (report : Report) : Like limits report report
  | klass {report : ClassReport} {other : Limits} :
      limits report.limits other ->
        Like limits (.klass report) (.klass { report with limits := other })

/-- Two questions are alike, up to the expressions in them. -/
inductive Question.Like
    (body : Expr -> Expr -> Prop) : Question -> Question -> Prop
  | same (question : Question) :
      (∀ key, question ≠ .lookUp key) -> Like body question question
  | lookUp {key other : Expr} :
      body key other -> Like body (.lookUp key) (.lookUp other)

/-- Two steps are alike, up to the expressions and limits in them. -/
inductive Step.Like (likeness : Likeness) : Step -> Step -> Prop
  | evaluate {subject other : Expr} (target? : Option String) :
      likeness.body subject other ->
        Like likeness (.evaluate subject target?) (.evaluate other target?)
  | ask {subject other : Expr} {question further : Question} :
      likeness.body subject other -> question.Like likeness.body further ->
        Like likeness (.ask subject question) (.ask other further)
  | askScope (name : String) : Like likeness (.askScope name) (.askScope name)
  | askDraft {form other : ClassForm Expr} :
      form.Like likeness.body likeness.limits other ->
        Like likeness (.askDraft form) (.askDraft other)

section Reports

variable {likeness : Likeness} {coupling : Coupling likeness} {given : Prop}

/-- What follows a look at the whole heap may use the same heap in both runs
for what agrees. -/
theorem Coupling.InStep.readWhole_bind
    {α : Type}
    {next : Heap -> RunM α}
    {claim : α -> α -> Prop}
    (same : ∀ heap further : Heap, heap.Like likeness further ->
      next further = next heap)
    (rest : ∀ heap, coupling.InStep given (next heap) (next heap) claim) :
    coupling.InStep given (RunM.readHeap id >>= next)
      (RunM.readHeap id >>= next) claim := by
  refine coupling.bind .readWhole fun heap further => ?_
  exact coupling.replace ((rest heap).mono And.left) fun facts =>
    same heap further facts.2

/-- Reporting on a value. -/
theorem inStep_reportValue (value : Value) :
    coupling.InStep given (reportValue value) (reportValue value)
      (Agree fun _ => True) := by
  refine .readWhole_bind (fun heap further like => ?_) fun heap =>
    .pure fun _ => trivial
  simp only [like.text_eq, like.diagnostic_eq]

/-- Reporting on a function. -/
theorem inStep_reportFunction (ref : FunctionRef) :
    coupling.InStep given (reportFunction ref) (reportFunction ref)
      (Agree fun _ => True) := by
  refine .readWhole_bind (fun heap further like => ?_) fun heap => ?_
  · simp only [like.functionDiagnostic_eq, (like.function ref).kind,
      (like.function ref).params]
  · exact .bind (inStep_showValue _) fun _ => .pure fun _ => trivial

/-- Reporting on a function if there is one. -/
theorem inStep_reportFunction? (ref? : Option FunctionRef) :
    coupling.InStep given (reportFunction? ref?) (reportFunction? ref?)
      (Agree fun _ => True) := by
  cases ref? with
  | none => exact .pure fun _ => trivial
  | some ref =>
      exact .bind (inStep_reportFunction ref) fun _ => .pure fun _ => trivial

/-- Reporting on an entry of a prototype. -/
theorem inStep_reportEntry (entry : PrototypeEntry) :
    coupling.InStep given (reportEntry entry) (reportEntry entry)
      (Agree fun _ => True) := by
  cases entry with
  | constructor => exact .pure fun _ => trivial
  | method function =>
      exact .bind (inStep_reportFunction function) fun _ =>
        .pure fun _ => trivial
  | accessor getter setter =>
      exact .bind (inStep_reportFunction? getter) fun _ =>
        .bind (inStep_reportFunction? setter) fun _ => .pure fun _ => trivial

/-- Reporting on a class. -/
theorem inStep_reportClass (ref : ClassRef) :
    coupling.InStep given (reportClass ref) (reportClass ref)
      fun report last => last = { report with limits := last.limits } ∧
        likeness.limits report.limits last.limits := by
  refine coupling.bind .readWhole fun heap further => ?_
  have fields : coupling.InStep (given ∧ heap.Like likeness further)
      ((heap.klass ref).fields.mapM fun field => do
        let key ← showKey field.key
        return (key, ← reportFunction? field.initializer?))
      ((further.klass ref).fields.mapM fun field => do
        let key ← showKey field.key
        return (key, ← reportFunction? field.initializer?)) (Agree
          fun _ => True) := by
    refine coupling.replace (.mapM _ fun field => ?_) fun facts => by
      rw [(facts.2.klass ref).fields]
    exact .bind (inStep_showKey _) fun _ =>
      .bind (inStep_reportFunction? _) fun _ => .pure fun _ => trivial
  refine .bind fields fun shown => coupling.settled ?_
  exact
    { quiet := fun _ => .refl _
      alike := fun _ _ facts same => by
        obtain ⟨⟨-, like⟩, -⟩ := facts
        refine .ok ⟨?_, (like.klass ref).limits⟩ same
        simp only [(like.klass ref).name, (like.klass ref).internalName,
          (like.klass ref).constructor, (like.function _).params,
          like.classDiagnostic_eq] }

/-- Reporting on the prototype of a class. -/
theorem inStep_reportPrototype (ref : ClassRef) :
    coupling.InStep given (reportPrototype ref) (reportPrototype ref)
      (Agree fun _ => True) := by
  refine .readWhole_bind (fun heap further like => ?_) fun heap => ?_
  · simp only [(like.klass ref).prototype, like.prototypeDiagnostic_eq]
  · refine .bind (.mapM _ fun entry => ?_) fun _ => .pure fun _ => trivial
    exact .bind (inStep_showKey _) fun _ =>
      .bind (inStep_reportEntry _) fun _ => .pure fun _ => trivial

/-- Reporting on what a prototype holds under a key. -/
theorem inStep_reportLookUp (ref : ClassRef) (key : PropertyKey) :
    coupling.InStep given (reportLookUp ref key) (reportLookUp ref key)
      (Agree fun _ => True) := by
  refine .readKlass_bind fun cell _ => ?_
  dsimp only
  cases cell.prototype.find? key with
  | none => exact .pure fun _ => trivial
  | some slot =>
      exact .bind (inStep_reportEntry slot.entry) fun _ =>
        .pure fun _ => trivial

/-- Reporting on an object. -/
theorem inStep_reportObject (ref : ObjectRef) :
    coupling.InStep given (reportObject ref) (reportObject ref)
      (Agree fun _ => True) := by
  refine .readWhole_bind (fun heap further like => ?_) fun heap => ?_
  · simp only [like.object_eq, like.ownTextKeys_eq, like.loopKeys_eq,
      like.objectDiagnostic_eq]
  · refine .bind (.mapM _ fun field => ?_) fun _ => .pure fun _ => trivial
    exact .bind (inStep_showKey _) fun _ =>
      .bind (inStep_showValue _) fun _ => .pure fun _ => trivial

/-- The outline of a class. -/
theorem inStep_outlineOf (value : Value) :
    coupling.InStep given (outlineOf value) (outlineOf value)
      (Agree fun _ => True) :=
  .bind (inStep_asClass value) fun ref =>
    .readHeap' fun _ _ like => congrFun like.classOutline_eq ref

end Reports

/-- The same members of two classes that are written alike have computed
keys. -/
theorem Blueprint.Like.isComputed_eq
    {body : Expr -> Expr -> Prop}
    {draft other : ClassDraft}
    (like : draft.Like body other) :
    (other.body.members.map fun member => member.key.isComputed) =
      draft.body.members.map fun member => member.key.isComputed := by
  obtain ⟨name, scope, members, -⟩ := like
  refine Eq.symm ?_
  rw [← List.forall₂_eq_eq_eq, List.forall₂_map_left_iff,
    List.forall₂_map_right_iff]
  refine members.imp fun member other related => ?_
  obtain ⟨kind, isGenerator, params, position, keys, -⟩ := related
  cases keys <;> rfl

section Steps

variable {likeness : Likeness} {coupling : Coupling likeness} {given : Prop}
variable {call other : Caller}

/-- Evaluating an expression outside of all bodies. -/
theorem inStep_evaluate_host
    {expr last : Expr}
    (hosts : coupling.Hosts call other)
    (holding : Holding)
    (like : likeness.body expr last) :
    coupling.InStep given (evaluate call ⟨none, holding⟩ expr)
      (evaluate other ⟨none, holding⟩ last) (Agree likeness.visible) :=
  inStep_evaluate hosts expr (fun _ => like)
    (fun _ => (nofun : Context.Shows likeness ⟨none, holding⟩ none))
    fun _ => .inr nofun

/-- Reports that agree say the same but for limits. -/
theorem Coupling.InStep.reports
    {σ : Type}
    [Stage σ]
    {run last : EStateM Interruption σ Report}
    (runs : coupling.InStep given run last (Agree fun _ => True)) :
    coupling.InStep given run last fun report further =>
      report.Like likeness.limits further := by
  refine coupling.imp runs id ?_
  rintro _ report further ⟨rfl, -⟩
  exact .same _

/-- Looking for what a value is and reporting on it. -/
theorem inStep_report
    {α β : Type}
    {find last : RunM α}
    {report : α -> RunM β}
    (answer : β -> Report)
    (finds : coupling.InStep given find last (Agree fun _ => True))
    (reports : ∀ found, coupling.InStep (given ∧ True) (report found)
      (report found) (Agree fun _ => True)) :
    coupling.InStep given
      (do
        let found ← BodyM.lift find
        let reported ← BodyM.lift (report found)
        return answer reported)
      (do
        let found ← BodyM.lift last
        let reported ← BodyM.lift (report found)
        return answer reported)
      fun report further => report.Like likeness.limits further :=
  .reports (.bind (coupling.lift finds) fun found =>
    .bind (coupling.lift (reports found)) fun _ => .pure fun _ => trivial)

/-- Answering a question about the value of an expression. -/
theorem inStep_answer
    {subject last : Expr}
    {question further : Question}
    (hosts : coupling.Hosts call other)
    (like : likeness.body subject last)
    (asks : question.Like likeness.body further) :
    coupling.InStep given (answer call subject question)
      (answer other last further)
      fun report last => report.Like likeness.limits last := by
  refine .bind (inStep_evaluate_host hosts .none like) fun value => ?_
  cases asks with
  | @lookUp key otherKey related =>
      refine .bind (coupling.lift (inStep_asClass value)) fun klass => ?_
      refine .bind (inStep_evaluate_host hosts
        (Holding.none.hold [value]) related) fun keyValue => ?_
      refine .bind (inStep_holding .host [value, keyValue]) fun holding => ?_
      exact inStep_report _
        (inStep_toKey (hosts.serves holding).calls keyValue 1)
        fun key => inStep_reportLookUp klass key
  | same _ other =>
      cases question with
      | value =>
          exact .reports (.bind (coupling.lift (inStep_reportValue value))
            fun _ => .pure fun _ => trivial)
      | function =>
          refine inStep_report _
            (.weaken (inStep_asFunction value) fun _ _ _ => trivial)
            fun ref => inStep_reportFunction ref
      | functionForm =>
          exact .reports (.bind (coupling.lift (inStep_outlineOf value))
            fun _ => .pure fun _ => trivial)
      | document =>
          exact .reports (.bind (coupling.lift (inStep_outlineOf value))
            fun _ => .pure fun _ => trivial)
      | ownKeys =>
          exact .reports (.bind (coupling.lift (.readHeap' fun _ _ like =>
            congrFun like.ownTextKeys_eq value)) fun _ =>
              .pure fun _ => trivial)
      | klass =>
          refine .bind (coupling.lift (inStep_asClass value)) fun ref => ?_
          refine coupling.bind (coupling.lift (inStep_reportClass ref))
            fun report last => ?_
          exact coupling.settled
            { quiet := fun _ => .refl _
              alike := fun _ _ facts same =>
                .ok (facts.2.1 ▸ .klass facts.2.2) same }
      | prototype =>
          exact inStep_report _ (inStep_asClass value) fun ref =>
            inStep_reportPrototype ref
      | lookUp key => exact absurd rfl (other key)
      | object =>
          exact inStep_report _ (inStep_asObject value) fun ref =>
            inStep_reportObject ref
      | next =>
          refine .reports
            (.bind (coupling.lift (inStep_asGenerator value)) fun ref => ?_)
          refine .bind
            (coupling.lift
              (.allocate' (fun heap => ⟨heap.extends_nextYield ref, rfl⟩)
                fun _ _ _ like => like.nextYield ref)) fun delivery => ?_
          exact .bind (coupling.lift (inStep_showValue _)) fun _ =>
            .pure fun _ => trivial
      | remaining =>
          refine .reports
            (.bind (coupling.lift (inStep_asGenerator value)) fun ref => ?_)
          refine .bind
            (coupling.lift
              (.allocate' (fun heap => ⟨heap.extends_drainYields ref, rfl⟩)
                fun _ _ _ like => like.drainYields ref)) fun values => ?_
          exact .bind
            (coupling.lift (.mapM values fun value => inStep_showValue value))
            fun _ => .pure fun _ => trivial
      | key depth =>
          refine .reports
            (.bind (inStep_holding .host [value]) fun holding => ?_)
          refine .bind
            (coupling.lift
              (inStep_toKey (hosts.serves holding).calls value depth))
            fun key => ?_
          exact .bind (coupling.lift (inStep_showKey key)) fun _ =>
            .pure fun _ => trivial

/-- Doing what a step says. -/
theorem inStep_act
    {step last : Step}
    (hosts : coupling.Hosts call other)
    (like : step.Like likeness last) :
    coupling.InStep given (step.act call) (last.act other)
      fun report further => report.Like likeness.limits further := by
  cases like with
  | evaluate target? related =>
      refine .reports
        (.bind (inStep_evaluate_host hosts .none related) fun value => ?_)
      refine .bind (coupling.lift (inStep_showValue value)) fun shown => ?_
      cases target? with
      | none => exact .pure fun _ => trivial
      | some name =>
          refine .bind (coupling.lift (.changeSession (fun _ => List.suffix_rfl)
            fun facts _ stored => ?_)) fun _ => .pure fun _ => trivial
          exact stored.insert name facts.1.2
  | ask related asks => exact inStep_answer hosts related asks
  | askScope name =>
      refine .reports
        (.bind (coupling.lift (inStep_scopeNamed name)) fun scope => ?_)
      exact .bind (coupling.lift (.readHeap' fun _ _ like =>
        congrFun like.scopeDiagnostic_eq scope)) fun _ => .pure fun _ => trivial
  | askDraft related =>
      obtain ⟨binding, blueprints, -⟩ := related
      refine coupling.bind
        (coupling.lift (inStep_draftClass none fun _ : given => blueprints))
        fun draft final => coupling.settled ?_
      exact
        { quiet := fun _ => .refl _
          alike := fun before further facts same => by
            refine .ok ?_ same
            have heaps := BodyState.Like.state same |>.heap
            dsimp only
            rw [heaps.draftDiagnostic_eq facts.2,
              Blueprint.Like.isComputed_eq facts.2]
            exact .same _ }

end Steps

/-- Whatever ends a step, the answer has the log of the end. -/
theorem Step.log_conclude
    (ended : EStateM.Result Interruption State (Report × YieldBuffer)) :
    (conclude ended).1.log = (Stage.last ended).session.log.reverse := by
  rcases ended with ⟨⟨report, yields⟩, after⟩ | ⟨cause | _, after⟩
  · rfl
  · unfold conclude
    dsimp only
    cases showFault cause after <;> rfl
  · rfl

/-- Nothing in the heap without cells is shown. -/
theorem Heap.shows_empty
    (visible : Value -> Prop) :
    Heap.empty.Shows visible where
  object _ := nofun
  scope _ := nofun
  generator _ := nofun
  klass _ := ⟨nofun, nofun⟩

/-- The first state of a program is like itself. -/
theorem Program.like_initialState (likeness : Likeness) :
    State.Like likeness initialState initialState where
  heap :=
    { scopes := rfl
      objects := rfl
      generators := rfl
      nextSymbol := rfl
      functions := ⟨rfl, fun _ => .default⟩
      classes := ⟨rfl, fun _ => .default⟩
      shows := (Heap.shows_empty likeness.visible).newScope none
      constructors := fun ref held => absurd held (Nat.not_lt_zero ref.index) }
  session := rfl
  record := rfl
  stored := nofun

end ClassLowering
