import ClassLowering.Proofs.Faults.Shown
import ClassLowering.Proofs.InStep.Following
import ClassLowering.Proofs.InStep.Reports
import ClassLowering.Proofs.Runs.Programs

/-!
# Limits that are raised

Limits only cut runs short. Where the classes of a program get greater limits,
the program runs in step with what it was before, until it meets one of the
limits that were raised. From then on the log of the step tells of the limit, or
the step itself fails at it.
-/

namespace ClassLowering

/-- Whether an entry of the log tells of a limit. -/
def LogEntry.tellsLimit : LogEntry -> Bool
  | .value _ => false
  | .fault shown => shown.isLimit

/-- Whether an answer tells of a limit: of one at which the step failed, or of
one in the log. -/
def Answer.tellsLimit (answer : Answer) : Bool :=
  answer.log.any LogEntry.tellsLimit ||
    match answer.outcome with
    | .failed fault => fault.isLimit
    | _ => false

/-- A report without what it says about limits. -/
def Report.withoutLimits : Report -> Report
  | .klass report => .klass { report with limits := .standard }
  | report => report

/-- Reports that are alike say the same but for limits. -/
theorem Report.Like.withoutLimits_eq
    {limits : Limits -> Limits -> Prop}
    {report other : Report}
    (like : report.Like limits other) :
    other.withoutLimits = report.withoutLimits := by
  cases like <;> rfl

/-- An answer without what a report on a class says about its limits. -/
def Answer.withoutLimits (answer : Answer) : Answer where
  outcome := match answer.outcome with
    | .done report => .done report.withoutLimits
    | outcome => outcome
  log := answer.log

/-- Limits are no greater than others. -/
structure Limits.AtMost (limits other : Limits) : Prop where
  callDepth : limits.callDepth ≤ other.callDepth
  generatorYields : limits.generatorYields ≤ other.generatorYields

/-- Two expressions are the same, but for limits of classes that are greater in
the second one. -/
inductive Expr.Raised : Expr -> Expr -> Prop
  | of {expr other : Expr} :
      Expr.Layer Limits.AtMost True Expr.Raised expr other -> Raised expr other

/-- States are alike where nothing but limits differs, in bodies or in
classes. -/
def Likeness.raised : Likeness where
  limits := Limits.AtMost
  body := Expr.Raised
  catches := True
  visible _ := True
  constructs _ := True
  limits_refl _ := ⟨UInt32.le_refl _, le_refl _⟩
  nothing := .of (.literal _)
  layer | .of layer => layer
  visible_of_not_function _ _ := trivial

/-- Runs with greater limits follow, until the log tells of a limit or a limit
is met. -/
def Following.raised : Following Likeness.raised where
  Known _ := True
  Leads _ _ := True
  Lost state := ∃ entry ∈ state.session.log, entry.tellsLimit = true
  Cuts cause _ _ := cause.isLimit = true
  known _ _ := trivial
  trans _ _ := trivial
  unrecorded _ _ := trivial
  leaves _ _ := trivial
  enters _ _ _ := trivial
  keeps := fun kept ⟨entry, logged, tells⟩ =>
    ⟨entry, kept.log.subset logged, tells⟩
  makes _ _ := .inr ⟨fun _ => trivial, fun _ => trivial⟩
  limits atMost :=
    .inr ⟨⟨atMost.callDepth, atMost.generatorYields⟩, fun _ _ => ⟨rfl, rfl⟩⟩
  goesOn _ cuts := cuts
  wraps _ cuts := cuts
  left _ cuts := cuts
  caught {cause state _} cuts := by
    obtain ⟨shown, session, shows, -, same⟩ := showFault_ok cause state
    exact ⟨shown, _, shows, .fault shown, List.mem_cons_self, same.trans cuts⟩

section Steps

/-- An answer tells of a limit that the log tells of. -/
theorem Answer.tellsLimit_of_log
    {answer : Answer}
    {state : State}
    (log : answer.log = state.session.log.reverse)
    (lost : Following.raised.Lost state) :
    answer.tellsLimit = true := by
  obtain ⟨entry, logged, tells⟩ := lost
  rw [tellsLimit, Bool.or_eq_true, log, List.any_eq_true]
  exact .inl ⟨entry, List.mem_reverse.2 logged, tells⟩

/-- What a step concludes from an end is what it concludes from another
that follows it. -/
theorem Step.conclude_of_follows
    {before : State}
    {ended other : EStateM.Result Interruption State (Report × YieldBuffer)}
    (ends : Following.raised.Ends
      (fun result last => last.1.withoutLimits = result.1.withoutLimits) before
      ended other)
    (untold : (conclude ended).1.tellsLimit = false) :
    (conclude other).1.withoutLimits = (conclude ended).1.withoutLimits ∧
      State.Like .raised (conclude ended).2 (conclude other).2 := by
  have kept : ¬Following.raised.Lost (Stage.last ended) := fun lost =>
    Bool.false_ne_true
      (untold ▸ Answer.tellsLimit_of_log (log_conclude ended) lost)
  cases ends with
  | @ok result last after later _ like claimed =>
      refine ⟨?_, like⟩
      have sessions : later.session = after.session := State.Like.session like
      simp only [conclude, Answer.withoutLimits, claimed, sessions]
  | @interrupted interruption after later _ like =>
      cases interruption with
      | stalled =>
          refine ⟨?_, like⟩
          have sessions : later.session = after.session :=
            State.Like.session like
          simp only [conclude, Answer.withoutLimits, sessions]
      | fault cause =>
          obtain ⟨shown, session, shows, log, -⟩ := showFault_ok cause after
          have showing : Following.raised.coupling.InStep True (showFault cause)
            (showFault cause) (Agree fun _ => True) := inStep_showFault cause
          have follows := showing.follows after later trivial like trivial
          rw [shows] at follows
          generalize shown' : showFault cause later = shownLater at follows
          cases follows with
          | @ok _ same _ last _ likeAfter agree =>
              obtain ⟨rfl, -⟩ := agree
              have sessions : later.session = after.session :=
                State.Like.session like
              simp only [conclude, shows, shown', sessions]
              exact ⟨trivial, likeAfter⟩
          | lost lost =>
              obtain ⟨entry, logged, tells⟩ := lost
              exact absurd ⟨entry, log ▸ logged, tells⟩ kept
  | lost lost => exact absurd lost kept
  | @cut cause after _ cuts =>
      obtain ⟨shown, session, shows, log, same⟩ := showFault_ok cause after
      have tells : shown.isLimit = false := by
        simpa [conclude, shows, Answer.tellsLimit] using And.right (by
          simpa [conclude, shows, Answer.tellsLimit] using untold)
      exact absurd (same.trans cuts) (by rw [tells]; nofun)

/-- A step with greater limits gives the same answer, unless the answer
tells of a limit. -/
theorem Step.run_of_raised
    {step last : Step}
    {state other : State}
    (bound : Nat)
    (raised : step.Like .raised last)
    (like : state.Like .raised other)
    (untold : (step.run (callWithin bound) state).1.tellsLimit = false) :
    (last.run (callWithin bound) other).1.withoutLimits =
        (step.run (callWithin bound) state).1.withoutLimits ∧
      State.Like .raised (step.run (callWithin bound) state).2
        (last.run (callWithin bound) other).2 := by
  have acts :
      Following.raised.coupling.InStep True (step.act (callWithin bound))
      (last.act (callWithin bound)) _ :=
    inStep_act (hosts_callWithin (fun _ => trivial) bound) raised
  have starts := Following.InStep.start acts
  have ends :=
    (starts.imp id fun _ _ _ claimed => claimed.1.withoutLimits_eq).follows
    { state with session := { state.session with log := [] } }
    { other with session := { other.session with log := [] } } trivial
    ⟨like.heap, congrArg (fun session : Session => { session with log := [] })
      like.session, like.record, like.stored⟩ trivial
  exact conclude_of_follows ends untold

end Steps

namespace Program

/-- With greater limits, steps that tell of no limit go on giving the same
answers. -/
theorem runFrom_of_raised
    (bound : Nat)
    {steps others : List Step}
    {state other : State}
    (raised : List.Forall₂ (Step.Like .raised) steps others)
    (like : state.Like .raised other)
    (untold : ∀ answer ∈ runFrom (callWithin bound) state steps,
      answer.tellsLimit = false) :
    (runFrom (callWithin bound) other others).map Answer.withoutLimits =
        (runFrom (callWithin bound) state steps).map Answer.withoutLimits ∧
      State.Like .raised (endState (callWithin bound) state steps)
        (endState (callWithin bound) other others) := by
  induction raised generalizing state other with
  | nil => exact ⟨rfl, like⟩
  | @cons step last rest remaining first _ hypothesis =>
      obtain ⟨same, likeAfter⟩ := Step.run_of_raised bound first like
        (untold _ List.mem_cons_self)
      obtain ⟨others, ends⟩ := hypothesis likeAfter fun answer given =>
        untold answer (List.mem_cons_of_mem _ given)
      exact ⟨congrArg₂ List.cons same others, ends⟩

/-- With greater limits, a program gives the same answers and ends in
the same state. -/
theorem sameAnswers_of_raised
    (bound : Nat)
    {steps others : List Step}
    (raised : List.Forall₂ (Step.Like .raised) steps others)
    (untold : ∀ answer ∈ runFrom (callWithin bound) initialState steps,
      answer.tellsLimit = false) :
    (runFrom (callWithin bound) initialState others).map Answer.withoutLimits =
        (runFrom (callWithin bound) initialState steps).map
          Answer.withoutLimits ∧
      State.Like .raised (endState (callWithin bound) initialState steps)
        (endState (callWithin bound) initialState others) :=
  runFrom_of_raised bound raised (like_initialState _) untold

/-- A class whose generator yields twice and is called by another method, and
a use of both. -/
def yieldingSteps (limits : Limits) : List Step :=
  let yield (text : String) : Expr :=
    .apply (.frame .yield) [.literal (.string text)]
  let relay : Expr :=
    .apply (.frame .invoke)
      [.apply (.frame .receiver) [], .literal (.string "both")]
  let form : ClassForm Expr := {
    blueprint := {
      name := some "Pair"
      scope := none
      body := {
        members := [
          ⟨.method, .literal (.text "both"), true,
            some (.sequence [yield "a", yield "b"]), [], 0⟩,
          ⟨.method, .literal (.text "relay"), false, some relay, [], 1⟩]
        constructor := none } }
    binding := .expression
    limits := limits }
  let made : Expr :=
    .apply (.host .construct) [.apply (.storage (.variable "made")) []]
  [.evaluate (.klass form) (some "made"),
    .evaluate (.apply (.host .invokeProperty)
      [made, .literal (.string "relay")]) none,
    .ask (.apply (.storage (.variable "made")) []) .klass]

/-- The steps differ in nothing but their limits. -/
theorem raised_yieldingSteps
    {limits other : Limits}
    (atMost : limits.AtMost other) :
    List.Forall₂ (Step.Like .raised) (yieldingSteps limits)
      (yieldingSteps other) := by
  have text (text : String) :
      Expr.Raised (.literal (.string text)) (.literal (.string text)) :=
    .of (.literal _)
  have yields (written : String) :
      Expr.Raised (.apply (.frame .yield) [.literal (.string written)])
        (.apply (.frame .yield) [.literal (.string written)]) :=
    .of (.apply _ (.cons (text written) .nil))
  have made : Expr.Raised (.apply (.storage (.variable "made")) [])
      (.apply (.storage (.variable "made")) []) := .of (.apply _ .nil)
  refine .cons
    (.evaluate _
      (.of (.klass (.of _ (.of _ _ (.cons ?_ (.cons ?_ .nil)) .none) atMost))))
    (.cons (.evaluate _ (.of (.apply _ (.cons ?_ (.cons (text _) .nil)))))
      (.cons (.ask made (.same _ nofun)) .nil))
  · exact .of _ _ _ _ (.literal _) (.some (.of (.sequence (.cons (yields _)
      (.cons (yields _) .nil)))))
  · exact .of _ _ _ _ (.literal _) (.some (.of (.apply _
      (.cons (.of (.apply _ .nil)) (.cons (text _) .nil)))))
  · exact .of (.apply _ (.cons made .nil))

/-- Within limits that are just met, the steps answer as they do within greater
ones. -/
theorem sameAnswers_of_raised_yieldingSteps :
    let met := yieldingSteps ⟨2, 2⟩
    let raised := yieldingSteps ⟨256, 100000⟩
    (∀ answer ∈ runFrom (callWithin 4) initialState met,
      answer.tellsLimit = false) ∧
      (runFrom (callWithin 4) initialState raised).map Answer.withoutLimits =
        (runFrom (callWithin 4) initialState met).map Answer.withoutLimits ∧
      State.Like .raised (endState (callWithin 4) initialState met)
        (endState (callWithin 4) initialState raised) := by
  have untold :
      ∀ answer ∈ runFrom (callWithin 4) initialState (yieldingSteps ⟨2, 2⟩),
      answer.tellsLimit = false := by decide +kernel
  exact ⟨untold, sameAnswers_of_raised 4
    (raised_yieldingSteps ⟨by decide, by decide⟩) untold⟩

/-- Within smaller limits, an answer tells of a limit. -/
example : (runFrom (callWithin 4) initialState (yieldingSteps ⟨2, 1⟩)).any
    Answer.tellsLimit = true := by decide +kernel

end Program

end ClassLowering
