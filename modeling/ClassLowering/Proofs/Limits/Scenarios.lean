import ClassLowering.Proofs.Limits.Sustained
import ClassLowering.Scenario

/-!
# Scenarios within greater limits

A scenario records what its actions come to, the faults at limits too. So a
report shows whether a limit was met on the way: a step that met one has failed,
with a message that tells of it. A report that shows none is also the report of
the scenario within greater limits.

Within a depth of three, no scenario meets a limit. So the reports of all
scenarios are the same from that depth on.
-/

namespace ClassLowering

/-- The standard limits with another depth. -/
def Limits.ofDepth (depth : Depth) : Limits :=
  { Limits.standard with callDepth := depth }

/-- How the messages of faults at limits start, and of faults in keys, which
may wrap them. -/
def limitMessages : List String :=
  ["Maximum call depth of ", "Generator yielded more than ",
    "computed key of member #"]

/-- Whether a step may have met a limit. -/
def ScenarioStep.tellsLimit (step : ScenarioStep) : Bool :=
  !step.succeeded && limitMessages.any fun start =>
    start.toList.isPrefixOf step.outcome.toList

/-- Whether a step of a report may have met a limit. -/
def ScenarioReport.tellsLimit (report : ScenarioReport) : Bool :=
  report.steps.any ScenarioStep.tellsLimit

/-- The message of a fault at a limit starts as one of them. -/
theorem exists_limitMessage
    {cause : Failure}
    (isLimit : cause.isLimit = true)
    (heap : Heap) :
    ∃ start ∈ limitMessages, ∃ rest,
      heap.failureMessage cause = start ++ rest := by
  cases cause with
  | callDepthExceeded limit =>
      exact ⟨"Maximum call depth of ", .head _,
        toString limit.toNat ++ " exceeded", String.append_assoc ..⟩
  | generatorOverflow limit =>
      exact ⟨"Generator yielded more than ", .tail _ (.head _),
        toString limit ++ " values", String.append_assoc ..⟩
  | keyEvaluation index cause =>
      refine ⟨"computed key of member #", .tail _ (.tail _ (.head _)),
        toString index ++
          (" could not be evaluated: " ++ heap.failureMessage cause), ?_⟩
      exact (String.append_assoc ..).trans (String.append_assoc ..)
  | _ => cases isLimit

/-- A fault at a limit is recorded by a step that tells of it. -/
theorem tellsLimit_of_isLimit
    {cause : Failure}
    (isLimit : cause.isLimit = true)
    (action : String)
    (heap : Heap) :
    (ScenarioStep.mk action (heap.failureMessage cause) false).tellsLimit =
      true := by
  obtain ⟨start, isStart, rest, message⟩ := exists_limitMessage isLimit heap
  simp only [ScenarioStep.tellsLimit, Bool.not_false, Bool.true_and,
    List.any_eq_true]
  refine ⟨start, isStart, List.isPrefixOf_iff_prefix.2 ⟨rest.toList, ?_⟩⟩
  rw [message, String.toList_append]

/-- Messages are the same in heaps that are alike. -/
theorem Heap.Like.failureMessage_eq
    {likeness : Likeness}
    {heap other : Heap}
    (like : heap.Like likeness other)
    (cause : Failure) :
    other.failureMessage cause = heap.failureMessage cause := by
  rw [Heap.failureMessage, Heap.failureMessage, like.text_eq]

/-- A run reports a step if all reports that it ends with have the step. -/
def RunM.Reports (run : RunM ScenarioReport) (step : ScenarioStep) : Prop :=
  ∀ before report after, run before = .ok report after -> step ∈ report.steps

/-- A run reports what it reports after its first part. -/
theorem RunM.Reports.bind
    {α : Type}
    {run : RunM α}
    {next : α -> RunM ScenarioReport}
    {step : ScenarioStep}
    (rest : ∀ result, (next result).Reports step) :
    (run >>= next).Reports step := by
  intro before report after ended
  obtain ⟨result, middle, -, last⟩ := RunM.bind_eq_ok_iff.1 ended
  exact rest result middle report after last

namespace Scenario

/-- The step for an action that ended with a value or a fault. -/
def stepOf (action : String) (ended : Except Failure Value)
    (heap : Heap) : ScenarioStep :=
  match ended with
  | .ok value => ⟨action, heap.diagnostic value, true⟩
  | .error cause => ⟨action, heap.failureMessage cause, false⟩

/-- Steps are the same in heaps that are alike. -/
theorem stepOf_eq
    {likeness : Likeness}
    {heap other : Heap}
    (action : String)
    (ended : Except Failure Value)
    (like : heap.Like likeness other) :
    stepOf action ended other = stepOf action ended heap := by
  cases ended with
  | ok value => simp only [stepOf, like.diagnostic_eq]
  | error cause => simp only [stepOf, like.failureMessage_eq]

/-- To record an action is to attempt it and to describe its end. -/
theorem record_eq (action : String) (run : RunM Value) :
    record action run = RunM.attempt run >>= fun ended =>
      RunM.readHeap (stepOf action ended) := by
  funext state
  simp only [record, tryCatch, tryCatchThe, MonadExceptOf.tryCatch,
    EStateM.tryCatch, bind, EStateM.bind, RunM.attempt]
  cases run state with
  | ok value after => rfl
  | error interruption after => cases interruption <;> rfl

/-- A recorded action is sustained if its attempt is, unless the record
tells of a limit. -/
theorem sustains_record_attempt
    {run other : RunM Value}
    (action : String)
    (attempt : Sustains (fun ended =>
      ∃ cause, ended = .error cause ∧ cause.isLimit = true)
      (RunM.attempt run) (RunM.attempt other)) :
    Sustains (fun step => step.tellsLimit = true) (record action run)
        (record action other) := by
  rw [record_eq, record_eq]
  refine attempt.bind (fun ended =>
    .look (fun state => stepOf action ended state.heap)
    (fun _ => rfl) fun like => stepOf_eq action ended like.heap) ?_
  rintro _ ⟨cause, rfl, isLimit⟩ before step after ended
  cases ended
  exact tellsLimit_of_isLimit isLimit action before.heap

/-- A recorded action that is followed is sustained, unless the record
tells of a limit. -/
theorem sustains_record
    {run other : RunM Value}
    {known : Value -> Prop}
    (action : String)
    (runs : Following.raised.coupling.InStep True run other (Agree known)) :
    Sustains (fun step => step.tellsLimit = true) (record action run)
        (record action other) :=
  sustains_record_attempt action (.attempt runs)

/-- A recorded action that says what is already known is sustained. -/
theorem sustains_record_known
    {tells : ScenarioStep -> Prop}
    (action : String)
    (ended : Except Failure Value) :
    Sustains tells (record action (RunM.ofExcept ended))
      (record action (RunM.ofExcept ended)) := by
  refine .look (fun state => stepOf action ended state.heap) (fun state => ?_)
    fun like => stepOf_eq action ended like.heap
  rw [record_eq]
  cases ended <;> rfl

/-- A report shows what a step tells that is reported. -/
theorem tellsLimit_of_reports
    {run : RunM ScenarioReport}
    {step : ScenarioStep}
    {before after : State}
    {report : ScenarioReport}
    (reports : run.Reports step)
    (told : step.tellsLimit = true)
    (ended : run before = .ok report after) :
    report.tellsLimit = true :=
  List.any_eq_true.2 ⟨step, reports before report after ended, told⟩

/-- What comes after a recorded action is sustained, if it reports the
record. -/
theorem sustains_report
    {run other : RunM ScenarioStep}
    {next last : ScenarioStep -> RunM ScenarioReport}
    (first : Sustains (fun step => step.tellsLimit = true) run other)
    (rest : ∀ step, Sustains (fun report => report.tellsLimit = true)
      (next step) (last step))
    (reports : ∀ step, (next step).Reports step) :
    Sustains (fun report => report.tellsLimit = true) (run >>= next)
        (other >>= last) :=
  first.bind rest fun step told _ _ _ ended =>
    tellsLimit_of_reports (reports step) told ended

/-- The report at the end has all steps. -/
theorem reports_conclude
    {steps : List ScenarioStep}
    {step : ScenarioStep}
    (scenario : Scenario)
    (klass : ClassRef)
    (isStep : step ∈ steps) :
    (conclude scenario klass steps).Reports step := by
  intro before report after ended
  cases ended
  exact isStep

/-- The report at the end is sustained. -/
theorem sustains_conclude
    {tells : ScenarioReport -> Prop}
    (scenario : Scenario)
    (klass : ClassRef)
    (steps : List ScenarioStep) :
    Sustains tells (conclude scenario klass steps)
      (conclude scenario klass steps) :=
  .look (fun state => ⟨scenario, steps, state.heap.classOutline klass⟩)
    (fun _ => rfl) fun like => by rw [like.heap.classOutline_eq]

section Followed

variable {call : Invoker} {limits other : Limits}

/-- Bodies may get hold of all of no arguments. -/
theorem noArgs (_ : True) : Likeness.raised.AllVisible [] := .nil

/-- Making the scope of a scenario is sustained. -/
theorem sustains_newScope :
    Sustains (fun _ => False) (RunM.allocate (·.newScope none))
        (RunM.allocate (·.newScope none)) :=
  .of_inStep (.allocate' (fun heap => ⟨heap.extends_newScope none, rfl⟩)
    fun _ _ _ like => like.newScope none)

/-- Declaring a value in the scope of a scenario is sustained. -/
theorem sustains_declare
    (scope : ScopeRef)
    (name : String)
    (value : Value) :
    Sustains (fun _ => False) (RunM.changeHeap (·.declare scope name value))
      (RunM.changeHeap (·.declare scope name value)) :=
  .of_inStep (.changeHeap (fun heap => ⟨heap.extends_bind scope name _, rfl⟩)
    fun _ _ _ like => like.bind scope name fun _ _ => trivial)

/-- Making the class of a scenario is sustained. -/
theorem sustains_makeClass
    (serves : Following.raised.coupling.Serves call call)
    (atMost : limits.AtMost other)
    (name : String)
    (body : ClassBody PropertyKey Expr)
    (scope : ScopeRef) :
    Sustains (fun _ => False) (makeClass call limits name body scope)
      (makeClass call other name body scope) := by
  refine (Sustains.of_inStep (inStep_elaborate
    (Coupling.hosts_of_calls (fun _ => trivial) fun _ =>
      serves.calls) .none none
    (fun _ => atMost) fun _ =>
      ClassDraft.raised_refl _)).andThen fun klass => ?_
  have keeps :
      Following.raised.coupling.InStep True
        (RunM.changeSession (·.keepClass klass))
      (RunM.changeSession (·.keepClass klass)) (Agree fun _ => True) :=
    .changeSession (fun _ => List.suffix_rfl) fun _ _ stored => stored
  exact (Sustains.of_inStep keeps).andThen fun _ => .pure klass

/-- A construction that has to succeed is sustained. -/
theorem sustains_recordConstruction
    (serves : Following.raised.coupling.Serves call call)
    (action : String)
    (klass : ClassRef)
    (args : List Value) :
    Sustains (fun _ => False) (recordConstruction call action klass args)
      (recordConstruction call action klass args) := by
  have constructs := (serves.constructs klass args 1).mono fun _ : True =>
    fun _ _ => trivial
  refine (Sustains.of_inStep constructs).andThen fun value => ?_
  refine (Sustains.of_inStep (inStep_asObject value)).andThen fun object => ?_
  exact (sustains_record_known action (.ok value)).andThen fun step => .pure _

/-- Writing a name and reading it back is sustained, unless one of the steps
tells of a limit. -/
theorem sustains_offerName
    (serves : Following.raised.coupling.Serves call call)
    (person : ObjectRef)
    (candidate : String) :
    Sustains (fun steps => ∃ step ∈ steps, step.tellsLimit = true)
      (offerName call person candidate) (offerName call person candidate) := by
  have writes : Following.raised.coupling.InStep True
      (do
        writeObject call person (.ofText "name") (.string candidate) 1
        return Value.undefined)
      (do
        writeObject call person (.ofText "name") (.string candidate) 1
        return Value.undefined) (Agree fun _ => True) :=
    .bind (inStep_writeObject serves.calls person _ 1 fun _ => trivial) fun _ =>
      .pure fun _ => trivial
  have reads :
      Following.raised.coupling.InStep True
        (readObject call person (.ofText "name") 1)
      (readObject call person (.ofText "name") 1) (Agree fun _ => True) :=
    inStep_readObject serves.calls person _ 1
  refine (sustains_record _ writes).bind (fun write =>
    (sustains_record _ reads).bind (fun read => .pure _) ?_) ?_
  · rintro read told before steps after ended
    cases ended
    exact ⟨read, .tail _ (.head _), told⟩
  · intro write told before steps after ended
    obtain ⟨read, middle, -, last⟩ := RunM.bind_eq_ok_iff.1 ended
    cases last
    exact ⟨write, .head _, told⟩

/-- The first scenario is sustained. -/
theorem sustains_runGreeter
    (serves : Following.raised.coupling.Serves call call)
    (atMost : limits.AtMost other) :
    Sustains (fun report => report.tellsLimit = true) (runGreeter call limits)
      (runGreeter call other) := by
  refine sustains_newScope.andThen fun scope => ?_
  refine (sustains_makeClass serves atMost _ _ scope).andThen fun klass => ?_
  refine (sustains_recordConstruction serves _ klass _).andThen
    fun ⟨person, first⟩ => ?_
  refine sustains_report
    (sustains_record _ (inStep_invokeObject serves.calls person _ noArgs))
    (fun second => sustains_conclude _ klass _) fun second => ?_
  exact reports_conclude _ klass (.tail _ (.head _))

/-- The scenario of a setter that refuses short names is sustained. -/
theorem sustains_runGuardedName
    (serves : Following.raised.coupling.Serves call call)
    (atMost : limits.AtMost other) :
    Sustains (fun report => report.tellsLimit = true)
        (runGuardedName call limits)
      (runGuardedName call other) := by
  refine sustains_newScope.andThen fun scope => ?_
  refine (sustains_makeClass serves atMost _ _ scope).andThen fun klass => ?_
  refine (sustains_recordConstruction serves _ klass _).andThen
    fun ⟨person, first⟩ => ?_
  refine (Sustains.mapM (sustains_offerName serves person)).bind
    (fun offers => sustains_conclude _ klass _) ?_
  rintro offers ⟨offer, isOffer, step, isStep, told⟩ _ _ _ ended
  have listed : step ∈ first :: offers.flatten :=
    .tail _ (List.mem_flatten.2 ⟨offer, isOffer, isStep⟩)
  exact tellsLimit_of_reports (reports_conclude _ klass listed) told ended

/-- The scenario of a computed key is sustained. -/
theorem sustains_runComputedKey
    (serves : Following.raised.coupling.Serves call call)
    (atMost : limits.AtMost other) :
    Sustains (fun report => report.tellsLimit = true)
        (runComputedKey call limits)
      (runComputedKey call other) := by
  refine sustains_newScope.andThen fun scope => ?_
  refine (Sustains.of_inStep (inStep_makeFunction "getMethodName"
    fun _ => Expr.Raised.refl _)).andThen fun function => ?_
  refine (sustains_declare scope _ _).andThen fun _ => ?_
  refine (sustains_makeClass serves atMost _ _ scope).andThen fun klass => ?_
  refine .readHeap_bind (fun cell => ?_) fun like => by
    simp only [(like.klass klass).prototype]
  refine (sustains_record_known _ (.ok _)).andThen fun first => ?_
  refine (sustains_recordConstruction serves _ klass _).andThen
    fun ⟨person, second⟩ => ?_
  refine sustains_report
    (sustains_record _ (inStep_invokeObject serves.calls person _ noArgs))
    (fun third => sustains_conclude _ klass _) fun third => ?_
  exact reports_conclude _ klass (.tail _ (.tail _ (.head _)))

/-- The scenario of an internal name is sustained. -/
theorem sustains_runNamedExpression
    (serves : Following.raised.coupling.Serves call call)
    (atMost : limits.AtMost other) :
    Sustains (fun report => report.tellsLimit = true)
        (runNamedExpression call limits)
      (runNamedExpression call other) := by
  refine sustains_newScope.andThen fun scope => ?_
  refine (sustains_makeClass serves atMost _ _ scope).andThen fun klass => ?_
  refine (sustains_declare scope _ _).andThen fun _ => ?_
  refine (sustains_recordConstruction serves _ klass _).andThen
    fun ⟨object, first⟩ => ?_
  -- The attempt is recorded by the next step, which then tells of a limit if
  -- the attempt met one.
  refine (Sustains.attempt
    (inStep_invokeObject serves.calls object _ noArgs)).bind (fun self => ?_) ?_
  · have compares :
        (do return .bool ((← RunM.ofExcept self).strictEquals (.klass klass))) =
        RunM.ofExcept (self.map fun value =>
          Value.bool (value.strictEquals (.klass klass))) := by
      cases self <;> rfl
    refine (sustains_record_known _ self).andThen fun second => ?_
    rw [compares]
    refine (sustains_record_known _ _).andThen fun third => ?_
    refine sustains_report
      (sustains_record _ (inStep_resolve .none scope "MyClass"))
      (fun last => sustains_conclude _ klass _) fun last => ?_
    exact reports_conclude _ klass (.tail _ (.tail _ (.tail _ (.head _))))
  · rintro _ ⟨cause, rfl, isLimit⟩ before report after ended
    obtain ⟨second, middle, recorded, restEnded⟩ := RunM.bind_eq_ok_iff.1 ended
    have told : second.tellsLimit = true := by
      cases recorded
      exact tellsLimit_of_isLimit isLimit "instance.whoAmI()" before.heap
    refine tellsLimit_of_reports (.bind fun third => .bind fun last => ?_)
      told restEnded
    exact reports_conclude _ klass (.tail _ (.head _))

/-- The scenario of a call without instantiation is sustained. -/
theorem sustains_runDirectCall
    (serves : Following.raised.coupling.Serves call call)
    (atMost : limits.AtMost other) :
    Sustains (fun report => report.tellsLimit = true)
        (runDirectCall call limits)
      (runDirectCall call other) := by
  have calls (klass : ClassRef) (args : List Value) :
      Following.raised.coupling.InStep True
      (callValue call (.klass klass) .undefined args 1)
      (callValue call (.klass klass) .undefined args 1) (Agree fun _ => True) :=
    inStep_callValue serves.calls 1 (fun _ => trivial) (fun _ => trivial)
      fun _ _ _ => trivial
  refine sustains_newScope.andThen fun scope => ?_
  refine (sustains_makeClass serves atMost _ _ scope).andThen fun klass => ?_
  refine sustains_report (sustains_record _ (calls klass john))
    (fun first => ?_) fun first => ?_
  · refine sustains_report (sustains_record _ (calls klass []))
      (fun second => ?_) fun second => ?_
    · have constructs := (serves.constructs klass john 1).mono fun _ : True =>
        fun _ _ => trivial
      refine sustains_report (sustains_record _ constructs)
        (fun third => sustains_conclude _ klass _) fun third => ?_
      exact reports_conclude _ klass (.tail _ (.tail _ (.head _)))
    · exact .bind fun third => reports_conclude _ klass (.tail _ (.head _))
  · exact .bind fun second => .bind fun third =>
      reports_conclude _ klass (.head _)

/-- A scenario is sustained within greater limits, unless its report
tells of a limit. -/
theorem sustains_runWith
    (serves : Following.raised.coupling.Serves call call)
    (atMost : limits.AtMost other)
    (scenario : Scenario) :
    Sustains (fun report => report.tellsLimit = true)
        (scenario.runWith call limits)
      (scenario.runWith call other) := by
  cases scenario with
  | greeter => exact sustains_runGreeter serves atMost
  | guardedName => exact sustains_runGuardedName serves atMost
  | computedKey => exact sustains_runComputedKey serves atMost
  | namedExpression => exact sustains_runNamedExpression serves atMost
  | directCall => exact sustains_runDirectCall serves atMost

end Followed

/-- Whether a scenario ends with a report within limits and meets none on the
way. -/
def meetsNoLimit (limits : Limits) (scenario : Scenario) : Bool :=
  match scenario.runWith (standardCall .none) limits .empty with
  | .ok report after =>
      !report.tellsLimit && after.session.log.all fun entry => !entry.tellsLimit
  | .error _ _ => false

/-- A scenario that meets no limit ends with the same report within greater
ones. -/
theorem run_eq_of_meetsNoLimit
    {scenario : Scenario}
    {limits other : Limits}
    (atMost : limits.AtMost other)
    (meetsNone : scenario.meetsNoLimit limits = true) :
    ∃ report, scenario.run limits = .completed report ∧
      scenario.run other = .completed report := by
  have serves :
      Following.raised.coupling.Serves (standardCall .none)
        (standardCall .none) :=
    (hosts_callWithin (fun _ => trivial) _).serves .none
  unfold meetsNoLimit at meetsNone
  cases ended : scenario.runWith (standardCall .none) limits .empty with
  | error interruption after => simp [ended] at meetsNone
  | ok report after =>
      simp only [ended, Bool.and_eq_true, Bool.not_eq_true',
        List.all_eq_true] at meetsNone
      obtain ⟨quiet, untold⟩ := meetsNone
      obtain ⟨later, endedOther, -⟩ :=
        (sustains_runWith serves atMost scenario).sustains
        (State.like_empty _) ended (ne_true_of_eq_false quiet) untold
      exact ⟨report, by rw [run, ended], by rw [run, endedOther]⟩

/-- Within a depth of three, no scenario meets a limit. -/
theorem meetsNoLimit_three :
    ∀ scenario : Scenario, scenario.meetsNoLimit (.ofDepth 3) = true
  | .greeter => by decide +kernel
  | .guardedName => by decide +kernel
  | .computedKey => by decide +kernel
  | .namedExpression => by decide +kernel
  | .directCall => by decide +kernel

/-- From a depth of three on, all reports are the standard ones. -/
theorem run_of_three_le
    {depth : Depth}
    (deep : 3 ≤ depth)
    (scenario : Scenario) :
    ∃ report, scenario.run (.ofDepth depth) = .completed report ∧
      scenario.run .standard = .completed report := by
  have raised {other : Depth} (atMost : 3 ≤ other) :
      (Limits.ofDepth 3).AtMost (.ofDepth other) := ⟨atMost, le_refl _⟩
  obtain ⟨report, least, deeper⟩ :=
    run_eq_of_meetsNoLimit (raised deep) (meetsNoLimit_three scenario)
  obtain ⟨same, leastAgain, standard⟩ :=
    run_eq_of_meetsNoLimit (raised (show 3 ≤ 256 by decide))
        (meetsNoLimit_three scenario)
  cases least.symm.trans leastAgain
  exact ⟨report, deeper, standard⟩

/-- The least depth within which a scenario ends with a report. -/
def leastDepth : Scenario -> Depth
  | .guardedName => 3
  | .directCall => 0
  | _ => 2

/-- Whether a scenario ends with a report if the depth is enough, and at a
limit if it is not. -/
def endsByDepth (depth : Depth) (scenario : Scenario) : Bool :=
  match scenario.run (.ofDepth depth) with
  | .completed _ => scenario.leastDepth ≤ depth
  | .failed fault => depth < scenario.leastDepth && fault.isLimit
  | .stalled => false

/-- Within a depth of less than three, all scenarios end by the depth. -/
theorem endsByDepth_of_lt_three :
    -- A quantifier over depths might be decided by a run for every depth there
    -- is.
    ([0, 1, 2].all fun depth => all.all (endsByDepth depth)) = true := by
  decide +kernel

/-- All scenarios end by the depth. -/
theorem endsByDepth_eq_true (depth : Depth) (scenario : Scenario) :
    endsByDepth depth scenario = true := by
  by_cases deep : 3 ≤ depth
  · obtain ⟨report, completed, -⟩ := run_of_three_le deep scenario
    have enough : scenario.leastDepth ≤ 3 := by cases scenario <;> decide
    simp only [endsByDepth, completed, decide_eq_true_eq]
    exact UInt32.le_trans enough deep
  · have listed : scenario ∈ all := by cases scenario <;> decide
    have ends := List.all_eq_true.1 endsByDepth_of_lt_three depth
    refine List.all_eq_true.1 (ends ?_) scenario listed
    rw [UInt32.le_iff_toNat_le] at deep
    simp only [List.mem_cons, List.not_mem_nil, or_false, ← UInt32.toNat_inj]
    simp only [UInt32.reduceToNat] at deep ⊢
    omega

/-- A scenario ends with a report exactly if the depth is enough. -/
theorem exists_completed_iff (depth : Depth) (scenario : Scenario) :
    (∃ report, scenario.run (.ofDepth depth) = .completed report) ↔
      scenario.leastDepth ≤ depth := by
  have ends := endsByDepth_eq_true depth scenario
  unfold endsByDepth at ends
  split at ends
  next report completed =>
    exact ⟨fun _ => of_decide_eq_true ends, fun _ => ⟨report, completed⟩⟩
  next fault failed =>
    rw [Bool.and_eq_true, decide_eq_true_eq] at ends
    refine ⟨fun ⟨report, completed⟩ => ?_, fun enough =>
      absurd ends.1 (UInt32.not_lt.2 enough)⟩
    cases failed.symm.trans completed
  next => cases ends

/-- A scenario for which the depth is not enough fails at a limit. -/
theorem failed_of_lt_leastDepth
    {depth : Depth}
    {scenario : Scenario}
    (shallow : depth < scenario.leastDepth) :
    ∃ fault, scenario.run (.ofDepth depth) = .failed fault ∧
      fault.isLimit = true := by
  have ends := endsByDepth_eq_true depth scenario
  unfold endsByDepth at ends
  split at ends
  next => exact absurd shallow (UInt32.not_lt.2 (of_decide_eq_true ends))
  next fault failed => exact ⟨fault, failed, (Bool.and_eq_true_iff.1 ends).2⟩
  next => cases ends

end Scenario

end ClassLowering
