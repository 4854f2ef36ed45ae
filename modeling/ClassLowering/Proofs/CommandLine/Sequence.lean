import ClassLowering.Proofs.CommandLine.Arguments
import ClassLowering.Proofs.Limits.Scenarios

/-!
# All scenarios in sequence

The run of all scenarios is the sequence of the runs of the single ones. It
succeeds if all of them do, and then its output is made of their outputs.
Otherwise it says about the first one that fails what the run of that one says,
and nothing about the others.

Whether a scenario fails is settled by the depth. From a depth of three on, the
output of every scenario is what it is without a depth.
-/

namespace ClassLowering

/-- Every scenario is one of all. -/
theorem Scenario.mem_all (scenario : Scenario) : scenario ∈ all := by
  cases scenario <;> decide

namespace CommandLine

section Sequence

variable {limits : Limits} {scenario : Scenario} {scenarios : List Scenario}

/-- A scenario that ends with a report is followed by the rest. -/
theorem runAll_cons_completed
    {report : ScenarioReport}
    (completed : scenario.run limits = .completed report) :
    runAll limits (scenario :: scenarios) =
      (runAll limits scenarios).map (report :: ·) := by
  rw [runAll, completed]
  cases runAll limits scenarios <;> rfl

/-- A scenario that fails is the last one. -/
theorem runAll_cons_failed
    {fault : ShownFault}
    (failed : scenario.run limits = .failed fault) :
    runAll limits (scenario :: scenarios) =
      .error (failureText scenario fault.message) := by
  rw [runAll, failed]
  rfl

/-- The reports of scenarios that all end with one. -/
theorem runAll_eq_ok
    {report : Scenario -> ScenarioReport}
    (completed : ∀ scenario ∈ scenarios,
      scenario.run limits = .completed (report scenario)) :
    runAll limits scenarios = .ok (scenarios.map report) := by
  induction scenarios with
  | nil => rfl
  | cons scenario rest hypothesis =>
      rw [runAll_cons_completed (completed scenario (.head _)),
        hypothesis fun later isLater => completed later (.tail _ isLater)]
      rfl

/-- The first scenario that fails ends a run. -/
theorem runAll_append_failed
    {earlier later : List Scenario}
    {fault : ShownFault}
    (completed : ∀ scenario ∈ earlier, ∃ report,
      scenario.run limits = .completed report)
    (failed : scenario.run limits = .failed fault) :
    runAll limits (earlier ++ scenario :: later) =
      .error (failureText scenario fault.message) := by
  induction earlier with
  | nil => exact runAll_cons_failed failed
  | cons first rest hypothesis =>
      obtain ⟨report, ends⟩ := completed first (.head _)
      rw [List.cons_append, runAll_cons_completed ends,
        hypothesis fun later isLater => completed later (.tail _ isLater)]
      rfl

end Sequence

/--
What the run of all scenarios leaves behind is told by what the runs of the
single ones leave behind, in a format and within a depth.
-/
structure InSequence (colors : ColorSettings) (format : OutputFormat)
    (depth : Depth)
    (whole : ProgramResult) (single : Scenario -> ProgramResult) : Prop where
  exit_iff : whole.exitCode = 0 ↔
    ∀ scenario ∈ Scenario.all, (single scenario).exitCode = 0
  /-- Output that is no data is written one after another. -/
  concatenated : whole.exitCode = 0 -> format ≠ .json ->
    whole.standardOutput =
      String.join (Scenario.all.map fun scenario =>
        (single scenario).standardOutput)
  /-- Reports that are data are listed. -/
  listed : whole.exitCode = 0 -> format = .json ->
    ∃ report : Scenario -> ScenarioReport,
      (∀ scenario ∈ Scenario.all,
        scenario.run (.ofDepth depth) = .completed (report scenario) ∧
          (single scenario).standardOutput =
            (Json.list [(report scenario).document]).text ++ "\n") ∧
      whole.standardOutput =
        (Json.list (Scenario.all.map fun scenario =>
          (report scenario).document)).text ++ "\n"
  silent : whole.exitCode = 0 -> whole.standardError = ""
  /-- The first scenario that fails is named with its fault, and nothing
  else is written. -/
  failed : whole.exitCode ≠ 0 ->
    ∃ earlier failing later fault, Scenario.all = earlier ++ failing :: later ∧
      (∀ scenario ∈ earlier, (single scenario).exitCode = 0) ∧
        failing.run (.ofDepth depth) = .failed fault ∧ fault.isLimit = true ∧
          whole = ⟨1, "", failureText failing fault.message⟩ ∧
            single failing = whole
  /-- Whether the depth is enough settles how each of the runs ends. -/
  depths : ∀ scenario, (single scenario).exitCode = 0 ↔
    scenario.leastDepth ≤ depth

section Served

variable {colors : ColorSettings} {format : OutputFormat} {depth : Depth}
  {scenario : Scenario}

/-- Reports that are no data are written one after another. -/
theorem write_eq_join
    (isStyled : Bool)
    (reports : List ScenarioReport)
    (noData : format ≠ .json) :
    format.write isStyled reports =
      String.join (reports.map fun report =>
        format.write isStyled [report]) := by
  cases format with
  | json => exact absurd rfl noData
  | text | functionForm =>
      refine congrArg String.join (List.map_congr_left fun report _ => ?_)
      exact (String.empty_append ..).symm

/-- The run of a single scenario that ends with a report. -/
theorem serve_single_completed
    {limits : Limits}
    {report : ScenarioReport}
    (completed : scenario.run limits = .completed report) :
    serve colors (.report (.single scenario) format limits) =
      ⟨0, format.write colors.isStyled [report], ""⟩ := by
  rw [serve, Selection.scenarios, runAll_cons_completed completed]
  rfl

/-- The run of a single scenario that fails. -/
theorem serve_single_failed
    {limits : Limits}
    {fault : ShownFault}
    (failed : scenario.run limits = .failed fault) :
    serve colors (.report (.single scenario) format limits) =
      ⟨1, "", failureText scenario fault.message⟩ := by
  rw [serve, Selection.scenarios, runAll_cons_failed failed]

/-- The run of a single scenario succeeds exactly if the depth is enough. -/
theorem exitCode_single_iff :
    (serve colors
      (.report (.single scenario) format (.ofDepth depth))).exitCode = 0 ↔
      scenario.leastDepth ≤ depth := by
  by_cases enough : scenario.leastDepth ≤ depth
  · obtain ⟨report, completed⟩ :=
      (Scenario.exists_completed_iff depth scenario).2 enough
    simp only [serve_single_completed completed, enough]
  · obtain ⟨fault, failed, -⟩ :=
      Scenario.failed_of_lt_leastDepth (UInt32.not_le.1 enough)
    simp only [serve_single_failed failed, enough, Nat.one_ne_zero]

/-- The run of all scenarios is in sequence if the depth is enough for all of
them. -/
theorem inSequence_of_enough
    (enough : ∀ scenario : Scenario, scenario.leastDepth ≤ depth) :
    InSequence colors format depth
      (serve colors (.report .all format (.ofDepth depth)))
      fun scenario => serve colors
      (.report (.single scenario) format (.ofDepth depth)) := by
  choose report completed using fun scenario =>
    (Scenario.exists_completed_iff depth scenario).2 (enough scenario)
  have whole : serve colors (.report .all format (.ofDepth depth)) =
      ⟨0, format.write colors.isStyled (Scenario.all.map report), ""⟩ := by
    rw [serve, Selection.scenarios, runAll_eq_ok fun scenario _ =>
      completed scenario]
  simp only [whole, serve_single_completed (completed _)]
  exact
    { exit_iff := ⟨fun _ _ _ => rfl, fun _ => rfl⟩
      concatenated := fun _ noData => by
        rw [write_eq_join _ _ noData, List.map_map]
        rfl
      listed := fun _ isData => by
        subst isData
        exact ⟨report, fun scenario _ => ⟨completed scenario, rfl⟩, by
          rw [OutputFormat.write, List.map_map]
          rfl⟩
      silent := fun _ => rfl
      failed := fun fails => absurd rfl fails
      depths := fun scenario => ⟨fun _ => enough scenario, fun _ => rfl⟩ }

/-- If the depth is not enough for all scenarios, there is a first one for
which it is not. -/
theorem exists_first_shallow
    (shallow : ¬∀ scenario : Scenario, scenario.leastDepth ≤ depth) :
    ∃ earlier failing later, Scenario.all = earlier ++ failing :: later ∧
      (∀ scenario ∈ earlier, scenario.leastDepth ≤ depth) ∧
        depth < failing.leastDepth := by
  obtain ⟨scenario, fails⟩ := not_forall.1 shallow
  have some :
      (Scenario.all.find? fun scenario => depth < scenario.leastDepth).isSome =
        true := by
    rw [List.find?_isSome]
    exact ⟨scenario, scenario.mem_all, decide_eq_true (UInt32.not_le.1 fails)⟩
  obtain ⟨failing, found⟩ := Option.isSome_iff_exists.1 some
  obtain ⟨isShallow, earlier, later, split, completes⟩ :=
    List.find?_eq_some_iff_append.1 found
  refine ⟨earlier, failing, later, split, fun scenario isEarlier =>
    ?_, of_decide_eq_true isShallow⟩
  have enough := completes scenario isEarlier
  rw [Bool.not_eq_true', decide_eq_false_iff_not] at enough
  exact UInt32.not_lt.1 enough

/-- The run of all scenarios is in sequence if the depth is not enough
for one of them. -/
theorem inSequence_of_shallow
    (shallow : ¬∀ scenario : Scenario, scenario.leastDepth ≤ depth) :
    InSequence colors format depth
      (serve colors (.report .all format (.ofDepth depth)))
      fun scenario => serve colors
      (.report (.single scenario) format (.ofDepth depth)) := by
  obtain ⟨earlier, failing, later, split, completes, fails⟩ :=
    exists_first_shallow shallow
  obtain ⟨fault, failed, isLimit⟩ := Scenario.failed_of_lt_leastDepth fails
  have whole : serve colors (.report .all format (.ofDepth depth)) =
      ⟨1, "", failureText failing fault.message⟩ := by
    rw [serve, Selection.scenarios, split,
        runAll_append_failed (fun scenario isEarlier =>
          (Scenario.exists_completed_iff depth scenario).2
            (completes scenario isEarlier)) failed]
  rw [whole]
  exact
    { exit_iff := by
        refine ⟨fun succeeds => absurd succeeds Nat.one_ne_zero,
          fun succeed => ?_⟩
        exact absurd (exitCode_single_iff.1 (succeed failing failing.mem_all))
          (UInt32.not_le.2 fails)
      concatenated := fun succeeds => absurd succeeds Nat.one_ne_zero
      listed := fun succeeds => absurd succeeds Nat.one_ne_zero
      silent := fun succeeds => absurd succeeds Nat.one_ne_zero
      failed := fun _ =>
        ⟨earlier, failing, later, fault, split, fun scenario isEarlier =>
          exitCode_single_iff.2 (completes scenario isEarlier), failed,
            isLimit, rfl, serve_single_failed failed⟩
      depths := fun _ => exitCode_single_iff }

/-- The run of all scenarios is in sequence. -/
theorem inSequence_serve
    (colors : ColorSettings)
    (format : OutputFormat)
    (depth : Depth) :
    InSequence colors format depth
      (serve colors (.report .all format (.ofDepth depth)))
      fun scenario => serve colors
      (.report (.single scenario) format (.ofDepth depth)) := by
  by_cases enough : ∀ scenario : Scenario, scenario.leastDepth ≤ depth
  · exact inSequence_of_enough enough
  · exact inSequence_of_shallow enough

/-- From a depth of three on, the run of a single scenario is the one
without a depth. -/
theorem serve_of_three_le
    (deep : 3 ≤ depth) :
    serve colors (.report (.single scenario) format (.ofDepth depth)) =
      serve colors (.report (.single scenario) format .standard) := by
  obtain ⟨report, completed, standard⟩ := Scenario.run_of_three_le deep scenario
  rw [serve_single_completed completed, serve_single_completed standard]

end Served

/--
With the same format and depth, the run of all scenarios is in sequence with the
runs of the single ones. Each of these is what it is without a depth, if the
depth is three or more.
-/
theorem allInSequence
    (colors : ColorSettings)
    {format? : Option OutputFormat}
    {depth? : Option Depth}
    {whole : List String}
    {single plain : Scenario -> List String}
    (forAll : Arguments.Give whole ⟨some .all, format?, depth?⟩)
    (forOne : ∀ scenario,
      Arguments.Give (single scenario)
        ⟨some (.single scenario), format?, depth?⟩)
    (withoutDepth : ∀ scenario,
      Arguments.Give (plain scenario)
        ⟨some (.single scenario), format?, none⟩) :
    InSequence colors (format?.getD .text)
        (depth?.getD Limits.standard.callDepth)
        (run colors whole) (fun scenario => run colors (single scenario)) ∧
      ∀ scenario, (∀ depth ∈ depth?, 3 ≤ depth) ->
        run colors (single scenario) = run colors (plain scenario) := by
  have runs {args : List String} {given : Arguments}
      (give : Arguments.Give args given) :
      run colors args = serve colors given.request :=
    congrArg (serve colors) (Arguments.take_none_of_give give)
  simp only [runs forAll, runs (forOne _), runs (withoutDepth _)]
  refine ⟨inSequence_serve colors _ _, fun scenario deep => ?_⟩
  cases depth? with
  | none => rfl
  | some depth => exact serve_of_three_le (deep depth rfl)

/-- Within a depth of three, reports as data are asked for in three ways. -/
theorem allInSequence_three :
    let single (scenario : Scenario) :=
      [scenario.name, "--format", "json", "--max-call-depth=3"]
    let plain (scenario : Scenario) := ["--format", "json", scenario.name]
    InSequence .plain .json 3
        (run .plain ["--max-call-depth", "3", "all", "--format=json"])
        (fun scenario => run .plain (single scenario)) ∧
      ∀ scenario, run .plain (single scenario) =
        run .plain (plain scenario) := by
  have depth (form : List String) (written : form ∈ [["--max-call-depth", "3"],
      ["--max-call-depth=3"]]) : form ∈ Arguments.optionForms "max-call-depth"
        (toString (3 : Depth).toNat) := by
    rwa [show Arguments.optionForms "max-call-depth"
      (toString (3 : Depth).toNat) =
      [["--max-call-depth", "3"], ["--max-call-depth=3"]] by decide +kernel]
  have format (form : List String)
      (written : form ∈ [["--format", "json"], ["--format=json"]]) :
      form ∈ Arguments.optionForms "format" OutputFormat.json.name := by
    rwa [show Arguments.optionForms "format" OutputFormat.json.name =
      [["--format", "json"], ["--format=json"]] by decide +kernel]
  have sequence := allInSequence .plain
    (.callDepth 3 (depth _ (.head _)) rfl
      (.selection .all rfl
        (.format .json (format _ (.tail _ (.head _))) rfl .nothing)))
    (fun scenario => .selection (.single scenario) rfl
      (.format .json (format _ (.head _)) rfl
        (.callDepth 3 (depth _ (.tail _ (.head _))) rfl .nothing)))
    (fun scenario => .format .json (format _ (.head _)) rfl
      (.selection (.single scenario) rfl .nothing))
  exact ⟨sequence.1, fun scenario => sequence.2 scenario fun depth given => by
    cases given
    decide⟩

/-- The first scenario that fails within a depth of two is the second one. -/
example : run .plain ["all", "--max-call-depth", "2"] =
    ⟨1, "", "Error: scenario 'guarded-name' failed\n\nCaused by:\n    " ++
      "Maximum call depth of 2 exceeded\n"⟩ := by decide +kernel

end CommandLine

end ClassLowering
