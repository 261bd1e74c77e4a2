import Mathlib.Data.List.Nodup
import SiteTrial.Proofs.Told
import SiteTrial.Run.Comparison

/-!
# The reports of scenarios

The report of a scenario is found from the samples of its two applications, and from nothing else that
was collected; so the same samples in another order of scenarios give the same reports.

* `isSteady_analyzeScenario`, `isSteady_analyzeCollected` : the analysis does not heed notices;
* `answer_analyzeSide_cons` : what the samples of one application add to a report;
* `scenario_of_analyzeCollected` : the report of a scenario bears its name;
  `answer_analyzeCollected` : what it is made of;
* `scenarios_of_analyze` : every scenario of which there are samples has one report;
* `analyze_perm` : the analysis of collectors whose samples agree for each scenario.
-/

namespace SiteTrial

open Told

/-! ## One scenario -/

theorem isSteady_analyzeSide (thresholds : Thresholds) (samples : List Sample)
    (report : ScenarioReport) : IsSteady (analyzeSide thresholds samples report) := by
  cases samples with
  | nil => exact isSteady_pure _
  | cons first rest =>
      refine isSteady_bind (isSteady_forIn (fun failure _ => ?_) _ _) fun _ => ?_
      · exact isSteady_bind (isSteady_tell _) fun _ => isSteady_pure _
      · exact isSteady_bind (isSteady_of _) fun _ => isSteady_pure _

/-- One application's samples do not change which scenario a report is about. -/
theorem scenario_of_analyzeSide {thresholds : Thresholds} {samples : List Sample}
    {report after : ScenarioReport}
    (h : (analyzeSide thresholds samples report).answer = .ok after) :
    after.scenario = report.scenario := by
  cases samples with
  | nil => exact congrArg ScenarioReport.scenario (Except.ok.inj h).symm
  | cons first rest =>
      obtain ⟨_, -, h⟩ := exists_of_answer_bind
        (fun _ => isSteady_bind (isSteady_of _) fun _ => isSteady_pure _) h
      obtain ⟨score, -, h⟩ := exists_of_answer_bind (fun _ => isSteady_pure _) h
      rw [← Except.ok.inj h]

theorem answer_tellAll (scenario : String) (failures : List String) :
    (forIn failures PUnit.unit fun failure _ => do
      Told.tell (.thresholdBreached scenario failure)
      pure (ForInStep.yield PUnit.unit) : Told PUnit).answer = .ok PUnit.unit := by
  induction failures with
  | nil => rfl
  | cons failure failures ih =>
      rw [List.forIn_cons, answer_bind]
      · exact ih
      · intro next
        cases next with
        | done _ => exact isSteady_pure _
        | yield _ =>
            exact isSteady_forIn (fun _ _ => isSteady_bind (isSteady_tell _) fun _ => isSteady_pure _) _ _

theorem answer_analyzeSide_cons (thresholds : Thresholds) (first : Sample) (rest : List Sample)
    (report : ScenarioReport) :
    (analyzeSide thresholds (first :: rest) report).answer =
      (overallScore ((first :: rest).map Sample.readings)).map fun score =>
        { report with
          thresholdChecks := report.thresholdChecks.put first.application
            ⟨(breaches thresholds (first :: rest)).map Breach.text⟩
          scores := report.scores.put first.application score } := by
  unfold analyzeSide
  dsimp only
  rw [answer_bind _ fun _ => isSteady_bind (isSteady_of _) fun _ => isSteady_pure _, answer_tellAll,
    ok_bind, answer_bind _ fun _ => isSteady_pure _, answer_of]
  cases overallScore ((first :: rest).map Sample.readings) <;> rfl

/-- The end of an analysis, once both applications have been looked at. -/
def compared (scenario : String) (baseline candidate : List Sample) (regressionThreshold : Float)
    (report : ScenarioReport) : Told ScenarioReport := do
  if baseline.isEmpty || candidate.isEmpty then
    Told.tell (.notCompared scenario)
    return report
  let comparisons ← Told.of <|
    compareRuns scenario (baseline.map Sample.readings) (candidate.map Sample.readings)
  return { report with
    comparisons := comparisons
    regressions := regressions regressionThreshold comparisons
    recommendations := (advice comparisons).map Advice.text }

theorem isSteady_compared (scenario : String) (baseline candidate : List Sample)
    (regressionThreshold : Float) (report : ScenarioReport) :
    IsSteady (compared scenario baseline candidate regressionThreshold report) := by
  unfold compared
  split
  · exact isSteady_bind (isSteady_tell _) fun _ => isSteady_pure _
  · exact isSteady_bind (isSteady_of _) fun _ => isSteady_pure _

theorem scenario_of_compared {scenario : String} {baseline candidate : List Sample}
    {regressionThreshold : Float} {report after : ScenarioReport}
    (h : (compared scenario baseline candidate regressionThreshold report).answer = .ok after) :
    after.scenario = report.scenario := by
  unfold compared at h
  split at h
  · obtain ⟨_, -, h⟩ := exists_of_answer_bind (fun _ => isSteady_pure _) h
    rw [← Except.ok.inj h]
  · obtain ⟨_, -, h⟩ := exists_of_answer_bind (fun _ => isSteady_pure _) h
    rw [← Except.ok.inj h]

theorem isSteady_analyzeScenario (scenario : String) (baseline candidate : List Sample)
    (thresholds : Thresholds) (regressionThreshold : Float) :
    IsSteady (analyzeScenario scenario baseline candidate thresholds regressionThreshold) :=
  isSteady_bind (isSteady_analyzeSide _ _ _) fun _ =>
    isSteady_bind (isSteady_analyzeSide _ _ _) fun report =>
      isSteady_compared scenario baseline candidate regressionThreshold report

/-- The report of a scenario bears its name. -/
theorem scenario_of_analyzeScenario {scenario : String} {baseline candidate : List Sample}
    {thresholds : Thresholds} {regressionThreshold : Float} {report : ScenarioReport}
    (h : (analyzeScenario scenario baseline candidate thresholds regressionThreshold).answer =
      .ok report) : report.scenario = scenario := by
  obtain ⟨first, hfirst, h⟩ := exists_of_answer_bind (fun _ =>
    isSteady_bind (isSteady_analyzeSide _ _ _) fun report =>
      isSteady_compared scenario baseline candidate regressionThreshold report) h
  obtain ⟨second, hsecond, h⟩ := exists_of_answer_bind (fun report =>
    isSteady_compared scenario baseline candidate regressionThreshold report) h
  calc report.scenario = second.scenario := scenario_of_compared h
    _ = first.scenario := scenario_of_analyzeSide hsecond
    _ = scenario := scenario_of_analyzeSide hfirst

/-! ## All scenarios -/

theorem isSteady_analyzeCollected (c : Collector) (l : Library) (config : Config) (scenario : String) :
    IsSteady (analyzeCollected c l config scenario) :=
  isSteady_bind (isSteady_of _) fun _ => isSteady_bind (isSteady_of _) fun _ =>
    isSteady_bind (isSteady_ofFault _) fun _ => isSteady_analyzeScenario _ _ _ _ _

theorem scenario_of_analyzeCollected {c : Collector} {l : Library} {config : Config}
    {scenario : String} {report : ScenarioReport}
    (h : (analyzeCollected c l config scenario).answer = .ok report) : report.scenario = scenario := by
  obtain ⟨_, -, h⟩ := exists_of_answer_bind (fun _ => isSteady_bind (isSteady_of _) fun _ =>
    isSteady_bind (isSteady_ofFault _) fun _ => isSteady_analyzeScenario _ _ _ _ _) h
  obtain ⟨_, -, h⟩ := exists_of_answer_bind (fun _ =>
    isSteady_bind (isSteady_ofFault _) fun _ => isSteady_analyzeScenario _ _ _ _ _) h
  obtain ⟨_, -, h⟩ := exists_of_answer_bind (fun _ => isSteady_analyzeScenario _ _ _ _ _) h
  exact scenario_of_analyzeScenario h

/-- The report of a scenario in a closed collector is that of the samples of either side. -/
theorem answer_analyzeCollected (samples : List Sample) (l : Library) (config : Config) (scenario : String) :
    (analyzeCollected ⟨samples, true⟩ l config scenario).answer =
      ((config.execution.thresholds.merged (l.expectedMetrics scenario)).mapError .fault >>= fun thresholds =>
        (analyzeScenario scenario (samplesOf config.baseline.name scenario samples)
          (samplesOf config.candidate.name scenario samples) thresholds
          config.execution.regressionThreshold).answer) := by
  have hscenario (baseline candidate : List Sample) : ∀ thresholds, IsSteady
      (analyzeScenario scenario baseline candidate thresholds config.execution.regressionThreshold) := fun _ =>
    isSteady_analyzeScenario _ _ _ _ _
  show (Told.of (.ok _) >>= fun baseline => Told.of (.ok _) >>= fun candidate =>
    Told.ofFault (config.execution.thresholds.merged (l.expectedMetrics scenario)) >>= fun thresholds =>
      analyzeScenario scenario baseline candidate thresholds config.execution.regressionThreshold).answer = _
  rw [answer_bind _ fun _ => isSteady_bind (isSteady_of _) fun _ =>
      isSteady_bind (isSteady_ofFault _) (hscenario _ _), answer_of, ok_bind,
    answer_bind _ fun _ => isSteady_bind (isSteady_ofFault _) (hscenario _ _), answer_of, ok_bind,
    answer_bind _ (hscenario _ _), Told.ofFault, answer_of]

/-- The analysis of a closed collector answers scenario by scenario. -/
theorem answer_analyze (samples : List Sample) (l : Library) (config : Config) :
    (analyze ⟨samples, true⟩ l config).answer =
      (scenariosOf samples).mapM fun scenario =>
        (analyzeCollected ⟨samples, true⟩ l config scenario).answer := by
  unfold analyze
  rw [answer_bind _ fun _ => isSteady_mapM (isSteady_analyzeCollected _ l config) _, answer_of]
  exact answer_mapM (isSteady_analyzeCollected _ l config) _

/-- Which order the comparisons have does not matter for who wins. -/
theorem WinSummary.of_perm {α : Type} {cs ds : List (Comparison α)} (h : cs.Perm ds) :
    WinSummary.of cs = WinSummary.of ds := by
  have hverdicts := h.map (·.verdict)
  unfold WinSummary.of WinSummary.ofVerdicts
  rw [hverdicts.countP_eq, hverdicts.countP_eq, hverdicts.length_eq]

theorem scenarios_of_analyze {samples : List Sample} {l : Library} {config : Config}
    {reports : List ScenarioReport}
    (h : (analyze ⟨samples, true⟩ l config).answer = .ok reports) :
    reports.map (·.scenario) = scenariosOf samples := by
  rw [answer_analyze] at h
  exact map_of_mapM_ok (fun _ _ => scenario_of_analyzeCollected) h

/-- The analysis of samples that are the same for each scenario, whatever their order is otherwise. -/
theorem analyze_perm {samples samples' : List Sample} (l : Library) (config : Config)
    (hperm : samples.Perm samples')
    (hsame : ∀ scenario ∈ scenariosOf samples, ∀ side,
      samplesOf (config.application side).name scenario samples =
        samplesOf (config.application side).name scenario samples') :
    AgreeUpToOrder (analyze ⟨samples, true⟩ l config).answer
      (analyze ⟨samples', true⟩ l config).answer := by
  have hscenarios : (scenariosOf samples).Perm (scenariosOf samples') := by
    refine (List.perm_ext_iff_of_nodup (nodup_scenariosOf _) (nodup_scenariosOf _)).2 fun name => ?_
    rw [mem_scenariosOf, mem_scenariosOf]
    exact exists_congr fun s => and_congr_left fun _ => hperm.mem_iff
  have hreports : ∀ scenario ∈ scenariosOf samples,
      (analyzeCollected ⟨samples, true⟩ l config scenario).answer =
        (analyzeCollected ⟨samples', true⟩ l config scenario).answer := by
    intro scenario hscenario
    have hbaseline := hsame scenario hscenario .baseline
    have hcandidate := hsame scenario hscenario .candidate
    unfold analyzeCollected
    show (Told.of (.ok (samplesOf (config.application .baseline).name scenario samples)) >>=
      fun baseline => Told.of (.ok (samplesOf (config.application .candidate).name scenario samples)) >>=
        fun candidate => _).answer = _
    rw [hbaseline, hcandidate]
    rfl
  rw [answer_analyze, answer_analyze]
  exact agreeUpToOrder_mapM hscenarios hreports

end SiteTrial
