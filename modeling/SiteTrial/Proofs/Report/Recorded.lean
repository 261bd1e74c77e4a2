import SiteTrial.CommandLine.Outcome
import SiteTrial.Proofs.Report.Analysis
import SiteTrial.Proofs.Run.Conclusion
import SiteTrial.Proofs.Run.Persistence
import SiteTrial.Proofs.Sample.Malformed

/-!
# Recorded samples and collected samples

A run analyzes the samples of its collector; a comparison reads the samples of each application from a
file of its own. Both find the same samples for every scenario, so both come to the same, apart from the
checks against bounds and the order of the scenarios.

* `get?_groupByScenario` : the group of a scenario; `mem_scenariosOfGroups`, `nodup_scenariosOfGroups` :
  which scenarios two groups have;
* `ScenarioReport.withoutChecks`, `answer_analyzeScenario_withoutChecks` : the bounds matter for nothing
  else in a report;
* `analyzeRecorded_perm` : the reports that are made either way;
* `Run.recorded_agrees` : the whole reports.
-/

namespace SiteTrial

open Told

/-! ## Groups -/

theorem keys_groupByScenario (samples : List Sample) :
    (groupByScenario samples).keys = scenariosOf samples := by
  unfold Table.keys groupByScenario
  rw [List.map_map]
  exact List.map_id _

theorem get?_groupByScenario (samples : List Sample) (name : String) :
    (groupByScenario samples).get? name =
      if name ∈ scenariosOf samples then some (samples.filter (·.scenario = name)) else none := by
  unfold Table.get? groupByScenario
  split
  · next hname => exact List.lookup_graph (fun name => samples.filter (·.scenario = name)) hname
  · next hname =>
      rw [List.lookup_eq_none_iff]
      intro e he
      obtain ⟨other, hother, rfl⟩ := List.mem_map.1 he
      rw [bne_iff_ne]
      rintro rfl
      exact hname hother

/-- The samples of a scenario, of which there may be none. -/
theorem getD_groupByScenario (samples : List Sample) (name : String) :
    ((groupByScenario samples).get? name).getD [] = samples.filter (·.scenario = name) := by
  rw [get?_groupByScenario]
  split
  · rfl
  · next hname =>
      symm
      rw [Option.getD_none, List.filter_eq_nil_iff]
      intro s hs hscenario
      exact hname (mem_scenariosOf.2 ⟨s, hs, of_decide_eq_true hscenario⟩)

theorem has_groupByScenario (samples : List Sample) (name : String) :
    (groupByScenario samples).has name = decide (name ∈ scenariosOf samples) := by
  unfold Table.has
  rw [get?_groupByScenario]
  by_cases hname : name ∈ scenariosOf samples <;> simp [hname]

/-- The scenarios of two groups are those of all samples. -/
theorem mem_scenariosOfGroups {baseline candidate : List Sample} {name : String} :
    name ∈ scenariosOfGroups (groupByScenario baseline) (groupByScenario candidate) ↔
      ∃ s ∈ baseline ++ candidate, s.scenario = name := by
  unfold scenariosOfGroups
  rw [keys_groupByScenario, keys_groupByScenario, List.mem_append, List.mem_filter,
    has_groupByScenario]
  have hsplit : (∃ s ∈ baseline ++ candidate, s.scenario = name) ↔
      name ∈ scenariosOf baseline ∨ name ∈ scenariosOf candidate := by
    simp only [List.mem_append, or_and_right, exists_or, mem_scenariosOf]
  rw [hsplit]
  by_cases hname : name ∈ scenariosOf baseline <;> simp [hname]

theorem nodup_scenariosOfGroups (baseline candidate : List Sample) :
    (scenariosOfGroups (groupByScenario baseline) (groupByScenario candidate)).Nodup := by
  unfold scenariosOfGroups
  rw [keys_groupByScenario, keys_groupByScenario]
  refine (nodup_scenariosOf _).append ((nodup_scenariosOf _).filter _) ?_
  intro name hbaseline hcandidate
  have hnew := (List.mem_filter.1 hcandidate).2
  rw [has_groupByScenario, decide_eq_true hbaseline] at hnew
  exact absurd hnew (by decide)

/-! ## Bounds -/

/-- A report without the checks against bounds. -/
def ScenarioReport.withoutChecks (r : ScenarioReport) : ScenarioReport := { r with thresholdChecks := [] }

/-- One application's samples change two reports alike that differ in their checks alone. -/
theorem answer_analyzeSide_withoutChecks {thresholds thresholds' : Thresholds} {samples : List Sample}
    {report report' : ScenarioReport} (h : report.withoutChecks = report'.withoutChecks) :
    (analyzeSide thresholds samples report).answer.map ScenarioReport.withoutChecks =
      (analyzeSide thresholds' samples report').answer.map ScenarioReport.withoutChecks := by
  cases samples with
  | nil => exact congrArg Except.ok h
  | cons first rest =>
      rw [answer_analyzeSide_cons, answer_analyzeSide_cons]
      cases overallScore ((first :: rest).map Sample.readings) with
      | error e => rfl
      | ok score =>
          exact congrArg (fun r : ScenarioReport =>
            Except.ok { r with scores := r.scores.put first.application score }) h

theorem answer_compared_withoutChecks {scenario : String} {baseline candidate : List Sample}
    {threshold : Float} {report report' : ScenarioReport}
    (h : report.withoutChecks = report'.withoutChecks) :
    (compared scenario baseline candidate threshold report).answer.map ScenarioReport.withoutChecks =
      (compared scenario baseline candidate threshold report').answer.map
        ScenarioReport.withoutChecks := by
  unfold compared
  split
  · exact congrArg Except.ok h
  · rw [answer_bind _ fun _ => isSteady_pure _, answer_bind _ fun _ => isSteady_pure _, answer_of]
    cases compareRuns scenario (baseline.map Sample.readings) (candidate.map Sample.readings) with
    | error e => rfl
    | ok comparisons =>
        exact congrArg (fun r : ScenarioReport => Except.ok { r with
          comparisons := comparisons
          regressions := regressions threshold comparisons
          recommendations := (advice comparisons).map Advice.text }) h

/-- The bounds decide about the checks of a report and about nothing else. -/
theorem answer_analyzeScenario_withoutChecks (scenario : String) (baseline candidate : List Sample)
    (thresholds thresholds' : Thresholds) (threshold : Float) :
    (analyzeScenario scenario baseline candidate thresholds threshold).answer.map
        ScenarioReport.withoutChecks =
      (analyzeScenario scenario baseline candidate thresholds' threshold).answer.map
        ScenarioReport.withoutChecks := by
  have hsteady : ∀ t report, IsSteady (analyzeSide t candidate report >>= fun report =>
      compared scenario baseline candidate threshold report) := fun _ _ =>
    isSteady_bind (isSteady_analyzeSide _ _ _) fun report =>
      isSteady_compared scenario baseline candidate threshold report
  show (analyzeSide thresholds baseline _ >>= fun report => analyzeSide thresholds candidate report >>=
    fun report => compared scenario baseline candidate threshold report).answer.map _ =
      (analyzeSide thresholds' baseline _ >>= fun report => analyzeSide thresholds' candidate report >>=
        fun report => compared scenario baseline candidate threshold report).answer.map _
  rw [answer_bind _ (hsteady thresholds), answer_bind _ (hsteady thresholds')]
  refine map_bind_congr (answer_analyzeSide_withoutChecks rfl) fun first first' hfirst => ?_
  rw [answer_bind _ (isSteady_compared scenario baseline candidate threshold),
    answer_bind _ (isSteady_compared scenario baseline candidate threshold)]
  exact map_bind_congr (answer_analyzeSide_withoutChecks hfirst) fun _ _ hsecond =>
    answer_compared_withoutChecks hsecond

/-! ## Samples -/

section Samples

variable {samples : List Sample} {l : Library} {config : Config}

theorem samplesOf_eq_filter (application scenario : String) (samples : List Sample) :
    samplesOf application scenario samples =
      (samples.filter (·.application = application)).filter (·.scenario = scenario) := by
  rw [List.filter_filter]
  exact List.filter_congr fun s _ => Bool.and_comm _ _

/-- The samples of two applications are those of the one and those of the other. -/
theorem filter_application_perm (hnames : config.baseline.name ≠ config.candidate.name)
    (happs : ∀ s ∈ samples, ∃ side, s.application = (config.application side).name) :
    samples.Perm (samples.filter (·.application = config.baseline.name) ++
      samples.filter (·.application = config.candidate.name)) := by
  have hother : samples.filter (·.application = config.candidate.name) =
      samples.filter fun s => !decide (s.application = config.baseline.name) := by
    refine List.filter_congr fun s hs => ?_
    obtain ⟨side, hside⟩ := happs s hs
    rw [hside]
    cases side with
    | baseline => simp [Config.application, hnames]
    | candidate => simp [Config.application, hnames.symm]
  rw [hother]
  exact (List.filter_append_perm _ samples).symm

theorem answer_analyzeRecorded (threshold : Float) (baseline candidate : List Sample) :
    (analyzeRecorded threshold baseline candidate).answer =
      (scenariosOfGroups (groupByScenario baseline) (groupByScenario candidate)).mapM fun name =>
        (analyzeScenario name (baseline.filter (·.scenario = name))
          (candidate.filter (·.scenario = name)) {} threshold).answer := by
  unfold analyzeRecorded analyzeGroups
  rw [answer_mapM fun _ => isSteady_analyzeScenario _ _ _ _ _]
  simp only [getD_groupByScenario]

/-- What the analysis of a collected scenario comes to, it comes to with the bounds that there are by
default as well, apart from the checks. -/
theorem answer_analyzeCollected_withoutChecks {scenario : String} {report : ScenarioReport}
    (h : (analyzeCollected ⟨samples, true⟩ l config scenario).answer = .ok report) :
    (analyzeScenario scenario
      ((samples.filter (·.application = config.baseline.name)).filter (·.scenario = scenario))
      ((samples.filter (·.application = config.candidate.name)).filter (·.scenario = scenario))
      {} config.execution.regressionThreshold).answer.map ScenarioReport.withoutChecks =
      .ok report.withoutChecks := by
  rw [← samplesOf_eq_filter, ← samplesOf_eq_filter]
  obtain ⟨baseline, hbaseline, h⟩ := exists_of_answer_bind (fun _ => isSteady_bind (isSteady_of _)
    fun _ => isSteady_bind (isSteady_ofFault _) fun _ => isSteady_analyzeScenario _ _ _ _ _) h
  obtain ⟨candidate, hcandidate, h⟩ := exists_of_answer_bind (fun _ =>
    isSteady_bind (isSteady_ofFault _) fun _ => isSteady_analyzeScenario _ _ _ _ _) h
  obtain ⟨thresholds, -, h⟩ := exists_of_answer_bind
    (fun _ => isSteady_analyzeScenario _ _ _ _ _) h
  cases hbaseline
  cases hcandidate
  rw [answer_analyzeScenario_withoutChecks _ _ _ _ thresholds, h]
  rfl

/-- The samples of two applications, analyzed from two files, come to what they come to when they are
analyzed from a collector, apart from the checks and the order of the scenarios. -/
theorem analyzeRecorded_perm (hnames : config.baseline.name ≠ config.candidate.name)
    (happs : ∀ s ∈ samples, ∃ side, s.application = (config.application side).name)
    {reports : List ScenarioReport} (h : (analyze ⟨samples, true⟩ l config).answer = .ok reports) :
    ∃ recorded, (analyzeRecorded config.execution.regressionThreshold
        (samples.filter (·.application = config.baseline.name))
        (samples.filter (·.application = config.candidate.name))).answer = .ok recorded ∧
      (reports.map ScenarioReport.withoutChecks).Perm (recorded.map ScenarioReport.withoutChecks) := by
  have hscenarios : (scenariosOf samples).Perm (scenariosOfGroups
      (groupByScenario (samples.filter (·.application = config.baseline.name)))
      (groupByScenario (samples.filter (·.application = config.candidate.name)))) := by
    refine (List.perm_ext_iff_of_nodup (nodup_scenariosOf _) (nodup_scenariosOfGroups _ _)).2 ?_
    intro name
    rw [mem_scenariosOf, mem_scenariosOfGroups]
    exact exists_congr fun s => and_congr_left fun _ =>
      (filter_application_perm hnames happs).mem_iff
  rw [answer_analyze] at h
  rw [answer_analyzeRecorded]
  have hagree := agreeUpToOrder_mapM hscenarios fun scenario hscenario => by
    obtain ⟨report, hreport⟩ := exists_of_mapM_ok h hscenario
    have hcollected : (analyzeCollected ⟨samples, true⟩ l config scenario).answer.map
        ScenarioReport.withoutChecks = .ok report.withoutChecks := by
      rw [hreport]
      rfl
    exact hcollected.trans (answer_analyzeCollected_withoutChecks hreport).symm
  rw [mapM_map_ok, mapM_map_ok, h] at hagree
  rcases hagree with ⟨e, e', he, -⟩ | ⟨as, bs, has, hbs, hperm⟩
  · cases he
  · cases has
    generalize (List.mapM _ _ : Except Failure (List ScenarioReport)) = recorded at hbs
    cases recorded with
    | error e => cases hbs
    | ok recorded =>
        cases hbs
        exact ⟨recorded, rfl, hperm⟩

end Samples

/-! ## Whole reports -/

theorem isSteady_ofRecorded (date : String) (threshold : Float) (baseline candidate : List Sample) :
    IsSteady (Report.ofRecorded date threshold baseline candidate) := by
  unfold Report.ofRecorded
  split
  · exact isSteady_bind (isSteady_mapM (fun _ => isSteady_analyzeScenario _ _ _ _ _) _) fun _ =>
      isSteady_pure _
  · exact isSteady_pure none

/-- The report on recorded samples of which there are some on both sides. -/
theorem exists_ofRecorded (date : String) {threshold : Float} {baseline candidate : List Sample}
    {scenarios : List ScenarioReport} (hbaseline : baseline ≠ []) (hcandidate : candidate ≠ [])
    (h : (analyzeRecorded threshold baseline candidate).answer = .ok scenarios) :
    ∃ report, (Report.ofRecorded date threshold baseline candidate).answer = .ok (some report) ∧
      report.scenarios = scenarios ∧ report.summary = .of (scenarios.flatMap (·.comparisons)) ∧
      report.totalSamples = baseline.length + candidate.length := by
  cases baseline with
  | nil => exact absurd rfl hbaseline
  | cons b bs =>
      cases candidate with
      | nil => exact absurd rfl hcandidate
      | cons c cs =>
          unfold Report.ofRecorded
          rw [answer_bind _ fun _ => isSteady_pure _, h]
          exact ⟨_, rfl, rfl, rfl, rfl⟩

theorem CompareOptions.answer_report? {o : CompareOptions} {date : String} {files : Files}
    {baseline candidate : List Sample}
    (hbaseline : (readSamples files o.baselinePath).answer = .ok baseline)
    (hcandidate : (readSamples files o.candidatePath).answer = .ok candidate) :
    (o.report? date files).answer = (Report.ofRecorded date o.threshold baseline candidate).answer := by
  unfold report?
  rw [answer_bind _ fun _ => isSteady_bind (isSteady_readSamples _ _) fun _ =>
      isSteady_ofRecorded _ _ _ _, hbaseline, ok_bind,
    answer_bind _ fun _ => isSteady_ofRecorded _ _ _ _, hcandidate, ok_bind]

/-- Two reports of which each has one report for each scenario, the same for both apart from the checks
against bounds, and that come to the same in all. -/
structure Report.Matches (a b : Report) : Prop where
  scenarios : (a.scenarios.map ScenarioReport.withoutChecks).Perm
    (b.scenarios.map ScenarioReport.withoutChecks)
  once : (a.scenarios.map (·.scenario)).Nodup ∧ (b.scenarios.map (·.scenario)).Nodup
  summary : a.summary = b.summary
  totalSamples : a.totalSamples = b.totalSamples

/-- A run that has collected some samples of both applications, and a comparison of two files that hold
the samples of one application each, in the order in which they were collected, come to the same: every
scenario has one report on either side, with the same comparisons, regressions, advice and scores. -/
theorem Run.recorded_agrees {η : Type} [Host η] {p : Plan} {began : Nat} {r : Run η}
    {samples : List Sample} {online : Report} {o : CompareOptions} {date : String} {files : Files}
    (hnames : p.config.baseline.name ≠ p.config.candidate.name)
    (hsamples : r.shared.collector.samples = samples)
    (happs : ∀ s ∈ samples, ∃ side, s.application = (p.config.application side).name)
    (hboth : ∀ side, ∃ s ∈ samples, s.application = (p.config.application side).name)
    (hkept : ∀ s ∈ samples, s.IsKept)
    (hbaseline : files.read? o.baselinePath = some (String.join
      ((samples.filter (·.application = p.config.baseline.name)).map Sample.line)))
    (hcandidate : files.read? o.candidatePath = some (String.join
      ((samples.filter (·.application = p.config.candidate.name)).map Sample.line)))
    (hthreshold : o.threshold = p.config.execution.regressionThreshold)
    (honline : (r.conclude p began).answer = .ok online) :
    ∃ offline, (o.report? date files).answer = .ok (some offline) ∧ online.Matches offline := by
  subst hsamples
  obtain ⟨-, scenarios, hanalyze, rfl⟩ := Run.exists_of_answer_conclude honline
  obtain ⟨recorded, hrecorded, hperm⟩ := analyzeRecorded_perm hnames happs hanalyze
  -- both files are read as the samples of their application, and neither has none
  have hread : ∀ {application path}, files.read? path = some (String.join
      ((r.shared.collector.samples.filter (·.application = application)).map Sample.line)) →
      (readSamples files path).answer =
        .ok (r.shared.collector.samples.filter (·.application = application)) := fun hfile =>
    congrArg Prod.fst (outcome_readSamples (fun s hs => hkept s (List.mem_filter.1 hs).1) hfile)
  have hsome : ∀ side, r.shared.collector.samples.filter
      (·.application = (p.config.application side).name) ≠ [] := by
    intro side hnone
    obtain ⟨s, hs, hside⟩ := hboth side
    exact absurd (decide_eq_true hside) (List.filter_eq_nil_iff.1 hnone s hs)
  have hfirst : r.shared.collector.samples.filter
      (·.application = p.config.baseline.name) ≠ [] := hsome .baseline
  have hsecond : r.shared.collector.samples.filter
      (·.application = p.config.candidate.name) ≠ [] := hsome .candidate
  rw [← hthreshold] at hrecorded
  obtain ⟨offline, hoffline, hscenarios, hsummary, htotal⟩ :=
    exists_ofRecorded date hfirst hsecond hrecorded
  refine ⟨offline, ?_, ?_⟩
  · rw [CompareOptions.answer_report? (hread hbaseline) (hread hcandidate), hoffline]
  · have honce : (scenarios.map (·.scenario)).Nodup := by
      rw [scenarios_of_analyze hanalyze]
      exact nodup_scenariosOf _
    have hcomparisons : (scenarios.flatMap (·.comparisons)).Perm
        (recorded.flatMap (·.comparisons)) := by
      have hsame := hperm.flatMap_right (·.comparisons)
      rwa [List.flatMap_map, List.flatMap_map] at hsame
    have hnamed : (scenarios.map (·.scenario)).Perm (recorded.map (·.scenario)) := by
      have hsame := hperm.map (·.scenario)
      rwa [List.map_map, List.map_map] at hsame
    refine ⟨?_, ⟨honce, ?_⟩, ?_, ?_⟩
    · rw [hscenarios]
      exact hperm
    · rw [hscenarios]
      exact hnamed.nodup_iff.1 honce
    · rw [hsummary]
      exact WinSummary.of_perm hcomparisons
    · rw [htotal, ← Nat.cast_add, ← List.length_append,
        ← (filter_application_perm hnames happs).length_eq]
      rfl

namespace Rehearsed

/-- A sample of either application for one scenario, the candidate's first, and one of the candidate for
another. -/
def collected : List Sample :=
  [⟨"pre", "Candidate Application", "login", 1⟩, ⟨"pre", "Baseline Application", "login", 1⟩,
    ⟨"pre", "Candidate Application", "search", 1⟩].map measured.sample

/-- A run that has collected them. -/
def collectedRun : Run Metronome :=
  let start := Run.start (plan 1 none) 2 {} (⟨0⟩ : Metronome)
  { start with shared := { start.shared with collector := ⟨collected, false⟩ } }

/-- The samples of an application, as a file. -/
def recordOf (application : String) : Node :=
  .file (String.join ((collected.filter (·.application = application)).map Sample.line))

/-- A file for each application. -/
def recorded : Files :=
  ⟨[(["baseline.jsonl"], recordOf "Baseline Application"),
    (["candidate.jsonl"], recordOf "Candidate Application")]⟩

set_option maxRecDepth 4000 in
theorem isKept_searched : (measured.sample ⟨"pre", "Candidate Application", "search", 1⟩).IsKept := by
  refine ⟨⟨⟨_, rfl⟩, fun _ h => absurd h List.not_mem_nil⟩, ?_⟩
  refine Json.read_line (by decide +kernel) ?_
  simp only [measured, Measured.sample, Sample.toValue, Vitals.toValue, Timings.toValue,
      ApplicationMetrics.toValue, Value.record, List.map, Json.line, Json.lineItems, Json.lineFields,
      Json.keyText, Json.bare, Json.scalarText, Scalar.toText, Json.textChars, String.toList_append,
      String.toList_intercalate, String.toList_ofList]
  decide +kernel

theorem isKept_collected : ∀ s ∈ collected, s.IsKept := by
  intro s hs
  simp only [collected, List.map, List.mem_cons, List.not_mem_nil, or_false] at hs
  rcases hs with rfl | rfl | rfl
  · exact isKept_measured _ (by simp [origins])
  · exact isKept_measured _ (by simp [origins])
  · exact isKept_searched

end Rehearsed

open Rehearsed in
/-- A scenario that both applications have and one that only the candidate has. -/
theorem Run.recorded_agrees_rehearsed : ∃ online offline,
    (collectedRun.conclude (plan 1 none) 0).answer = .ok online ∧
      ((⟨"baseline.jsonl", "candidate.jsonl", 15.0, none⟩ : CompareOptions).report? "2024-05-01"
        recorded).answer = .ok (some offline) ∧
      online.Matches offline := by
  obtain ⟨online, honline⟩ :=
    exists_of_isSome (x := (collectedRun.conclude (plan 1 none) 0).answer) (by decide +kernel)
  have happs : ∀ s ∈ collected, ∃ side,
      s.application = ((plan 1 none).config.application side).name := by
    intro s hs
    simp only [collected, List.map, List.mem_cons, List.not_mem_nil, or_false] at hs
    rcases hs with rfl | rfl | rfl
    · exact ⟨.candidate, rfl⟩
    · exact ⟨.baseline, rfl⟩
    · exact ⟨.candidate, rfl⟩
  have hboth : ∀ side, ∃ s ∈ collected,
      s.application = ((plan 1 none).config.application side).name := by
    intro side
    cases side with
    | baseline => exact ⟨_, List.mem_cons_of_mem _ List.mem_cons_self, rfl⟩
    | candidate => exact ⟨_, List.mem_cons_self, rfl⟩
  obtain ⟨offline, hoffline, hmatches⟩ := @Run.recorded_agrees Metronome _ (plan 1 none) 0
    collectedRun collected online ⟨"baseline.jsonl", "candidate.jsonl", 15.0, none⟩ "2024-05-01"
    recorded (by decide +kernel) rfl happs hboth isKept_collected rfl rfl rfl honline
  exact ⟨online, offline, honline, hoffline, hmatches⟩

end SiteTrial
