import SiteTrial.Proofs.Report.Analysis

/-!
# Both sides of a report

A report files what it finds about the samples of a side under the application that the first of them
names. Where both sides name the same application there is one place for two entries, and the candidate's
takes it.

* `sideCheck` : what is found about the samples of one side;
* `ScenarioReport.KeepsBoth` : a report that has lost nothing of either side;
* `entries_of_analyzeScenario` : the entries of a report;
* `keepsBoth_iff` : which reports have lost nothing.
-/

namespace SiteTrial

open Told

/-- Where the samples of one side broke a bound. -/
def sideCheck (thresholds : Thresholds) (samples : List Sample) : ThresholdReport :=
  ⟨(breaches thresholds samples).map Breach.text⟩

/-- A report has an entry for either side, under whatever name, and every failure of a sample. -/
structure ScenarioReport.KeepsBoth (report : ScenarioReport) (thresholds : Thresholds)
    (baseline candidate : List Sample) : Prop where
  checks : report.thresholdChecks.map Prod.snd =
    [sideCheck thresholds baseline, sideCheck thresholds candidate]
  scores : ∃ x y, overallScore (baseline.map Sample.readings) = .ok x ∧
    overallScore (candidate.map Sample.readings) = .ok y ∧ report.scores.map Prod.snd = [x, y]
  failures : ∀ s ∈ baseline ++ candidate, ∀ breach ∈ breachesOf thresholds s,
    ∃ entry ∈ report.thresholdChecks, breach.text ∈ entry.2.failures

theorem text_mem_failures {thresholds : Thresholds} {samples : List Sample} {s : Sample} (hs : s ∈ samples)
    {breach : Breach} (hbreach : breach ∈ breachesOf thresholds s) :
    breach.text ∈ (sideCheck thresholds samples).failures :=
  List.mem_map_of_mem (List.mem_flatMap.2 ⟨s, hs, hbreach⟩)

/-- The comparison of the two sides leaves the checks and scores of a report as they are. -/
theorem entries_of_compared {scenario : String} {baseline candidate : List Sample}
    {regressionThreshold : Float} {report after : ScenarioReport}
    (h : (compared scenario baseline candidate regressionThreshold report).answer = .ok after) :
    after.thresholdChecks = report.thresholdChecks ∧ after.scores = report.scores := by
  unfold compared at h
  split at h
  · obtain ⟨_, -, h⟩ := exists_of_answer_bind (fun _ => isSteady_pure _) h
    obtain rfl := Except.ok.inj h
    exact ⟨rfl, rfl⟩
  · obtain ⟨_, -, h⟩ := exists_of_answer_bind (fun _ => isSteady_pure _) h
    obtain rfl := Except.ok.inj h
    exact ⟨rfl, rfl⟩

section

variable {scenario : String} {b c : Sample} {bs cs : List Sample} {thresholds : Thresholds}
  {regressionThreshold : Float} {report : ScenarioReport}

/-- The entries of a report are those of the baseline with those of the candidate put over them. -/
theorem entries_of_analyzeScenario
    (h : (analyzeScenario scenario (b :: bs) (c :: cs) thresholds regressionThreshold).answer =
      .ok report) :
    ∃ x y, overallScore ((b :: bs).map Sample.readings) = .ok x ∧
      overallScore ((c :: cs).map Sample.readings) = .ok y ∧
      report.thresholdChecks = Table.put [(b.application, sideCheck thresholds (b :: bs))]
        c.application (sideCheck thresholds (c :: cs)) ∧
      report.scores = Table.put [(b.application, x)] c.application y := by
  obtain ⟨first, hfirst, h⟩ := exists_of_answer_bind (fun _ =>
    isSteady_bind (isSteady_analyzeSide _ _ _) fun report =>
      isSteady_compared scenario (b :: bs) (c :: cs) regressionThreshold report) h
  obtain ⟨second, hsecond, h⟩ := exists_of_answer_bind (fun report =>
    isSteady_compared scenario (b :: bs) (c :: cs) regressionThreshold report) h
  rw [answer_analyzeSide_cons] at hfirst hsecond
  obtain ⟨x, hx, rfl⟩ := exists_of_map hfirst
  obtain ⟨y, hy, rfl⟩ := exists_of_map hsecond
  obtain ⟨hchecks, hscores⟩ := entries_of_compared h
  exact ⟨x, y, hx, hy, hchecks, hscores⟩

/-- A report has lost nothing exactly if the first samples of the two sides name different applications.
If they name the same one, it holds the check and the score of the candidate alone. -/
theorem keepsBoth_iff
    (h : (analyzeScenario scenario (b :: bs) (c :: cs) thresholds regressionThreshold).answer =
      .ok report) :
    (report.KeepsBoth thresholds (b :: bs) (c :: cs) ↔ b.application ≠ c.application) ∧
      (b.application = c.application →
        report.thresholdChecks = [(c.application, sideCheck thresholds (c :: cs))] ∧
        ∃ y, overallScore ((c :: cs).map Sample.readings) = .ok y ∧
          report.scores = [(c.application, y)]) := by
  obtain ⟨x, y, hx, hy, hchecks, hscores⟩ := entries_of_analyzeScenario h
  by_cases hsame : b.application = c.application
  · rw [Table.put, if_pos hsame, hsame] at hchecks hscores
    refine ⟨⟨fun hkeeps => ?_, fun hne => absurd hsame hne⟩, fun _ => ⟨hchecks, y, hy, hscores⟩⟩
    have hlength := congrArg List.length hkeeps.checks
    rw [hchecks] at hlength
    simp at hlength
  · rw [Table.put, if_neg hsame, Table.put] at hchecks hscores
    refine ⟨⟨fun _ => hsame, fun _ => ⟨?_, ⟨x, y, hx, hy, ?_⟩, fun s hs breach hbreach => ?_⟩⟩,
      fun h => absurd h hsame⟩
    · rw [hchecks]
      rfl
    · rw [hscores]
      rfl
    · rw [hchecks]
      rcases List.mem_append.1 hs with hs | hs
      · exact ⟨_, List.mem_cons_self .., text_mem_failures hs hbreach⟩
      · exact ⟨_, List.mem_cons_of_mem _ (List.mem_cons_self ..), text_mem_failures hs hbreach⟩

end

/-- A sample of an application of which two times were captured. -/
def landing (application : String) (lcp ttfb : Float) : Sample :=
  { timestamp := "", url := "", environment := "pre", application := application, scenario := "login"
    iteration := 1, vitals := { lcp := lcp }, timings := { ttfb := ttfb } }

/-- Two applications with names of their own, each with a failure. -/
theorem keepsBoth_iff_portals : ∃ report,
    (analyzeScenario "login" [landing "Old" 3000.0 0.0] [landing "New" 0.0 700.0] {} 15.0).answer =
        .ok report ∧
      report.KeepsBoth {} [landing "Old" 3000.0 0.0] [landing "New" 0.0 700.0] := by
  obtain ⟨report, hreport⟩ := exists_of_isSome
    (x := (analyzeScenario "login" [landing "Old" 3000.0 0.0] [landing "New" 0.0 700.0] {} 15.0).answer)
    (by decide +kernel)
  exact ⟨report, hreport, (keepsBoth_iff hreport).1.2 (by decide)⟩

/-- Two sides with one name: the failure of the baseline is in no entry. -/
theorem baseline_lost_of_oneName : ∃ report,
    (analyzeScenario "login" [landing "Portal" 3000.0 0.0] [landing "Portal" 0.0 700.0] {} 15.0).answer =
        .ok report ∧
      (sideCheck {} [landing "Portal" 3000.0 0.0]).failures =
        ["[Portal #1] LCP 3000ms exceeds threshold 2500ms"] ∧
      report.thresholdChecks.map (fun entry => (entry.1, entry.2.failures)) =
        [("Portal", ["[Portal #1] TTFB 700ms exceeds threshold 600ms"])] ∧
      ¬ report.KeepsBoth {} [landing "Portal" 3000.0 0.0] [landing "Portal" 0.0 700.0] := by
  obtain ⟨report, hreport⟩ := exists_of_isSome (x :=
    (analyzeScenario "login" [landing "Portal" 3000.0 0.0] [landing "Portal" 0.0 700.0] {} 15.0).answer)
    (by decide +kernel)
  obtain ⟨_, _, -, -, hchecks, -⟩ := entries_of_analyzeScenario hreport
  have hone : report.thresholdChecks = [("Portal", sideCheck {} [landing "Portal" 0.0 700.0])] := hchecks
  refine ⟨report, hreport, by decide +kernel, ?_, fun hkeeps => ?_⟩
  · rw [hone]
    decide +kernel
  · have hlength := congrArg List.length hkeeps.checks
    rw [hone] at hlength
    exact absurd hlength (by decide)

end SiteTrial
