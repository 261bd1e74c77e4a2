import SiteTrial.Proofs.Comparison.Range
import SiteTrial.Proofs.Comparison.Score
import SiteTrial.Proofs.Config.Unguarded
import SiteTrial.Proofs.Report.Analysis
import SiteTrial.Proofs.Report.Sides
import SiteTrial.Proofs.Run.Rehearsed

/-!
# Analyses in range

The samples of a run are analyzed when all of them have been collected. This comes to an end with a report
for every scenario, unless a number is too large: one that a scenario expects in place of a bound, or one
that was measured.

* `SidesInRange`, `exists_analyzeScenario_iff` : which samples of two applications can be analyzed;
* `Library.BoundsInRange`, `exists_merged_iff` : which bounds a scenario can ask for;
* `exists_analyzeCollected_iff` : which scenarios have a report;
* `analyze_answers_iff` : all samples that were collected.
-/

namespace SiteTrial

open Told Decimal

/-! ## One scenario -/

section Sides

variable {thresholds : Thresholds} {samples baseline candidate : List Sample} {report : ScenarioReport}

theorem exists_analyzeSide_iff : (∃ after, (analyzeSide thresholds samples report).answer = .ok after) ↔
    (samples ≠ [] → ScoreInRange (samples.map Sample.readings)) := by
  cases samples with
  | nil => exact iff_of_true ⟨report, rfl⟩ fun hsome => absurd rfl hsome
  | cons first rest =>
      rw [answer_analyzeSide_cons, exists_map_iff, exists_overallScore_iff (by simp),
        forall_prop_of_true (List.cons_ne_nil first rest)]

theorem exists_compared_iff {scenario : String} {threshold : Float} :
    (∃ after, (compared scenario baseline candidate threshold report).answer = .ok after) ↔
      RunsInRange (baseline.map Sample.readings) (candidate.map Sample.readings) := by
  have hnone (m : Metric) : measured m (List.map Sample.readings []) = [] := rfl
  unfold compared
  split
  · next hempty =>
      rw [Bool.or_eq_true, List.isEmpty_iff, List.isEmpty_iff] at hempty
      refine iff_of_true ⟨report, rfl⟩ fun m hbaseline hcandidate => ?_
      rcases hempty with rfl | rfl
      · exact absurd (hnone m) hbaseline
      · exact absurd (hnone m) hcandidate
  · rw [answer_bind _ fun _ => isSteady_pure _, answer_of]
    refine (exists_bind_iff (p := True) fun _ => iff_true_intro ⟨_, rfl⟩).trans ?_
    rw [and_true, exists_compareRuns_iff]

/-- Nothing is too large in the scores of two applications and in their comparison. -/
structure SidesInRange (baseline candidate : List Sample) : Prop where
  baselineScore : baseline ≠ [] → ScoreInRange (baseline.map Sample.readings)
  candidateScore : candidate ≠ [] → ScoreInRange (candidate.map Sample.readings)
  compared : RunsInRange (baseline.map Sample.readings) (candidate.map Sample.readings)

theorem exists_analyzeScenario_iff {scenario : String} {threshold : Float} :
    (∃ after, (analyzeScenario scenario baseline candidate thresholds threshold).answer = .ok after) ↔
      SidesInRange baseline candidate := by
  have hend (report : ScenarioReport) : IsSteady (compared scenario baseline candidate threshold report) :=
    isSteady_compared _ _ _ _ _
  have hrest (report : ScenarioReport) : IsSteady (analyzeSide thresholds candidate report >>= fun report =>
      compared scenario baseline candidate threshold report) :=
    isSteady_bind (isSteady_analyzeSide _ _ _) hend
  have hsecond (report : ScenarioReport) : (∃ after, (analyzeSide thresholds candidate report >>= fun report =>
      compared scenario baseline candidate threshold report).answer = .ok after) ↔
        (candidate ≠ [] → ScoreInRange (candidate.map Sample.readings)) ∧
          RunsInRange (baseline.map Sample.readings) (candidate.map Sample.readings) := by
    rw [answer_bind _ hend, exists_bind_iff fun _ => exists_compared_iff, exists_analyzeSide_iff]
  show (∃ after, (analyzeSide thresholds baseline { scenario := scenario } >>= fun report =>
    analyzeSide thresholds candidate report >>= fun report =>
      compared scenario baseline candidate threshold report).answer = .ok after) ↔ _
  rw [answer_bind _ hrest, exists_bind_iff hsecond, exists_analyzeSide_iff]
  exact ⟨fun ⟨hbaseline, hcandidate, hruns⟩ => ⟨hbaseline, hcandidate, hruns⟩,
    fun h => ⟨h.baselineScore, h.candidateScore, h.compared⟩⟩

end Sides

/-! ## Collected scenarios -/

/-- Doubles can be made of all bounds that a scenario asks for. -/
def Library.BoundsInRange (l : Library) (scenario : String) : Prop :=
  ∀ e ∈ l.expectedMetrics scenario, (Thresholds.keyOf? e.1).isSome = true → ¬ e.2.IsBeyondDoubles

theorem exists_merged_iff {t : Thresholds} {l : Library} {scenario : String} :
    (∃ merged, t.merged (l.expectedMetrics scenario) = .ok merged) ↔ l.BoundsInRange scenario := by
  rw [exists_iff_not_error, Check.merged_eq_error_iff]
  unfold Library.BoundsInRange
  push Not
  rfl

section Collected

variable {samples : List Sample} {l : Library} {config : Config}

/-- Nothing is too large in the report of a scenario. -/
structure ScenarioInRange (samples : List Sample) (l : Library) (config : Config) (scenario : String) :
    Prop where
  bounds : l.BoundsInRange scenario
  sides : SidesInRange (samplesOf config.baseline.name scenario samples)
    (samplesOf config.candidate.name scenario samples)

theorem exists_analyzeCollected_iff {scenario : String} :
    (∃ report, (analyzeCollected ⟨samples, true⟩ l config scenario).answer = .ok report) ↔
      ScenarioInRange samples l config scenario := by
  rw [answer_analyzeCollected, exists_bind_iff fun _ => exists_analyzeScenario_iff, exists_mapError_iff,
    exists_merged_iff]
  exact ⟨fun ⟨hbounds, hsides⟩ => ⟨hbounds, hsides⟩, fun h => ⟨h.bounds, h.sides⟩⟩

theorem length_readings_le {n : ℕ} {application scenario : String} (hcount : samples.length ≤ n) :
    ((samplesOf application scenario samples).map Sample.readings).length ≤ n := by
  rw [List.length_map]
  exact (List.length_filter_le ..).trans hcount

/-- Samples of which no measurement is below zero have scores, so that only their comparison is left. -/
theorem sidesInRange_iff_of_nonneg (hcount : samples.length ≤ 2 ^ 53)
    (hnonneg : ∀ s ∈ samples, s.readings.IsNonneg) (scenario first second : String) :
    SidesInRange (samplesOf first scenario samples) (samplesOf second scenario samples) ↔
      RunsInRange ((samplesOf first scenario samples).map Sample.readings)
        ((samplesOf second scenario samples).map Sample.readings) := by
  have hscore : ∀ application, samplesOf application scenario samples ≠ [] →
      ScoreInRange ((samplesOf application scenario samples).map Sample.readings) := by
    intro application hsome
    refine scoreInRange_of_nonneg (by simpa using hsome) (length_readings_le hcount) fun r hr => ?_
    obtain ⟨s, hs, rfl⟩ := List.mem_map.1 hr
    exact hnonneg s (List.mem_filter.1 hs).1
  exact ⟨fun h => h.compared, fun h => ⟨hscore _, hscore _, h⟩⟩

theorem runsInRange_samplesOf (hcount : samples.length ≤ 2 ^ 53)
    (hmoderate : ∀ s ∈ samples, s.readings.IsModerate) (scenario first second : String) :
    RunsInRange ((samplesOf first scenario samples).map Sample.readings)
      ((samplesOf second scenario samples).map Sample.readings) := by
  have hruns : ∀ application, ∀ r ∈ (samplesOf application scenario samples).map Sample.readings,
      r.IsModerate := by
    intro application r hr
    obtain ⟨s, hs, rfl⟩ := List.mem_map.1 hr
    exact hmoderate s (List.mem_filter.1 hs).1
  exact runsInRange_of_moderate (hruns first) (hruns second) (length_readings_le hcount)
    (length_readings_le hcount)

theorem exists_analyze_iff : (∃ reports, (analyze ⟨samples, true⟩ l config).answer = .ok reports) ↔
    ∀ scenario ∈ scenariosOf samples, ScenarioInRange samples l config scenario := by
  rw [answer_analyze, exists_mapM_iff]
  exact forall₂_congr fun _ _ => exists_analyzeCollected_iff

theorem exists_analyze_iff_of_nonneg (hcount : samples.length ≤ 2 ^ 53)
    (hnonneg : ∀ s ∈ samples, s.readings.IsNonneg) :
    (∃ reports, (analyze ⟨samples, true⟩ l config).answer = .ok reports) ↔
      ∀ scenario ∈ scenariosOf samples, l.BoundsInRange scenario ∧
        RunsInRange ((samplesOf config.baseline.name scenario samples).map Sample.readings)
          ((samplesOf config.candidate.name scenario samples).map Sample.readings) := by
  refine exists_analyze_iff.trans (forall₂_congr fun scenario _ => ?_)
  have hsides := sidesInRange_iff_of_nonneg hcount hnonneg scenario config.baseline.name config.candidate.name
  exact ⟨fun h => ⟨h.bounds, hsides.1 h.sides⟩, fun ⟨hbounds, hruns⟩ => ⟨hbounds, hsides.2 hruns⟩⟩

end Collected

/-- The samples of a run are analyzed exactly if nothing is too large in the report of a scenario, and then
every scenario has one. Of up to `2 ^ 53` samples of which no measurement is below zero, no score is. If none
is above `10 ^ 144` either, nothing that was measured is, and only a bound that a scenario asks for can be. -/
theorem analyze_answers_iff (samples : List Sample) (l : Library) (config : Config) :
    ((∃ reports, (analyze ⟨samples, true⟩ l config).answer = .ok reports) ↔
      ∀ scenario ∈ scenariosOf samples, ScenarioInRange samples l config scenario) ∧
    (∀ reports, (analyze ⟨samples, true⟩ l config).answer = .ok reports →
      reports.map (·.scenario) = scenariosOf samples) ∧
    (samples.length ≤ 2 ^ 53 → (∀ s ∈ samples, s.readings.IsNonneg) →
      ((∃ reports, (analyze ⟨samples, true⟩ l config).answer = .ok reports) ↔
        ∀ scenario ∈ scenariosOf samples, l.BoundsInRange scenario ∧
          RunsInRange ((samplesOf config.baseline.name scenario samples).map Sample.readings)
            ((samplesOf config.candidate.name scenario samples).map Sample.readings))) ∧
    (samples.length ≤ 2 ^ 53 → (∀ s ∈ samples, s.readings.IsNonneg ∧ s.readings.IsModerate) →
      ((∃ reports, (analyze ⟨samples, true⟩ l config).answer = .ok reports) ↔
        ∀ scenario ∈ scenariosOf samples, l.BoundsInRange scenario)) := by
  refine ⟨exists_analyze_iff, fun _ => scenarios_of_analyze, exists_analyze_iff_of_nonneg,
    fun hcount hsamples => ?_⟩
  have hruns (scenario : String) := runsInRange_samplesOf hcount (fun s hs => (hsamples s hs).2) scenario
    config.baseline.name config.candidate.name
  refine (exists_analyze_iff_of_nonneg hcount fun s hs => (hsamples s hs).1).trans ?_
  exact forall₂_congr fun scenario _ => and_iff_left (hruns scenario)

/-- A library with a scenario that sets another bound for the largest paint. -/
def demanding (lcp : Int) : Library where
  entries := [("login", [(.text "name", .text "login"),
    (.text "expectedMetrics", .mapping [(.text "lcp", .int lcp)])])]
  named := fun e he => by
    rw [List.mem_singleton.1 he]
    rfl

/-- A sample of either application with the same time. -/
def bothLandings (lcp : Float) : List Sample :=
  [landing "Baseline Application" lcp 500.0, landing "Candidate Application" lcp 500.0]

theorem analyze_answers_iff_landings :
    (∀ s ∈ bothLandings 3000.0, s.readings.IsNonneg ∧ s.readings.IsModerate) ∧
      (∀ scenario ∈ scenariosOf (bothLandings 3000.0), (demanding 2000).BoundsInRange scenario) ∧
      ∃ reports, (analyze ⟨bothLandings 3000.0, true⟩ (demanding 2000) Rehearsed.config).answer = .ok reports ∧
        reports.map (·.scenario) = ["login"] := by
  have hsamples : ∀ s ∈ bothLandings 3000.0, s.readings.IsNonneg ∧ s.readings.IsModerate := by
    intro s hs
    rcases List.mem_pair.1 hs with rfl | rfl
    · exact ⟨fun m => by cases m <;> decide +kernel, fun m => by cases m <;> decide +kernel⟩
    · exact ⟨fun m => by cases m <;> decide +kernel, fun m => by cases m <;> decide +kernel⟩
  have hbounds : ∀ scenario ∈ scenariosOf (bothLandings 3000.0), (demanding 2000).BoundsInRange scenario := by
    intro scenario hscenario
    obtain rfl := List.mem_singleton.1 (show scenario ∈ ["login"] from hscenario)
    intro e he _
    obtain rfl := List.mem_singleton.1 (show e ∈ [(Scalar.text "lcp", Value.int 2000)] from he)
    rintro ⟨n, hn, hinfinite⟩
    cases hn
    exact absurd hinfinite (by decide +kernel)
  obtain ⟨-, hnames, -, hmoderate⟩ :=
    analyze_answers_iff (bothLandings 3000.0) (demanding 2000) Rehearsed.config
  obtain ⟨reports, hreports⟩ := (hmoderate (by decide) hsamples).2 hbounds
  exact ⟨hsamples, hbounds, reports, hreports, hnames reports hreports⟩

theorem measured_bothLandings {x : Float} (hx : Positive x) :
    measured .lcp ((samplesOf "Baseline Application" "login" (bothLandings x)).map Sample.readings) = [x] ∧
      measured .lcp ((samplesOf "Candidate Application" "login" (bothLandings x)).map Sample.readings) = [x] :=
  ⟨List.filter_cons_of_pos (l := []) (lt_zero_iff.2 hx), List.filter_cons_of_pos (l := []) (lt_zero_iff.2 hx)⟩

theorem not_scenarioInRange_bothLandings {x : Float} (hx : Positive x) (hvast : ¬ HasHundredfold (meanOf [x]))
    (l : Library) : ¬ ScenarioInRange (bothLandings x) l Rehearsed.config "login" := by
  intro hrange
  obtain ⟨hbaseline, hcandidate⟩ := measured_bothLandings hx
  have hvalues : ValuesInRange
      (measured .lcp ((samplesOf "Baseline Application" "login" (bothLandings x)).map Sample.readings))
      (measured .lcp ((samplesOf "Candidate Application" "login" (bothLandings x)).map Sample.readings)) :=
    hrange.sides.compared .lcp (hbaseline ▸ List.cons_ne_nil x []) (hcandidate ▸ List.cons_ne_nil x [])
  rw [hbaseline, hcandidate] at hvalues
  obtain ⟨first, rest, hrising, hsummary⟩ := hvalues.baseline
  have hself : rising [x] = [x] :=
    List.perm_singleton.1 (Sorted.merged_sorted orders_positive (List.forall_mem_singleton.2 hx)).perm
  cases hself.symm.trans hrising
  exact hvast hsummary.mean

/-- A time of which there is no hundredfold. -/
def vastTime : Float := 1e308

/-- A bound that no double can be made of, and a time of which there is no hundredfold. -/
theorem analyze_breaks_vast : Config.load {} none [] = .ok Rehearsed.config ∧
    (analyze ⟨bothLandings 3000.0, true⟩ (demanding (10 ^ 400)) Rehearsed.config).answer =
      .error (.fault .integerTooLarge) ∧
    ∃ f, (analyze ⟨bothLandings vastTime, true⟩ (demanding 2000) Rehearsed.config).answer = .error f := by
  refine ⟨Rehearsed.load_config, eq_error_of_refusal? (by decide +kernel), ?_⟩
  by_contra hanswered
  have hvast : ¬ HasHundredfold (meanOf [vastTime]) := by
    unfold HasHundredfold
    decide +kernel
  have hpositive : Positive vastTime := lt_zero_iff.1 (by decide +kernel)
  refine not_scenarioInRange_bothLandings hpositive hvast (demanding 2000) ?_
  exact exists_analyze_iff.1 (exists_iff_not_error.2 hanswered) "login" (by decide +kernel)

end SiteTrial
