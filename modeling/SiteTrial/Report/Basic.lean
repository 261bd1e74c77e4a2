import SiteTrial.Comparison.Advice
import SiteTrial.Comparison.Threshold
import SiteTrial.Notice
import SiteTrial.Table
/-!
# Reports

* `ThresholdReport`, `ScenarioReport`, `Report` : what a run comes to;
* `analyzeSide` : breaches and score of one application's samples;
* `analyzeScenario` : both sides of a scenario, compared when both have samples.
-/

namespace SiteTrial

/-- Whether an application kept the bounds, and where it did not. -/
structure ThresholdReport where
  failures : List String := []

/-- No failure. -/
def ThresholdReport.passed (r : ThresholdReport) : Bool := r.failures.isEmpty

/-- What one scenario comes to. -/
structure ScenarioReport where
  scenario : String
  comparisons : List (Comparison Float) := []
  regressions : List (Comparison Float) := []
  recommendations : List String := []
  thresholdChecks : Table ThresholdReport := []
  scores : Table Float := []

/-- What a whole run comes to. -/
structure Report where
  generatedAt : String
  environment : String
  applications : Table String := []
  scenarios : List ScenarioReport := []
  summary : WinSummary := {}
  totalSamples : Int := 0
  failedIterations : Int := 0
  executionTime : Float := 0.0

namespace Report

/-- The comparisons of every scenario. -/
def comparisons (r : Report) : List (Comparison Float) := r.scenarios.flatMap (·.comparisons)

/-- The regressions of every scenario. -/
def regressions (r : Report) : List (Comparison Float) := r.scenarios.flatMap (·.regressions)

end Report

/-- The percentage for regressions where an analysis is given none. -/
def analysisRegressionThreshold : Float := 15.0

def analyzeSide (thresholds : Thresholds) (samples : List Sample) (report : ScenarioReport) :
    Told ScenarioReport :=
  match samples with
  | [] => return report
  | first :: _ => do
    let failures := (breaches thresholds samples).map Breach.text
    for failure in failures do
      Told.tell (.thresholdBreached report.scenario failure)
    let score ← Told.of (overallScore (samples.map Sample.readings))
    return { report with
      thresholdChecks := report.thresholdChecks.put first.application ⟨failures⟩
      scores := report.scores.put first.application score }

/-- Breaches, scores, comparisons, regressions and advice for the samples of one scenario. -/
def analyzeScenario (scenario : String) (baseline candidate : List Sample) (thresholds : Thresholds)
    (regressionThreshold : Float) : Told ScenarioReport := do
  let report ← analyzeSide thresholds baseline { scenario := scenario }
  let report ← analyzeSide thresholds candidate report
  if baseline.isEmpty || candidate.isEmpty then
    Told.tell (.notCompared scenario)
    return report
  let comparisons ← Told.of <|
    compareRuns scenario (baseline.map Sample.readings) (candidate.map Sample.readings)
  return { report with
    comparisons := comparisons
    regressions := regressions regressionThreshold comparisons
    recommendations := (advice comparisons).map Advice.text }

end SiteTrial
