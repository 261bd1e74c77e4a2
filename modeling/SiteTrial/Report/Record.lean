import SiteTrial.Report.Basic
import SiteTrial.Json.Writer
import SiteTrial.Files
/-!
# Report records

The form of a report in files.

* `Summary.toValue`, `Comparison.toValue` : the records of a summary and a comparison;
* `Report.toValue` : the record of a report; its running time must be a finite number;
* `Report.text`, `Report.write` : the file of a report.
-/

namespace SiteTrial

namespace Summary

def toValue (s : Summary Float) : Value :=
  .record [("mean", .double s.mean), ("median", .double s.median), ("p95", .double s.p95),
    ("p99", .double s.p99), ("min", .double s.min), ("max", .double s.max),
    ("standard_deviation", .double s.standardDeviation), ("variance", .double s.variance)]

end Summary

namespace Comparison

def toValue (c : Comparison Float) : Value :=
  .record [("scenario", .text c.scenario), ("metric", .text c.metric),
    ("baseline", c.baseline.toValue), ("candidate", c.candidate.toValue),
    ("improvementPercent", .double c.improvement),
    ("significantDifference", .bool c.significant), ("winner", .text c.verdict.word)]

end Comparison

def textList (ts : List String) : Value := .list (ts.map Value.text)

def tableValue {β : Type} (f : β → Value) (t : Table β) : Value :=
  .record (t.map fun e => (e.1, f e.2))

namespace ThresholdReport

/-- The record of a threshold check. -/
def toValue (r : ThresholdReport) : Value :=
  .record [("passed", .bool r.passed), ("failures", textList r.failures)]

end ThresholdReport

namespace ScenarioReport

def toValue (r : ScenarioReport) : Value :=
  .record [("scenario", .text r.scenario),
    ("comparisons", .list (r.comparisons.map Comparison.toValue)),
    ("regressions", textList (r.regressions.map (·.metric))),
    ("recommendations", textList r.recommendations),
    ("thresholdChecks", tableValue ThresholdReport.toValue r.thresholdChecks),
    ("scores", tableValue Value.double r.scores)]

end ScenarioReport

namespace Report

def toValue (r : Report) : Except Fault Value := do
  let time ← integerOf .nearestEven r.executionTime
  return .record [("generatedAt", .text r.generatedAt),
    ("summary", .record [("environment", .text r.environment),
      ("applications", tableValue Value.text r.applications),
      ("totalScenarios", .int r.scenarios.length), ("totalSamples", .int r.totalSamples),
      ("failedIterations", .int r.failedIterations), ("executionTime", .int time),
      ("baselineWins", .int r.summary.baselineWins),
      ("candidateWins", .int r.summary.candidateWins), ("ties", .int r.summary.ties),
      ("overallWinner", .text r.summary.overall.word)]),
    ("scenarios", .list (r.scenarios.map ScenarioReport.toValue))]

def text (r : Report) : Except Fault String := do
  return Json.page (← r.toValue) ++ "\n"

/-- Writes the file of a report. -/
def write (r : Report) (path : String) : Filing Unit := Filing.write path r.text

end Report

end SiteTrial
