import SiteTrial.Report.Basic
/-!
# Printed reports

The form of a report for people.

* `Comparison.line`, `ScenarioReport.lines` : one comparison and one scenario;
* `Report.openingLines`, `Report.closingLines` : the whole, every scenario and then the summary, in two
  parts; the second begins with the counts, which can be too long to be printed.
-/

namespace SiteTrial

namespace Comparison

/-- One comparison; a star marks a significant one. -/
def line (baseline candidate : String) (c : Comparison Float) : String :=
  "  " ++ c.metric ++ ": " ++ baseline ++ " " ++ Decimal.written c.baseline.mean ++ " vs "
    ++ candidate ++ " " ++ Decimal.written c.candidate.mean ++ " ("
    ++ Decimal.signed c.improvement ++ "%) -> " ++ c.verdict.word
    ++ (if c.significant then " *" else "")

def regressionLine (c : Comparison Float) : String :=
  "  REGRESSION " ++ c.metric ++ ": candidate " ++ Decimal.written c.improvement.abs ++ "% slower"

end Comparison

namespace ScenarioReport

/-- The scores of the applications. -/
def scoreLines (r : ScenarioReport) : List String :=
  r.scores.map fun e => "Performance score (" ++ e.1 ++ "): " ++ Decimal.written e.2

/-- The applications that did not keep the bounds. -/
def failureLines (r : ScenarioReport) : List String :=
  (r.thresholdChecks.filter fun e => !e.2.passed).map fun e =>
    "  " ++ e.1 ++ ": " ++ toString e.2.failures.length ++ " threshold failure(s)"

def lines (baseline candidate : String) (r : ScenarioReport) : List String :=
  ["\n=== " ++ r.scenario ++ " ==="]
    ++ r.scoreLines
    ++ r.comparisons.map (Comparison.line baseline candidate)
    ++ r.regressions.map Comparison.regressionLine
    ++ r.recommendations.map ("  - " ++ ·)
    ++ r.failureLines

end ScenarioReport

namespace Report

def baselineName (r : Report) : String := (r.applications.get? "baseline").getD "baseline"

def candidateName (r : Report) : String := (r.applications.get? "candidate").getD "candidate"

/-- Every scenario, and the head of the summary. -/
def openingLines (r : Report) : List String :=
  r.scenarios.flatMap (ScenarioReport.lines r.baselineName r.candidateName)
    ++ ["\n--- Summary ---", "Environment: " ++ r.environment]

/-- Whether the counts of the summary have few enough digits to be printed. -/
def hasPrintableCounts (r : Report) : Bool := (Scalar.int r.failedIterations).isWritable

/-- The summary from the counts on. -/
def closingLines (r : Report) : List String :=
  ["Samples: " ++ toString r.totalSamples ++ " (failed iterations: "
      ++ toString r.failedIterations ++ ")",
    "Wins: " ++ r.baselineName ++ " " ++ toString r.summary.baselineWins ++ ", "
      ++ r.candidateName ++ " " ++ toString r.summary.candidateWins ++ ", ties "
      ++ toString r.summary.ties,
    "Overall winner: " ++ r.summary.overall.word]

end Report

end SiteTrial
