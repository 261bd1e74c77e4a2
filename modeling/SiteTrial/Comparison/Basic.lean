import SiteTrial.Sample.Readings
/-!
# Comparing two applications

* `Verdict` : which side is better, with the words of reports;
* `improvement` : by how many percent the candidate is faster;
* `judge` : the verdict on two means, a tie within five percent of their average;
* `Comparison`, `compareRuns` : one comparison for each metric measured on both sides;
* `regressions` : the comparisons that the candidate loses clearly;
* `WinSummary.of` : how many metrics each side wins, and the winner over all.
-/

namespace SiteTrial

open Arithmetic

inductive Verdict where
  | baseline
  | candidate
  | tie
  /-- A word of another judge; it counts for neither side. -/
  | other (word : String)
deriving Repr, DecidableEq

namespace Verdict

/-- The word for a verdict in reports. -/
def word : Verdict → String
  | .baseline => "baseline"
  | .candidate => "candidate"
  | .tie => "tie"
  | .other word => word

def ofWord (s : String) : Verdict :=
  if s = "baseline" then .baseline
  else if s = "candidate" then .candidate
  else if s = "tie" then .tie
  else .other s

end Verdict

variable {α : Type} [Arithmetic α]

/-- The percentage by which the candidate's mean is below the baseline's, to two decimals. -/
def improvement (baseline candidate : α) : Except Fault α :=
  if eq baseline (ofInt 0) then .ok (ofInt 0)
  else round2 ((baseline - candidate) / baseline * ofInt 100)

/-- Two means closer than this share of their average are equivalent. -/
def tieShare : α := decimal 5 2

/-- The verdict on two means, a lower one being better unless told otherwise. -/
def judge (lowerIsBetter : Bool) (baseline candidate : α) : Verdict :=
  let average := (baseline + candidate) / ofInt 2
  if eq average (ofInt 0) || lt (abs (baseline - candidate) / average) tieShare then .tie
  else if lowerIsBetter then (if lt baseline candidate then .baseline else .candidate)
  else if lt candidate baseline then .baseline
  else .candidate

structure Comparison (α : Type) where
  scenario : String
  metric : String
  baseline : Summary α
  candidate : Summary α
  /-- Positive when the candidate is faster. -/
  improvement : α
  significant : Bool
  verdict : Verdict
deriving DecidableEq

/-- The comparison of the measured values of one metric. -/
def compareValues (scenario : String) (m : Metric) (xs ys : List α) :
    Except Failure (Comparison α) := do
  let baseline ← summarize xs
  let candidate ← summarize ys
  let percent ← (improvement baseline.mean candidate.mean).mapError .fault
  let significant ← isSignificant xs ys
  return {
    scenario := scenario
    metric := m.name
    baseline := baseline
    candidate := candidate
    improvement := percent
    significant := significant
    verdict := judge true baseline.mean candidate.mean }

/-- The comparison of one metric, if both sides have measured it. -/
def compareMetric (scenario : String) (baseline candidate : List (Readings α)) (m : Metric) :
    Except Failure (Option (Comparison α)) :=
  let xs := measured m baseline
  let ys := measured m candidate
  if xs.isEmpty || ys.isEmpty then .ok none
  else (compareValues scenario m xs ys).map some

def compareRuns (scenario : String) (baseline candidate : List (Readings α)) :
    Except Failure (List (Comparison α)) := do
  return (← Metric.all.mapM (compareMetric scenario baseline candidate)).filterMap id

/-- Whether the candidate loses significantly and by more than a percentage. -/
def Comparison.isRegression (threshold : α) (c : Comparison α) : Bool :=
  c.verdict == .baseline && lt threshold (abs c.improvement) && c.significant

def regressions (threshold : α) (cs : List (Comparison α)) : List (Comparison α) :=
  cs.filter (Comparison.isRegression threshold)

/-- The percentage for regressions where none is given. -/
def defaultRegressionThreshold : α := ofInt 10

/-- How many metrics each side wins. -/
structure WinSummary where
  baselineWins : Nat := 0
  candidateWins : Nat := 0
  ties : Nat := 0
deriving Repr, DecidableEq

namespace WinSummary

/-- The number of metrics. -/
def total (w : WinSummary) : Nat := w.baselineWins + w.candidateWins + w.ties

/-- The side that wins more metrics. -/
def overall (w : WinSummary) : Verdict :=
  if w.baselineWins > w.candidateWins then .baseline
  else if w.candidateWins > w.baselineWins then .candidate
  else .tie

/-- Counts verdicts; what is for neither side is a tie. -/
def ofVerdicts (vs : List Verdict) : WinSummary :=
  let b := vs.countP (· == .baseline)
  let c := vs.countP (· == .candidate)
  ⟨b, c, vs.length - b - c⟩

/-- Counts the verdicts of comparisons. -/
def of (cs : List (Comparison α)) : WinSummary := ofVerdicts (cs.map (·.verdict))

end WinSummary

end SiteTrial
