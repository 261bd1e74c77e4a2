import SiteTrial.Report.Basic
import SiteTrial.Sample.File
import SiteTrial.Sample.Collector
import SiteTrial.Config.Basic
/-!
# Reports on recorded samples

Samples that were recorded against each application, in two files, compared without a run.

* `scenariosOfGroups` : the scenarios of both sides, those of the baseline first;
* `analyzeRecorded` : the reports of all scenarios;
* `Report.ofRecorded` : the whole report, if there are samples on both sides.
-/

namespace SiteTrial

def scenariosOfGroups (baseline candidate : Table (List Sample)) : List String :=
  baseline.keys ++ candidate.keys.filter fun name => !baseline.has name

/-- The reports of all scenarios of two groups of samples. -/
def analyzeGroups (threshold : Float) (baseline candidate : Table (List Sample)) :
    Told (List ScenarioReport) :=
  (scenariosOfGroups baseline candidate).mapM fun name =>
    analyzeScenario name ((baseline.get? name).getD []) ((candidate.get? name).getD []) {} threshold

/-- The reports of all scenarios of recorded samples. -/
def analyzeRecorded (threshold : Float) (baseline candidate : List Sample) :
    Told (List ScenarioReport) :=
  analyzeGroups threshold (groupByScenario baseline) (groupByScenario candidate)

/-- The report on recorded samples, if there are some on both sides. The first of each side say who
was measured, and where. -/
def Report.ofRecorded (date : String) (threshold : Float) (baseline candidate : List Sample) :
    Told (Option Report) :=
  match baseline, candidate with
  | b :: _, c :: _ => do
    let scenarios ← analyzeRecorded threshold baseline candidate
    return some {
      generatedAt := date
      environment := b.environment
      applications := [(Side.baseline.key, b.application), (Side.candidate.key, c.application)]
      scenarios := scenarios
      summary := .of (scenarios.flatMap (·.comparisons))
      totalSamples := baseline.length + candidate.length }
  | _, _ => return none

end SiteTrial
