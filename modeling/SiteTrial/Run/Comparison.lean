import SiteTrial.Run.Schedule
import SiteTrial.Report.Basic
/-!
# Whole runs

* `analyze` : the report of every collected scenario;
* `Request`, `Request.plan`, `Request.limit` : what is asked of a run, and what the configuration adds;
* `Run.conclude` : the report of a run in which every worker has come to its end;
* `compareSites` : the whole run, with what it leaves behind.
-/

namespace SiteTrial

/-- The report of one collected scenario. -/
def analyzeCollected (c : Collector) (l : Library) (config : Config) (scenario : String) :
    Told ScenarioReport := do
  let baseline ← Told.of (c.samplesFor config.baseline.name scenario)
  let candidate ← Told.of (c.samplesFor config.candidate.name scenario)
  let thresholds ← Told.ofFault (config.execution.thresholds.merged (l.expectedMetrics scenario))
  analyzeScenario scenario baseline candidate thresholds config.execution.regressionThreshold

/-- The reports of every collected scenario, in the order of their first samples. -/
def analyze (c : Collector) (l : Library) (config : Config) : Told (List ScenarioReport) := do
  (← Told.of c.scenarios).mapM (analyzeCollected c l config)

/-- What is asked of a run; what is not said comes from the configuration. -/
structure Request where
  scenarios : List String := []
  iterations : Option Int := none
  workers : Option Int := none
  samplesPath : Option String := none

namespace Request

/-- A number that is given and not zero, or another one. -/
def numberOr (given : Option Int) (other : Nat) : Int :=
  match given with
  | none => other
  | some n => if n = 0 then other else n

/-- The scenarios of a run: those that are asked for, else those of the configuration, else all. -/
def names (q : Request) (config : Config) (l : Library) : List String :=
  if !q.scenarios.isEmpty then q.scenarios
  else if !config.execution.scenarios.isEmpty then config.execution.scenarios
  else l.names

/-- What is to be run. -/
def plan (q : Request) (config : Config) (l : Library) : Plan :=
  { config := config, library := l, names := q.names config l
    iterations := numberOr q.iterations config.current.iterations
    samplesPath := q.samplesPath.filter fun path => !path.isEmpty }

/-- How many workers may have a session together. -/
def limit (q : Request) (config : Config) : Int := numberOr q.workers config.workerCount

end Request

namespace Run

variable {η : Type} [Host η]

/-- The report of a run that began at a time, once every worker has come to its end. -/
def conclude (p : Plan) (began : Nat) (r : Run η) : Told Report := do
  if let some f := r.shared.fault then throw f
  let collector := r.shared.collector.close
  let scenarios ← analyze collector p.library p.config
  return {
    generatedAt := Host.date r.shared.host
    environment := p.config.stage.key
    applications := Side.all.map fun side => (side.key, (p.config.application side).name)
    scenarios := scenarios
    summary := .of (scenarios.flatMap (·.comparisons))
    totalSamples := collector.size
    failedIterations := r.failed
    executionTime := milliseconds (Host.now r.shared.host - began) }

end Run

/-- What a run leaves behind. -/
structure Aftermath (η : Type) where
  report : Except Failure Report
  notices : List Notice := []
  files : Files
  /-- How many sessions were open together at most. -/
  peak : Nat := 0
  host : η

/-- Runs every scenario against both applications and compares them. -/
def compareSites {η : Type} [Host η] (config : Config) (l : Library) (q : Request) (files : Files)
    (host : η) : Aftermath η :=
  let p := q.plan config l
  if q.limit config < 0 then
    { report := .error (.fault .negativeLimit), files := files, host := host }
  else
    let r := (Run.start p (q.limit config).toNat files host).drive p
    let (report, notices) := (r.conclude p (Host.now host)).outcome
    { report := report, notices := r.shared.notices ++ notices, files := r.shared.files
      peak := r.shared.peak, host := r.shared.host }

end SiteTrial
