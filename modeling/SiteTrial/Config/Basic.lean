import SiteTrial.Scenario.TestData
import SiteTrial.Comparison.Threshold
/-!
# Configurations

* `Side`, `Stage` : the two applications and the two environments;
* `Application`, `Environment`, `Execution` : what is configured for each, and for the run;
* `Config` : all of it; `Config.current` and `Config.workerCount` are what a run uses.
-/

namespace SiteTrial

/-- The two applications that are compared. -/
inductive Side where
  | baseline
  | candidate
deriving Repr, DecidableEq

namespace Side

/-- Both sides, in the order of reports. -/
def all : List Side := [.baseline, .candidate]

/-- The key of a side in documents. -/
def key : Side → String
  | .baseline => "baseline"
  | .candidate => "candidate"

/-- What the names of a side's environment variables begin with. -/
def settingStem : Side → String
  | .baseline => "BASELINE"
  | .candidate => "CANDIDATE"

end Side

inductive Stage where
  | pre
  | pro
deriving Repr, DecidableEq

namespace Stage

/-- Both environments, in the order of documents. -/
def all : List Stage := [.pre, .pro]

/-- The key of an environment in documents. -/
def key : Stage → String
  | .pre => "pre"
  | .pro => "pro"

/-- The environment of a key. -/
def ofKey? (k : String) : Option Stage := all.find? fun s => s.key = k

end Stage

structure Application where
  name : String
  baseUrl : String
  technology : String := ""
  credentials : Option Credentials := none
deriving Repr, DecidableEq

/-- How the network is slowed down; minus one leaves a throughput as it is. -/
structure NetworkConditions where
  offline : Bool := false
  downloadThroughput : Float := -1.0
  uploadThroughput : Float := -1.0
  latency : Float := 0.0
deriving DecidableEq

structure Environment where
  name : String
  parallelInstances : Nat := 1
  iterations : Nat := 1
  network : Option NetworkConditions := none
deriving DecidableEq

/-- What is configured for a run itself. -/
structure Execution where
  scenarios : List String := []
  outputPath : String := "./reports"
  thresholds : Thresholds := {}
  regressionThreshold : Float := 15.0
  /-- The pause between two iterations in milliseconds. -/
  iterationDelay : Nat := 2000
  headless : Bool := true

/-- The configuration of a run. -/
structure Config where
  baseline : Application
  candidate : Application
  pre : Environment
  pro : Environment
  execution : Execution := {}
  stage : Stage := .pre
  workers : Option Nat := none

namespace Config

def application (c : Config) : Side → Application
  | .baseline => c.baseline
  | .candidate => c.candidate

def environment (c : Config) : Stage → Environment
  | .pre => c.pre
  | .pro => c.pro

/-- The environment that the run uses. -/
def current (c : Config) : Environment := c.environment c.stage

/-- How many workers may be at work together. -/
def workerCount (c : Config) : Nat := c.workers.getD c.current.parallelInstances

end Config

end SiteTrial
