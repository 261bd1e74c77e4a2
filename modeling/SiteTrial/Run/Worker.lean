import SiteTrial.Run.Host
import SiteTrial.Sample.Collector
import SiteTrial.Sample.File
import SiteTrial.Scenario.Library
/-!
# Workers

A run has one worker for each scenario and application. A worker asks for its scenario, waits for a
permit, opens a session, runs all iterations in it one after another, closes it and gives the permit
back. A failure that the program knows costs an iteration or, before the first of them, all of them; a
fault breaks the worker, and with it the run.

* `Plan` : what is to be run;
* `Phase`, `Worker` : what a worker does next;
* `Shared` : what all workers share;
* `Worker.act` : one indivisible action of a worker; nothing another worker does comes between a
  sample's measuring, its collection and its line in the sample file.
-/

namespace SiteTrial

structure Plan where
  config : Config
  library : Library
  /-- The scenarios to run; one that is named twice is run twice. -/
  names : List String
  /-- How often each scenario is run against each application. -/
  iterations : Int
  /-- The file that every sample is appended to. -/
  samplesPath : Option String := none

inductive Phase where
  /-- Asks for its scenario. -/
  | waiting
  /-- Takes a permit. -/
  | queued (s : Scenario)
  /-- Opens a session. -/
  | admitted (s : Scenario)
  /-- Runs an iteration; so many before it failed. -/
  | iterating (s : Scenario) (session iteration failed : Nat)
  /-- Pauses behind an iteration. -/
  | resting (s : Scenario) (session iteration failed : Nat)
  /-- Closes its session, after iterations of which some failed, or after a fault. -/
  | closing (session : Nat) (outcome : Except Failure Nat)
  /-- Nothing more: so many iterations failed. -/
  | finished (failed : Int)
  /-- Nothing more: a fault. -/
  | broken (f : Failure)

namespace Phase

/-- Whether a worker in this phase holds a permit. -/
def holdsPermit : Phase → Bool
  | .admitted _ | .iterating .. | .resting .. | .closing .. => true
  | _ => false

/-- Whether a worker in this phase has a session. -/
def hasSession : Phase → Bool
  | .iterating .. | .resting .. | .closing .. => true
  | _ => false

/-- Whether a worker in this phase is on its way to a session. -/
def isArriving : Phase → Bool
  | .waiting | .queued _ | .admitted _ => true
  | _ => false

/-- Whether a worker in this phase has come to its end. -/
def isOver : Phase → Bool
  | .finished _ | .broken _ => true
  | _ => false

end Phase

structure Worker where
  name : String
  side : Side
  phase : Phase := .waiting

structure Shared (η : Type) where
  host : η
  /-- The permits that are free. -/
  permits : Nat
  /-- How many sessions are open. -/
  inUse : Nat := 0
  /-- How many sessions were open together at most. -/
  peak : Nat := 0
  collector : Collector := {}
  files : Files := {}
  notices : List Notice := []
  /-- The first fault that broke a worker. -/
  fault : Option Failure := none

namespace Shared

variable {η : Type}

/-- After a request to the host. -/
def after {α : Type} (s : Shared η) (t : Turn η α) : Shared η :=
  { s with host := t.host, notices := s.notices ++ t.notices }

/-- With one more notice. -/
def tell (s : Shared η) (n : Notice) : Shared η := { s with notices := s.notices ++ [n] }

/-- With one more free permit. -/
def release (s : Shared η) : Shared η := { s with permits := s.permits + 1 }

/-- With one more open session. -/
def enter (s : Shared η) : Shared η :=
  { s with inUse := s.inUse + 1, peak := max s.peak (s.inUse + 1) }

/-- With one session less. -/
def leave (s : Shared η) : Shared η := { s with inUse := s.inUse - 1 }

/-- With a fault, unless there was one before. -/
def breakWith (s : Shared η) (f : Failure) : Shared η := { s with fault := s.fault.or (some f) }

end Shared

namespace Plan

/-- The phase behind an iteration that ended, with or without a pause. -/
def following (p : Plan) (s : Scenario) (session iteration failed : Nat) (pausing : Bool) : Phase :=
  if (iteration : Int) < p.iterations then
    if pausing && p.config.execution.iterationDelay != 0 then
      .resting s session iteration failed
    else .iterating s session (iteration + 1) failed
  else .closing session (.ok failed)

/-- The phase of a worker whose session has just been opened. -/
def beginning (p : Plan) (s : Scenario) (session : Nat) : Phase :=
  if 1 ≤ p.iterations then .iterating s session 1 0 else .closing session (.ok 0)

/-- Puts a sample into the sample file, where there is one. -/
def keep (p : Plan) (sample : Sample) : Filing Unit :=
  match p.samplesPath with
  | none => return ()
  | some path => appendSample path sample

/-- The collector and the files with one more sample; the collector keeps it even if no file can. -/
def gather {η : Type} (p : Plan) (s : Shared η) (sample : Sample) : Except Failure Unit × Shared η :=
  match s.collector.add sample with
  | .error f => (.error f, s)
  | .ok c =>
    let (kept, files) := s.files.apply (p.keep sample)
    (kept.mapError .fault, { s with collector := c, files := files })

end Plan

namespace Worker

variable {η : Type} [Host η]

def application (w : Worker) (p : Plan) : Application := p.config.application w.side

/-- Where the sample of an iteration comes from. -/
def origin (w : Worker) (p : Plan) (s : Scenario) (iteration : Nat) : Origin :=
  { environment := p.config.stage.key, application := (w.application p).name
    scenario := s.name, iteration := iteration }

/-- Asks for the scenario. -/
def ask (p : Plan) (w : Worker) (s : Shared η) : Phase × Shared η :=
  let (found, notices) := (p.library.get w.name).outcome
  let s := { s with notices := s.notices ++ notices }
  match found with
  | .ok scenario => (.queued scenario, s)
  | .error f =>
    if f.isOwn then
      (.finished p.iterations, s.tell (.scenarioRefused (w.application p).name w.name f.message))
    else (.broken f, s.breakWith f)

/-- Opens a session. -/
def enter (p : Plan) (w : Worker) (scenario : Scenario) (s : Shared η) : Phase × Shared η :=
  let t := Host.openSession s.host
  let s := s.after t
  match t.outcome with
  | .ok session => (p.beginning scenario session, s.enter)
  | .error f =>
    if f.isOwn then
      (.finished p.iterations,
        s.release.tell (.sessionFailed (w.application p).name w.name f.message))
    else (.broken f, s.release.breakWith f)

/-- Runs an iteration. -/
def iterate (p : Plan) (w : Worker) (scenario : Scenario) (session iteration failed : Nat)
    (s : Shared η) : Phase × Shared η :=
  let t := Host.perform session ⟨w.application p, p.library.testData, scenario⟩ s.host
  let s := s.after t
  match t.outcome with
  | .ok m =>
    match p.gather s (m.sample (w.origin p scenario iteration)) with
    | (.ok (), s) => (p.following scenario session iteration failed true, s)
    | (.error f, s) => (.closing session (.error f), s)
  | .error f =>
    if f.isOwn then
      (p.following scenario session iteration (failed + 1) false,
        s.tell (.iterationFailed (w.application p).name scenario.name iteration p.iterations.toNat
          f.message))
    else (.closing session (.error f), s)

/-- Pauses behind an iteration. -/
def rest (p : Plan) (w : Worker) (scenario : Scenario) (session iteration failed : Nat)
    (s : Shared η) : Phase × Shared η :=
  let t := Host.pause session p.config.execution.iterationDelay s.host
  let s := s.after t
  match t.outcome with
  | .ok () => (.iterating scenario session (iteration + 1) failed, s)
  | .error f =>
    if f.isOwn then
      (.iterating scenario session (iteration + 1) failed,
        s.tell (.pauseFailed (w.application p).name scenario.name f.message))
    else (.closing session (.error f), s)

/-- How a worker ends whose session was closed. A failure to close takes the place of a fault. -/
def ending (p : Plan) (w : Worker) (outcome : Except Failure Nat) (closed : Except Failure Unit)
    (s : Shared η) : Phase × Shared η :=
  match closed, outcome with
  | .ok (), .ok failed => (.finished failed, s)
  | .ok (), .error f => (.broken f, s.breakWith f)
  | .error f, outcome =>
    if f.isOwn then
      (.finished (match outcome with
          | .ok failed => failed
          | .error _ => p.iterations),
        s.tell (.sessionFailed (w.application p).name w.name f.message))
    else (.broken f, s.breakWith f)

/-- Closes the session and gives the permit back. -/
def close (p : Plan) (w : Worker) (session : Nat) (outcome : Except Failure Nat) (s : Shared η) :
    Phase × Shared η :=
  let t := Host.closeSession session s.host
  w.ending p outcome t.outcome (s.after t).leave.release

/-- Whether a worker can act: it has not come to its end, and does not lack a permit. -/
def canAct (w : Worker) (s : Shared η) : Bool :=
  match w.phase with
  | .queued _ => 0 < s.permits
  | phase => !phase.isOver

/-- One action of a worker that can act. -/
def act (p : Plan) (w : Worker) (s : Shared η) : Phase × Shared η :=
  match w.phase with
  | .waiting => w.ask p s
  | .queued scenario => (.admitted scenario, { s with permits := s.permits - 1 })
  | .admitted scenario => w.enter p scenario s
  | .iterating scenario session iteration failed => w.iterate p scenario session iteration failed s
  | .resting scenario session iteration failed => w.rest p scenario session iteration failed s
  | .closing session outcome => w.close p session outcome s
  | phase => (phase, s)

end Worker

end SiteTrial
