import SiteTrial.Page.Session
import SiteTrial.Sample.Timing
/-!
# Taking a sample

* `Vitals.ofEntry`, `mergeMarks` : the parts of a sample from what a page answers;
* `Sampling.vitals`, `Sampling.timings`, `Sampling.metrics` : asking the page for them;
* `Sampling.measure` : the whole measurement; all three questions are asked even if one fails;
* `Measured.sample` : a measurement with its origin is a sample;
* `Sampling.waitForPageLoad` : lets a page come to rest.
-/

namespace SiteTrial

/-- Where a sample comes from. -/
structure Origin where
  environment : String
  application : String
  scenario : String
  iteration : Int
deriving Repr, DecidableEq

/-- What is measured in a page. -/
structure Measured where
  timestamp : String
  url : String
  vitals : Vitals
  timings : Timings
  metrics : ApplicationMetrics
  userAgent : Value

def Measured.sample (m : Measured) (o : Origin) : Sample :=
  { timestamp := m.timestamp, url := m.url, environment := o.environment
    application := o.application, scenario := o.scenario, iteration := o.iteration
    vitals := m.vitals, timings := m.timings, metrics := m.metrics, userAgent := m.userAgent }

namespace Vitals

/-- The core vitals of what a page reports. -/
def ofEntry (entry : Value) : Except Fault Vitals := do
  let lcp ← (← entry.member "lcp").nonNegative
  let cls ← (← entry.member "cls").nonNegative
  let fid ← (← entry.member "fid").nonNegative
  let inp ← (← entry.member "inp").nonNegative
  return ⟨lcp, cls, fid, inp⟩

end Vitals

/-- The key under which a timing mark is filed. -/
def markKey (label : Scalar) : String := "snapshot_" ++ label.toText

/-- Adds timing marks to measured times; a time that is there already stays. -/
def mergeMarks (times : Table Float) : Fields → Except Fault (Table Float)
  | [] => .ok times
  | (label, v) :: marks => do
    let x ← v.toDouble
    mergeMarks (times.putNew (markKey label) x) marks

/-- The timing marks of what a page keeps. -/
def marksOf (state : Value) : Except Fault Fields := do
  match (← (state.orElse (.mapping [])).member "customTimings").orElse (.mapping []) with
  | .mapping marks => return marks
  | v => .error (.noMember v.kind "items")

namespace ApplicationMetrics

/-- What was recorded, with the timing marks that a page keeps. -/
def ofRecorder (r : Recorder) (state : Value) : Except Fault ApplicationMetrics := do
  let navigationTimes ← mergeMarks (recordedTimes r.navigation) (← marksOf state)
  return { navigationTimes := timeFields navigationTimes
           apiResponseTimes := timeFields (recordedTimes r.apiResponse)
           formProcessingTimes := timeFields (recordedTimes r.formProcessing) }

end ApplicationMetrics

namespace Sampling

variable {σ : Type} [Page σ]

/-- How many milliseconds the core vitals are given to settle, unless it is said. -/
def defaultSettle : Int := 1000

/-- How many milliseconds a page is given to load, unless it is said. -/
def defaultLoadLimit : Int := 30000

/-- Has the page keep timing marks. -/
def prepare : Browse σ Unit := Session.installInstrumentation

/-- The core vitals of the page. -/
def vitals (settle : Int) : Browse σ Vitals := do
  let raw ← Session.evaluate (.webVitals settle)
  Browse.ofFault (Vitals.ofEntry (raw.orElse (.mapping [])))

/-- The timings of the page. -/
def timings : Browse σ Timings := do
  let raw := (← Session.evaluate .timingEntries).orElse (.mapping [])
  let navigation ← Browse.ofFault (raw.member "navigation")
  if !navigation.isTruthy then Browse.tell (.noNavigationEntry (← Session.url))
  let paint ← Browse.ofFault (raw.member "paint")
  let resources ← Browse.ofFault (raw.member "resources")
  Browse.ofFault
    (Timings.ofEntries navigation (paint.orElse (.list [])) (resources.orElse (.list [])))

/-- What was recorded, with the timing marks of the page. -/
def metrics (r : Recorder) : Browse σ ApplicationMetrics := do
  Browse.ofFault (ApplicationMetrics.ofRecorder r (← Session.readState))

/-- Three computations of which each runs, whatever the others come to; the first failure counts. -/
def allThree {α β γ : Type} (a : Browse σ α) (b : Browse σ β) (c : Browse σ γ) :
    Browse σ (α × β × γ) := do
  let x ← a.attempt
  let y ← b.attempt
  let z ← c.attempt
  return (← Browse.of x, ← Browse.of y, ← Browse.of z)

/-- Measures the page, which was reached under an address. -/
def measure (settle : Int) (url : String) (r : Recorder) : Browse σ Measured := do
  let timestamp := (← get).date
  let userAgent ← Session.evaluate .userAgent
  let (vitals, timings, metrics) ← allThree (vitals settle) timings (metrics r)
  return { timestamp := timestamp, url := url, vitals := vitals, timings := timings
           metrics := metrics, userAgent := userAgent.orElse (.text "") }

/-- Puts the time of the page under a label. -/
def mark (label : String) : Browse σ Unit := Session.markTiming label

/-- Lets a page come to rest: no traffic, a complete document, and a second for what still moves. -/
def waitForPageLoad (limit : Int) : Browse σ Unit := do
  Session.waitForNetworkIdle limit
  Session.waitForFunction "() => document.readyState === 'complete'" limit
  Session.pause (.int 1000)

/-- The milliseconds that the page takes to fetch an address, minus one if it does not say. -/
def apiResponseTime (url : String) : Browse σ Float := do
  let v ← Session.evaluate (.apiTiming url)
  if v.isNull then return -1.0 else Browse.ofFault v.toDouble

end Sampling

end SiteTrial
