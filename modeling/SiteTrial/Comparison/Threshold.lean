import SiteTrial.Sample.Basic
import SiteTrial.Value.Number
/-!
# Thresholds

* `Bounded` : the five bounded measurements;
* `Thresholds` : an upper bound for each; `Thresholds.merged` overrides some of them;
* `Breach` : a sample's measurement above its bound; `breaches` are those of several samples, sample
  by sample and in the order of the measurements;
* `Breach.text` : its wording.
-/

namespace SiteTrial

/-- The measurements with an upper bound. -/
inductive Bounded where
  | lcp
  | fid
  | cls
  | ttfb
  | totalLoadTime
deriving Repr, DecidableEq

namespace Bounded

/-- Every bounded measurement, in the order of failures. -/
def all : List Bounded := [.lcp, .fid, .cls, .ttfb, .totalLoadTime]

/-- The bounded measurement that a key of overrides names. -/
def ofKey? (k : String) : Option Bounded :=
  if k = "lcp" then some .lcp
  else if k = "fid" then some .fid
  else if k = "cls" then some .cls
  else if k = "ttfb" then some .ttfb
  else if k = "total_load_time" ∨ k = "totalLoadTime" then some .totalLoadTime
  else none

/-- The measurement's name in failures. -/
def label : Bounded → String
  | .lcp => "LCP"
  | .fid => "FID"
  | .cls => "CLS"
  | .ttfb => "TTFB"
  | .totalLoadTime => "Total Load Time"

/-- The measurement's unit. -/
def unit : Bounded → String
  | .cls => ""
  | _ => "ms"

/-- The measurement of a sample. -/
def value (b : Bounded) (s : Sample) : Float :=
  match b with
  | .lcp => s.vitals.lcp
  | .fid => s.vitals.fid
  | .cls => s.vitals.cls
  | .ttfb => s.timings.ttfb
  | .totalLoadTime => s.timings.totalPageLoadTime

end Bounded

/-- An upper bound for each bounded measurement. -/
structure Thresholds where
  lcp : Float := 2500.0
  fid : Float := 100.0
  cls : Float := 0.1
  ttfb : Float := 600.0
  totalLoadTime : Float := 5000.0

namespace Thresholds

/-- The bound of a measurement. -/
def bound (t : Thresholds) : Bounded → Float
  | .lcp => t.lcp
  | .fid => t.fid
  | .cls => t.cls
  | .ttfb => t.ttfb
  | .totalLoadTime => t.totalLoadTime

/-- The thresholds with one bound replaced. -/
def set (t : Thresholds) (b : Bounded) (x : Float) : Thresholds :=
  match b with
  | .lcp => { t with lcp := x }
  | .fid => { t with fid := x }
  | .cls => { t with cls := x }
  | .ttfb => { t with ttfb := x }
  | .totalLoadTime => { t with totalLoadTime := x }

/-- The measurement that a key names. -/
def keyOf? : Scalar → Option Bounded
  | .text k => Bounded.ofKey? k
  | _ => none

/-- One override: keys that name no bound and values that are no numbers are left out. -/
def override (t : Thresholds) (k : Scalar) (v : Value) : Except Fault Thresholds :=
  match keyOf? k with
  | none => .ok t
  | some b => v.numeric?.map fun
    | some x => t.set b x
    | none => t

/-- The thresholds with overrides written over them in order. -/
def merged (t : Thresholds) (overrides : Fields) : Except Fault Thresholds :=
  overrides.foldlM (fun t e => t.override e.1 e.2) t

end Thresholds

structure Breach where
  application : String
  iteration : Int
  measurement : Bounded
  value : Float
  bound : Float

namespace Breach

/-- The wording of a breach. -/
def text (b : Breach) : String :=
  let unit := b.measurement.unit
  s!"[{b.application} #{b.iteration}] {b.measurement.label} {Decimal.brief b.value}{unit} " ++
    s!"exceeds threshold {Decimal.brief b.bound}{unit}"

end Breach

/-- The breach of one bound by a sample, if there is one. -/
def breach? (t : Thresholds) (s : Sample) (b : Bounded) : Option Breach :=
  if t.bound b < b.value s then some ⟨s.application, s.iteration, b, b.value s, t.bound b⟩ else none

def breachesOf (t : Thresholds) (s : Sample) : List Breach := Bounded.all.filterMap (breach? t s)

/-- The breaches of several samples. -/
def breaches (t : Thresholds) (ss : List Sample) : List Breach := ss.flatMap (breachesOf t)

end SiteTrial
