import SiteTrial.Sample.Basic
import SiteTrial.Statistics.Summary
/-!
# The readings that are compared and scored

* `Metric` : the nine compared measurements in their order, with names;
* `Readings` : one run's measurements, in any arithmetic; `Sample.readings` are those of a sample;
* `measured` : the values of a metric over several runs; zero and below mean not captured;
* `Readings.score`, `overallScore` : the weighted score of a run between 0 and 100, and its mean.
-/

namespace SiteTrial

open Arithmetic

inductive Metric where
  | lcp
  | fid
  | inp
  | cls
  | ttfb
  | fcp
  | tti
  | totalPageLoadTime
  | domContentLoaded
deriving Repr, DecidableEq

namespace Metric

/-- Every metric, in the order of reports. -/
def all : List Metric :=
  [.lcp, .fid, .inp, .cls, .ttfb, .fcp, .tti, .totalPageLoadTime, .domContentLoaded]

/-- The name of a metric in reports. -/
def name : Metric → String
  | .lcp => "lcp"
  | .fid => "fid"
  | .inp => "inp"
  | .cls => "cls"
  | .ttfb => "ttfb"
  | .fcp => "fcp"
  | .tti => "tti"
  | .totalPageLoadTime => "totalPageLoadTime"
  | .domContentLoaded => "domContentLoaded"

def ofName? (s : String) : Option Metric := all.find? fun m => m.name = s

theorem mem_all (m : Metric) : m ∈ all := by cases m <;> decide

theorem name_injective {a b : Metric} (h : a.name = b.name) : a = b := by
  revert h; cases a <;> cases b <;> decide

end Metric

structure Readings (α : Type) where
  lcp : α
  fid : α
  inp : α
  cls : α
  ttfb : α
  fcp : α
  tti : α
  totalPageLoadTime : α
  domContentLoaded : α
deriving Repr, DecidableEq

namespace Readings

variable {α : Type}

/-- The measurement of a metric. -/
def get (r : Readings α) : Metric → α
  | .lcp => r.lcp
  | .fid => r.fid
  | .inp => r.inp
  | .cls => r.cls
  | .ttfb => r.ttfb
  | .fcp => r.fcp
  | .tti => r.tti
  | .totalPageLoadTime => r.totalPageLoadTime
  | .domContentLoaded => r.domContentLoaded

variable [Arithmetic α]

/-- What is left of a hundred points, at least none. -/
def points (lost : α) : α :=
  let left := ofInt 100 - lost
  if lt (ofInt 0) left then left else ofInt 0

/-- The weighted score: thirty points go to `lcp`, twenty to `fid` and `cls`, fifteen to the others. -/
def score (r : Readings α) : α :=
  ofInt 0
    + decimal 3 1 * points (r.lcp / ofInt 25)
    + decimal 2 1 * points (r.fid / ofInt 1)
    + decimal 15 2 * points (r.ttfb / ofInt 6)
    + decimal 15 2 * points (r.tti / ofInt 35)
    + decimal 2 1 * points (r.cls * ofInt 1000)

end Readings

/-- The measurements of a sample. -/
def Sample.readings (s : Sample) : Readings Float :=
  { lcp := s.vitals.lcp
    fid := s.vitals.fid
    inp := s.vitals.inp
    cls := s.vitals.cls
    ttfb := s.timings.ttfb
    fcp := s.timings.fcp
    tti := s.timings.tti
    totalPageLoadTime := s.timings.totalPageLoadTime
    domContentLoaded := s.timings.domContentLoaded }

variable {α : Type} [Arithmetic α]

def measured (m : Metric) (runs : List (Readings α)) : List α :=
  (runs.map (·.get m)).filter (lt (ofInt 0))

/-- The mean score of several runs, to two decimals. -/
def overallScore (runs : List (Readings α)) : Except Failure α :=
  if runs.isEmpty then .error (.empty .score)
  else (round2 (meanOf (runs.map Readings.score))).mapError .fault

end SiteTrial
