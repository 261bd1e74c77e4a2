import SiteTrial.Statistics.Arithmetic
import SiteTrial.Statistics.Sorted
/-!
# Summaries of measurements

* `round2` : two decimals, a half upwards;
* `interpolate` : the percentile of values in rising order, on the line between its two neighbours;
* `percentile` : the same of values in any order;
* `Summary`, `summarize` : mean, median, high percentiles, range and spread, each to two decimals;
* `isSignificant` : the pooled two-sample test against the fixed critical value 2.
-/

namespace SiteTrial

open Arithmetic

variable {α : Type} [Arithmetic α]

def round2 (x : α) : Except Fault α := do
  let n ← floor (x * ofInt 100 + decimal 5 1)
  return ofInt n / ofInt 100

/-- The `i`-th value, or the last one behind the end. -/
def nth (first : α) (rest : List α) (i : Nat) : α :=
  ((first :: rest)[i]?).getD ((first :: rest).getLast (by simp))

/-- The percentile `p` of the rising values `first :: rest`, on the line between two of them. -/
def interpolate (first : α) (rest : List α) (p : α) : Except Fault α := do
  let index := p / ofInt 100 * ofInt rest.length
  let lower ← floor index
  let upper ← ceil index
  if upper > rest.length then return nth first rest rest.length
  if lower < 0 then return first
  let weight := index - ofInt lower
  return nth first rest lower.toNat * (ofInt 1 - weight) + nth first rest upper.toNat * weight

/-- The values in rising order. -/
def rising (vs : List α) : List α := Sorted.sorted lt vs

/-- The sum from left to right. -/
def total (vs : List α) : α := vs.foldl (· + ·) (ofInt 0)

/-- The percentile `p` of values in any order. -/
def percentile (vs : List α) (p : α) : Except Failure α :=
  match rising vs with
  | [] => .error (.empty .percentile)
  | first :: rest => (interpolate first rest p).mapError .fault

/-- What a list of measurements comes to, each number to two decimals. -/
structure Summary (α : Type) where
  mean : α
  median : α
  p95 : α
  p99 : α
  min : α
  max : α
  standardDeviation : α
  variance : α
deriving Repr, DecidableEq

/-- The arithmetic mean of `count` values with the given sum. -/
def meanOf (vs : List α) : α := total vs / ofInt vs.length

/-- The mean of the squared distances from `mean`. -/
def varianceAround (mean : α) (vs : List α) : Except Fault α := do
  let squares ← vs.mapM fun v => square (v - mean)
  return total squares / ofInt vs.length

def Summary.ofRising (first : α) (rest : List α) : Except Fault (Summary α) := do
  let ordered := first :: rest
  let mean := meanOf ordered
  let variance ← varianceAround mean ordered
  return {
    mean := ← round2 mean
    median := ← round2 (← interpolate first rest (ofInt 50))
    p95 := ← round2 (← interpolate first rest (ofInt 95))
    p99 := ← round2 (← interpolate first rest (ofInt 99))
    min := ← round2 first
    max := ← round2 (nth first rest rest.length)
    standardDeviation := ← round2 (← root variance)
    variance := ← round2 variance }

/-- The summary of measurements in any order. -/
def summarize (vs : List α) : Except Failure (Summary α) :=
  match rising vs with
  | [] => .error (.empty .summary)
  | first :: rest => (Summary.ofRising first rest).mapError .fault

/-- The value that a difference in standard errors has to exceed. -/
def criticalValue : α := ofInt 2

/-- The standard error of the difference of two means, the two variances pooled. -/
def standardError (n₁ n₂ : Nat) (v₁ v₂ : α) : Except Fault α :=
  let pooled := (ofInt (n₁ - 1) * v₁ + ofInt (n₂ - 1) * v₂) / ofInt (n₁ + n₂ - 2)
  root (pooled * (ofInt 1 / ofInt n₁ + ofInt 1 / ofInt n₂))

/-- Whether a difference of means counts, given the standard error; without spread any does. -/
def exceedsError (difference error : α) : Bool :=
  if eq error (ofInt 0) then lt (ofInt 0) difference
  else lt criticalValue (difference / error)

/-- Whether two lists of measurements differ; fewer than two on a side never do. -/
def isSignificant (xs ys : List α) : Except Failure Bool :=
  if xs.length < 2 ∨ ys.length < 2 then .ok false
  else do
    let a ← summarize xs
    let b ← summarize ys
    let error ← (standardError xs.length ys.length a.variance b.variance).mapError .fault
    return exceedsError (abs (a.mean - b.mean)) error

end SiteTrial
