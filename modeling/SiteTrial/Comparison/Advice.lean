import SiteTrial.Comparison.Basic
import SiteTrial.Decimal.Layout
import SiteTrial.Text.Casing
/-!
# Advice drawn from comparisons

* `Advice` : a piece of advice; `adviceOn` are those for one comparison, `advice` for all;
* `Advice.text` : its wording;
* `quantity` : a measurement with its unit, a shift score having none.
-/

namespace SiteTrial

open Arithmetic

inductive Advice (α : Type) where
  /-- The candidate is faster by a percentage. -/
  | faster (metric : String) (percent candidate baseline : α)
  /-- The candidate is slower by a percentage. -/
  | slower (metric : String) (percent candidate baseline : α)
  | speedUpLargestPaint
  | avoidLayoutShifts
  | speedUpFirstByte
deriving Repr, DecidableEq

section

variable {α : Type} [Arithmetic α]

/-- Advice on the difference, from more than ten percent on. -/
def adviceOnDifference (c : Comparison α) : List (Advice α) :=
  if c.verdict == .candidate && lt (ofInt 10) c.improvement then
    [.faster c.metric (abs c.improvement) c.candidate.mean c.baseline.mean]
  else if c.verdict == .baseline && lt c.improvement (ofInt (-10)) then
    [.slower c.metric (abs c.improvement) c.candidate.mean c.baseline.mean]
  else []

/-- Advice on the candidate's own mean, where that is poor. -/
def adviceOnMean (c : Comparison α) : List (Advice α) :=
  if c.metric = "lcp" then
    if lt (ofInt 2500) c.candidate.mean then [.speedUpLargestPaint] else []
  else if c.metric = "cls" then
    if lt (decimal 1 1) c.candidate.mean then [.avoidLayoutShifts] else []
  else if c.metric = "ttfb" then
    if lt (ofInt 600) c.candidate.mean then [.speedUpFirstByte] else []
  else []

def adviceOn (c : Comparison α) : List (Advice α) := adviceOnDifference c ++ adviceOnMean c

/-- The advice on all comparisons, in their order. -/
def advice (cs : List (Comparison α)) : List (Advice α) := cs.flatMap adviceOn

end

def quantity (metric : String) (x : Float) : String :=
  Decimal.brief x ++ if metric = "cls" then "" else "ms"

/-- The wording of a piece of advice. -/
def Advice.text : Advice Float → String
  | .faster metric percent candidate baseline =>
    s!"{Text.upper metric}: candidate is {Decimal.brief percent}% faster " ++
      s!"({quantity metric candidate} vs {quantity metric baseline})"
  | .slower metric percent candidate baseline =>
    s!"WARNING {Text.upper metric}: candidate is {Decimal.brief percent}% slower " ++
      s!"({quantity metric candidate} vs {quantity metric baseline})"
  | .speedUpLargestPaint =>
    "Optimize LCP: consider lazy-loading images and speeding up server rendering"
  | .avoidLayoutShifts =>
    "Reduce CLS: set explicit image dimensions and reserve space for dynamic content"
  | .speedUpFirstByte =>
    "Improve TTFB: optimize server response time and consider a CDN"

end SiteTrial
