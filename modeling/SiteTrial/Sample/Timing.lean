import SiteTrial.Sample.Resource
import SiteTrial.Sample.Basic
import SiteTrial.Value.Parts
import SiteTrial.Value.Number
/-!
# Timings of a page load

The timings of a sample are spans between the moments that a page reports.

* `Value.nonNegative` : the double of a numeric value that is not below zero, else zero;
* `ResourceTiming.ofEntry` : the load of a resource;
* `firstPaint` : when the first content was painted;
* `Timings.ofEntries` : all of it; without a navigation entry only paint and resources remain.
-/

namespace SiteTrial

/-- A span of time, none if it is negative. -/
def spanOf (x : Float) : Float := if x < 0.0 then 0.0 else x

def Value.nonNegative (v : Value) : Except Fault Float :=
  match v with
  | .int n => if n < 0 then .ok 0.0 else doubleOfInt n
  | v => v.numericOrZero.map spanOf

/-- The number under a key of an entry, zero if there is none. -/
def entryNumber (entry : Value) (key : String) : Except Fault Float := do
  (← entry.member key).numericOrZero

/-- The time from one moment of an entry to another. -/
def entrySpan (entry : Value) (first last : String) : Except Fault Float := do
  let finish ← entryNumber entry last
  let start ← entryNumber entry first
  return spanOf (finish - start)

namespace ResourceTiming

/-- The load of a resource, from the entry that the page reports. -/
def ofEntry (entry : Value) : Except Fault ResourceTiming := do
  let name := (← entry.memberD "name" (.text "")).toText
  let kind ← ResourceKind.ofAddress name
  let duration ← entrySpan entry "startTime" "responseEnd"
  let size ← integerOf .towardsZero (← entryNumber entry "decodedBodySize")
  let transferSize ← integerOf .towardsZero (← entryNumber entry "transferSize")
  return ⟨name, kind.word, duration, size, transferSize⟩

end ResourceTiming

/-- Whether a value is a certain text. -/
def Value.isText (v : Value) (s : String) : Bool := v.text? == some s

/-- When the first content was painted, zero if the page does not say. -/
def firstPaint : List Value → Except Fault Float
  | [] => .ok 0.0
  | entry :: entries => do
    if (← entry.member "name").isText "first-contentful-paint" then
      (← entry.member "startTime").nonNegative
    else firstPaint entries

namespace Timings

/-- The timings of a navigation entry. -/
def ofNavigation (navigation : Value) (fcp : Float) (resources : List ResourceTiming) :
    Except Fault Timings := do
  let secure ← entryNumber navigation "secureConnectionStart"
  let sslTime ← if 0.0 < secure then entrySpan navigation "secureConnectionStart" "connectEnd"
    else .ok 0.0
  let loadComplete ← entrySpan navigation "fetchStart" "loadEventEnd"
  let ttfb ← entrySpan navigation "fetchStart" "responseStart"
  let tti ← entrySpan navigation "fetchStart" "domInteractive"
  let dnsTime ← entrySpan navigation "domainLookupStart" "domainLookupEnd"
  let domContentLoaded ← entrySpan navigation "fetchStart" "domContentLoadedEventEnd"
  return { ttfb := ttfb, fcp := fcp, tti := tti, dnsTime := dnsTime, sslTime := sslTime
           totalPageLoadTime := loadComplete, domContentLoaded := domContentLoaded
           loadComplete := loadComplete, resources := resources }

/-- The timings of the entries that a page reports. -/
def ofEntries (navigation paint resources : Value) : Except Fault Timings := do
  let loads ← (← resources.walk).mapM ResourceTiming.ofEntry
  let fcp ← firstPaint (← paint.walk)
  if navigation.isTruthy then ofNavigation navigation fcp loads
  else return { fcp := fcp, resources := loads }

end Timings

end SiteTrial
