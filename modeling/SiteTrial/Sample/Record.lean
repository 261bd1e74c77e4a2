import SiteTrial.Sample.Basic
import SiteTrial.Value.Parts
import SiteTrial.Value.Number
/-!
# Sample records

The form of a sample in files.

* `Sample.toValue` : the record of a sample, its entries in a fixed order;
* `Sample.ofValue` : the sample of a record; numbers that are missing or no numbers become zero.
-/

namespace SiteTrial

namespace Vitals

/-- The record of the core vitals. -/
def toValue (v : Vitals) : Value :=
  .record [("lcp", .double v.lcp), ("fid", .double v.fid), ("cls", .double v.cls),
    ("inp", .double v.inp)]

end Vitals

/-- The number under a key, zero if there is none. -/
def Value.memberDouble (v : Value) (key : String) : Except Fault Float := do
  (← v.member key).numericOrZero

/-- The text of the entry under a key. -/
def Value.memberText (v : Value) (key other : String) : Except Fault String := do
  return (← v.memberD key (.text other)).toText

/-- The integer under a key, its fraction cut off, zero if there is none. -/
def Value.memberCount (v : Value) (key : String) : Except Fault Int := do
  integerOf .towardsZero (← v.memberDouble key)

namespace Vitals

/-- The core vitals of a record. -/
def ofValue (v : Value) : Except Fault Vitals := do
  let lcp ← v.memberDouble "lcp"
  let cls ← v.memberDouble "cls"
  let fid ← v.memberDouble "fid"
  let inp ← v.memberDouble "inp"
  return ⟨lcp, cls, fid, inp⟩

end Vitals

namespace ResourceTiming

/-- The record of a resource's load. -/
def toValue (r : ResourceTiming) : Value :=
  .record [("name", .text r.name), ("type", .text r.kind), ("duration", .double r.duration),
    ("size", .int r.size), ("transferSize", .int r.transferSize)]

/-- The resource's load of a record. -/
def ofValue (v : Value) : Except Fault ResourceTiming := do
  let name ← v.memberText "name" ""
  let kind ← v.memberText "type" "other"
  let duration ← v.memberDouble "duration"
  let size ← v.memberCount "size"
  let transferSize ← v.memberCount "transferSize"
  return ⟨name, kind, duration, size, transferSize⟩

end ResourceTiming

namespace Timings

/-- The record of a page's timings. -/
def toValue (t : Timings) : Value :=
  .record [("ttfb", .double t.ttfb), ("fcp", .double t.fcp), ("tti", .double t.tti),
    ("dnsTime", .double t.dnsTime), ("sslTime", .double t.sslTime),
    ("totalPageLoadTime", .double t.totalPageLoadTime),
    ("domContentLoaded", .double t.domContentLoaded), ("loadComplete", .double t.loadComplete),
    ("resourceLoadTimes", .list (t.resources.map ResourceTiming.toValue))]

/-- The page's timings of a record. -/
def ofValue (v : Value) : Except Fault Timings := do
  let ttfb ← v.memberDouble "ttfb"
  let fcp ← v.memberDouble "fcp"
  let tti ← v.memberDouble "tti"
  let dnsTime ← v.memberDouble "dnsTime"
  let sslTime ← v.memberDouble "sslTime"
  let totalPageLoadTime ← v.memberDouble "totalPageLoadTime"
  let domContentLoaded ← v.memberDouble "domContentLoaded"
  let loadComplete ← v.memberDouble "loadComplete"
  let entries ← ((← v.member "resourceLoadTimes").orElse (.list [])).walk
  let resources ← entries.mapM ResourceTiming.ofValue
  return ⟨ttfb, fcp, tti, dnsTime, sslTime, totalPageLoadTime, domContentLoaded, loadComplete,
    resources⟩

end Timings

namespace ApplicationMetrics

/-- The record of what actions measured. -/
def toValue (m : ApplicationMetrics) : Value :=
  .record [("navigationTimes", .mapping m.navigationTimes),
    ("apiResponseTimes", .mapping m.apiResponseTimes),
    ("formProcessingTimes", .mapping m.formProcessingTimes)]

/-- The entries under one heading of a record. -/
def heading (v : Value) (key : String) : Except Fault Fields := do
  ((← v.member key).orElse (.mapping [])).toFields

/-- What actions measured, of a record. -/
def ofValue (v : Value) : Except Fault ApplicationMetrics := do
  let navigationTimes ← heading v "navigationTimes"
  let apiResponseTimes ← heading v "apiResponseTimes"
  let formProcessingTimes ← heading v "formProcessingTimes"
  return ⟨navigationTimes, apiResponseTimes, formProcessingTimes⟩

end ApplicationMetrics

namespace Sample

def toValue (s : Sample) : Value :=
  .record [("timestamp", .text s.timestamp), ("url", .text s.url),
    ("environment", .text s.environment), ("application", .text s.application),
    ("scenario", .text s.scenario), ("iteration", .int s.iteration),
    ("coreWebVitals", s.vitals.toValue), ("performanceMetrics", s.timings.toValue),
    ("applicationMetrics", s.metrics.toValue), ("userAgent", s.userAgent)]

/-- The part of a record under a key, an empty one if there is none. -/
def part (v : Value) (key : String) : Except Fault Value := do
  return (← v.member key).orElse (.mapping [])

def ofValue (v : Value) : Except Fault Sample := do
  let vitalsPart ← part v "coreWebVitals"
  let timingsPart ← part v "performanceMetrics"
  let metricsPart ← part v "applicationMetrics"
  let timestamp ← v.memberText "timestamp" ""
  let url ← v.memberText "url" ""
  let environment ← v.memberText "environment" "pre"
  let application ← v.memberText "application" ""
  let scenario ← v.memberText "scenario" ""
  let iteration ← (← v.memberD "iteration" (.int 0)).toInteger
  let vitals ← Vitals.ofValue vitalsPart
  let timings ← Timings.ofValue timingsPart
  let metrics ← ApplicationMetrics.ofValue metricsPart
  let userAgent ← v.memberText "userAgent" ""
  return ⟨timestamp, url, environment, application, scenario, iteration, vitals, timings, metrics,
    .text userAgent⟩

end Sample

end SiteTrial
