import SiteTrial.Value.Basic
/-!
# Samples

One completed run of a scenario against one application.

* `Vitals`, `Timings`, `ResourceTiming` : what the page measured; zero means not captured;
* `ApplicationMetrics` : what sign-in and custom actions measured, under their own keys;
* `Sample` : all of it, with where and when.
-/

namespace SiteTrial

/-- The core vitals of a page load. -/
structure Vitals where
  lcp : Float := 0.0
  cls : Float := 0.0
  fid : Float := 0.0
  inp : Float := 0.0

/-- The load of one resource of a page. -/
structure ResourceTiming where
  name : String
  kind : String
  duration : Float := 0.0
  size : Int := 0
  transferSize : Int := 0

/-- The timings of a page load in milliseconds. -/
structure Timings where
  ttfb : Float := 0.0
  fcp : Float := 0.0
  tti : Float := 0.0
  dnsTime : Float := 0.0
  sslTime : Float := 0.0
  totalPageLoadTime : Float := 0.0
  domContentLoaded : Float := 0.0
  loadComplete : Float := 0.0
  resources : List ResourceTiming := []

structure ApplicationMetrics where
  navigationTimes : Fields := []
  apiResponseTimes : Fields := []
  formProcessingTimes : Fields := []

/-- One completed run of a scenario. -/
structure Sample where
  timestamp : String
  url : String
  environment : String
  application : String
  scenario : String
  iteration : Int
  vitals : Vitals := {}
  timings : Timings := {}
  metrics : ApplicationMetrics := {}
  /-- The browser's name for itself, as the page states it. -/
  userAgent : Value := .text ""

end SiteTrial
