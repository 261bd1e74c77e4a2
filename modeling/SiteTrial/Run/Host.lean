import SiteTrial.Sample.Sampling
import SiteTrial.Scenario.Definition
import SiteTrial.Config.Basic
/-!
# Hosts

A host gives sessions to the workers of a run.

* `Errand` : a scenario to run against an application;
* `Turn` : what one request to a host comes to;
* `Host` : anything that opens sessions, runs scenarios in them, lets them pause and closes them.
-/

namespace SiteTrial

structure Errand where
  application : Application
  data : TestData
  scenario : Scenario

/-- What one request to a host comes to: its outcome, the notices given, and the host afterwards. -/
structure Turn (η α : Type) where
  outcome : Except Failure α
  notices : List Notice := []
  host : η

/-- Anything that gives sessions, which it names by numbers. -/
class Host (η : Type) where
  /-- The ticks since the beginning. -/
  now : η → Nat
  /-- The date and time that reports bear. -/
  date : η → String
  openSession : η → Turn η Nat
  /-- Runs a scenario in a session. -/
  perform : (session : Nat) → Errand → η → Turn η Measured
  /-- Lets some milliseconds pass in a session. -/
  pause : (session time : Nat) → η → Turn η Unit
  closeSession : (session : Nat) → η → Turn η Unit

end SiteTrial
