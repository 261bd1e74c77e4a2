import SiteTrial.Run.Venue
import SiteTrial.Run.Visit
import SiteTrial.Rehearsal.Page
/-!
# Rehearsals

A host that gives scripted pages to the sessions of a run, to try runs out without a browser.

* `Offer` : the page of a session, and what goes wrong around it;
* `BrowserCall` : one thing asked of the browser; `BrowserCall.entry` is its line in a log;
* `Staging` : whether a rehearsal hands its pages out at once or goes through a browser for them;
* `Rehearsal`, its `Host` instance : the host; `Rehearsal.logs` are the logs of its pages;
* `Rehearsal.venue` : the venue of rehearsals that go through a browser.
-/

namespace SiteTrial

structure Offer where
  page : ScriptedPage := {}
  /-- Why a page that is handed out at once is not. -/
  openFailure : Option Failure := none
  contextFailure : Option String := none
  pageFailure : Option String := none
  throttleFailure : Option String := none
  closeFailure : Option String := none

inductive BrowserCall where
  | launch (headless : Bool)
  | newContext (session : Nat)
  | newPage (session : Nat)
  /-- A channel for orders to the browser itself. -/
  | newChannel (session : Nat)
  | enableNetwork (session : Nat)
  | throttle (session : Nat) (network : NetworkConditions)
  | closeContext (session : Nat)
  | close
  | stop

namespace BrowserCall

/-- How every context is set up. -/
def contextOptions : Value :=
  .record [("viewport", .record [("width", .int 1366), ("height", .int 768)]),
    ("ignore_https_errors", .bool true)]

/-- The order that slows the network down. -/
def conditions (n : NetworkConditions) : Value :=
  .record [("offline", .bool n.offline), ("latency", .double n.latency),
    ("downloadThroughput", .double n.downloadThroughput),
    ("uploadThroughput", .double n.uploadThroughput)]

/-- The line of a call in a log. -/
def entry : BrowserCall → Value
  | .launch headless => .list [.text "launch", .bool headless]
  | .newContext n => .list [.text "new_context", .int n, contextOptions]
  | .newPage n => .list [.text "new_page", .int n]
  | .newChannel n => .list [.text "new_cdp_session", .int n]
  | .enableNetwork n => .list [.text "send", .int n, .text "Network.enable", .null]
  | .throttle n network =>
    .list [.text "send", .int n, .text "Network.emulateNetworkConditions", conditions network]
  | .closeContext n => .list [.text "close_context", .int n]
  | .close => .list [.text "close"]
  | .stop => .list [.text "stop"]

end BrowserCall

/-- How a rehearsal comes to its pages. -/
inductive Staging where
  /-- They are handed out at once. -/
  | direct
  /-- A browser opens them, with the network slowed down or not. -/
  | browser (network : Option NetworkConditions)

/-- A host that gives scripted pages to sessions. -/
structure Rehearsal where
  staging : Staging
  /-- The offers for one session after another, over and over. -/
  offers : List Offer
  surroundings : Surroundings
  /-- How many sessions were asked for. -/
  asked : Nat := 0
  /-- The tabs of the sessions that came to have one, first opened first. -/
  tabs : List (Nat × Tab ScriptedPage) := []
  browserCalls : List BrowserCall := []

namespace Rehearsal

def offerOf (r : Rehearsal) (session : Nat) : Offer :=
  (r.offers[session % r.offers.length]?).getD {}

/-- With another browser call made. -/
def calling (r : Rehearsal) (c : BrowserCall) : Rehearsal :=
  { r with browserCalls := r.browserCalls ++ [c] }

def addTab (r : Rehearsal) (session : Nat) : Rehearsal :=
  { r with tabs := r.tabs ++ [(session, { page := (r.offerOf session).page })] }

/-- Closes the context of a session; that it cannot be closed is worth a notice. -/
def closeContext (r : Rehearsal) (session : Nat) : List Notice × Rehearsal :=
  ((r.offerOf session).closeFailure.toList.map .closeFailed, r.calling (.closeContext session))

/-- The failure of an operation with a reason. -/
def refusal (what reason : String) : Failure := .automation (.refused what reason)

/-- The failure to set the page of a session up, whose context is closed again. -/
def abandon (r : Rehearsal) (session : Nat) (reason : String) : Turn Rehearsal Nat :=
  let (notices, r) := r.closeContext session
  { outcome := .error (refusal "page setup" reason), notices := notices, host := r }

/-- Slows the network of a session down. -/
def throttle (r : Rehearsal) (session : Nat) (network : NetworkConditions) : Turn Rehearsal Nat :=
  let r := r.calling (.newChannel session)
  match (r.offerOf session).throttleFailure with
  | some reason => r.abandon session reason
  | none =>
    { outcome := .ok session
      host := (r.calling (.enableNetwork session)).calling (.throttle session network) }

/-- Opens the page of a session whose context is there. -/
def openPage (r : Rehearsal) (session : Nat) (network : Option NetworkConditions) :
    Turn Rehearsal Nat :=
  let r := r.calling (.newPage session)
  match (r.offerOf session).pageFailure with
  | some reason => r.abandon session reason
  | none =>
    let r := r.addTab session
    match network with
    | none => { outcome := .ok session, host := r }
    | some network => r.throttle session network

def openContext (r : Rehearsal) (session : Nat) (network : Option NetworkConditions) :
    Turn Rehearsal Nat :=
  let r := r.calling (.newContext session)
  match (r.offerOf session).contextFailure with
  | some reason => { outcome := .error (refusal "browser context" reason), host := r }
  | none => r.openPage session network

def handOut (r : Rehearsal) (session : Nat) : Turn Rehearsal Nat :=
  match (r.offerOf session).openFailure with
  | some f => { outcome := .error f, host := r }
  | none => { outcome := .ok session, host := r.addTab session }

/-- Opens the next session. -/
def openNext (r : Rehearsal) : Turn Rehearsal Nat :=
  let session := r.asked
  let r := { r with asked := session + 1 }
  match r.staging with
  | .direct => r.handOut session
  | .browser network => r.openContext session network

/-- Something done in the tab of a session. -/
def within {α : Type} (r : Rehearsal) (session : Nat) (b : Browse ScriptedPage α) :
    Turn Rehearsal α :=
  match r.tabs.lookup session with
  | none => { outcome := .error (refusal "page setup" "no such session"), host := r }
  | some tab =>
    let (outcome, v) := b.run.run { toTab := tab, toSurroundings := r.surroundings }
    { outcome := outcome
      notices := v.notices
      host := { r with
        surroundings := { v.toSurroundings with notices := [] }
        tabs := r.tabs.map fun e => if e.1 = session then (session, v.toTab) else e } }

def endSession (r : Rehearsal) (session : Nat) : Turn Rehearsal Unit :=
  match r.staging with
  | .direct => { outcome := .ok (), host := r }
  | .browser _ =>
    let (notices, r) := r.closeContext session
    { outcome := .ok (), notices := notices, host := r }

instance : Host Rehearsal where
  now r := r.surroundings.clock
  date r := r.surroundings.date
  openSession := openNext
  perform session errand r := r.within session
    (runScenario errand.application errand.data Sampling.defaultSettle errand.scenario)
  pause session time r := r.within session (Session.pause (.int time))
  closeSession session r := r.endSession session

/-- The logs of the pages, first opened first. -/
def logs (r : Rehearsal) : List (List Call) := r.tabs.map fun e => e.2.calls

/-- The venue of rehearsals that go through a browser, unless there is a reason why it does not start. -/
def venue (offers : List Offer) (surroundings : Surroundings) (launchFailure : Option String) :
    Venue Rehearsal where
  launch config :=
    match launchFailure with
    | some reason => .error (refusal "browser launch" reason)
    | none => .ok {
        staging := .browser config.current.network, offers := offers, surroundings := surroundings
        browserCalls := [.launch config.execution.headless] }
  leave r := (r.calling .close).calling .stop

end Rehearsal

end SiteTrial
