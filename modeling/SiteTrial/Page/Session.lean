import SiteTrial.Page.Basic
import SiteTrial.Draws
import SiteTrial.Notice
import SiteTrial.Sample.Recorder
import SiteTrial.Value.Shown
/-!
# Sessions

A session talks to one page. Whatever a page comes to is an answer or a failure with a name for what
was asked.

* `Tab` : a page with the log of the calls that were made to it;
* `Visit` : a tab, what all sessions share, and the recorder of the run that is under way;
* `Browse` : a computation in a visit; the visit is kept when it fails;
* `Session.ask` : makes a call; the functions after it are what a session can do.
-/

namespace SiteTrial

structure Tab (σ : Type) where
  page : σ
  /-- Whether the instrumentation runs in every page. -/
  instrumented : Bool := false
  calls : List Call := []

/-- What all sessions share. -/
structure Surroundings where
  /-- The ticks since the beginning. -/
  clock : Nat := 0
  draws : Draws
  /-- The date and time that reports and samples bear. -/
  date : String
  notices : List Notice := []

/-- A tab in use. -/
structure Visit (σ : Type) extends Tab σ, Surroundings where
  recorder : Recorder := {}

abbrev Browse (σ : Type) := ExceptT Failure (StateM (Visit σ))

namespace Browse

variable {σ : Type} {α : Type}

/-- The outcome as an answer. -/
def attempt (b : Browse σ α) : Browse σ (Except Failure α) := ExceptT.mk (Except.ok <$> b.run)

/-- A computation without effects. -/
def of : Except Failure α → Browse σ α
  | .ok a => pure a
  | .error e => throw e

/-- A computation without effects that can only end in a fault. -/
def ofFault (r : Except Fault α) : Browse σ α := of (r.mapError .fault)

/-- Gives a notice. -/
def tell (n : Notice) : Browse σ Unit := modify fun v => { v with notices := v.notices ++ [n] }

/-- The time on the clock. -/
def now : Browse σ Nat := return (← get).clock

/-- Files a measurement. -/
def record (c : Category) (key : String) (m : Measurement) : Browse σ Unit :=
  modify fun v => { v with recorder := v.recorder.set c key m }

/-- The number that the next draw gives below a bound. -/
def drawBelow (bound : Int) : Browse σ Int := do
  let d := (← get).draws
  modify fun v => { v with draws := d.next }
  return d.below bound

/-- The part of one that the next draw gives. -/
def drawFraction : Browse σ Float := do
  let d := (← get).draws
  modify fun v => { v with draws := d.next }
  return d.fraction

/-- The ticks that a computation takes. -/
def timed (b : Browse σ Unit) : Browse σ Nat := do
  let start ← now
  b
  return (← now) - start

end Browse

namespace Session

variable {σ : Type} [Page σ]

/-- The address that the page shows. -/
def url : Browse σ String := return Page.url (← get).page

/-- What a reply means to whoever asked for `what`. -/
def answerOf (what : String) : Reply → Except Failure Value
  | .answer v => .ok v
  | .timedOut => .error (.automation (.timedOut what))
  | .refused message => .error (.automation (.refused what message))
  | .broke f => .error (.fault f)

/-- Makes a call; `what` names it in failures. -/
def ask (what : String) (c : Call) : Browse σ Value := do
  let v ← get
  let r := Page.respond c v.clock v.page
  set { v with page := r.page, clock := v.clock + r.elapsed, calls := v.calls ++ [c] }
  Browse.of (answerOf what r.reply)

/-- Makes a call for its effect. -/
def order (what : String) (c : Call) : Browse σ Unit := discard (ask what c)

/-- Makes a call about the elements of a selector, whose text is part of its name in failures. -/
def askAbout (selector : Value) (what : String → String) (c : Call) : Browse σ Value := do
  ask (what (← Browse.ofFault selector.toText?)) c

/-- Makes a call about the elements of a selector for its effect. -/
def orderAbout (selector : Value) (what : String → String) (c : Call) : Browse σ Unit :=
  discard (askAbout selector what c)

/-- Goes to an address and waits until the page has come to a stage. -/
def gotoStage (url stage : String) (limit : Int) : Browse σ Unit :=
  order s!"navigation to {url}" (.goto url stage limit)

/-- Goes to an address and waits until its document is there. -/
def goto (url : String) (limit : Int) : Browse σ Unit := gotoStage url "domcontentloaded" limit

def waitVisible (selector : Value) (limit : Int) : Browse σ Unit :=
  orderAbout selector (· ++ " to become visible") (.waitFor selector .visible limit)

def waitDetached (selector : Value) (limit : Int) : Browse σ Unit :=
  orderAbout selector (· ++ " to detach") (.waitFor selector .detached limit)

def click (selector : Value) : Browse σ Unit :=
  orderAbout selector ("click on " ++ ·) (.click selector)

def clear (selector : Value) : Browse σ Unit :=
  orderAbout selector ("clear of " ++ ·) (.clear selector)

def fill (selector : Value) (value : String) : Browse σ Unit :=
  orderAbout selector ("fill of " ++ ·) (.fill selector value)

/-- How many elements are selected. -/
def count (selector : Value) : Browse σ Value :=
  askAbout selector ("count of " ++ ·) (.count selector)

def focus (selector : Value) (index : Int) : Browse σ Unit :=
  orderAbout selector ("focus on " ++ ·) (.focus selector index)

def blur (selector : Value) (index : Int) : Browse σ Unit :=
  orderAbout selector ("blur of " ++ ·) (.blur selector index)

def setInputFiles (selector : Value) (file : InputFile) : Browse σ Unit :=
  orderAbout selector ("file input " ++ ·) (.setInputFiles selector file)

/-- What a script answers. -/
def evaluate (script : Script) : Browse σ Value := ask "page script" (.evaluate script)

def waitForFunction (expression : String) (limit : Int) : Browse σ Unit :=
  order ("condition " ++ Text.quoted expression) (.waitForFunction expression limit)

/-- Waits for a response from an address, and says how many ticks that took. -/
def waitForResponse (test : UrlTest) (limit : Int) : Browse σ Nat :=
  Browse.timed (order "matching response" (.waitForResponse test limit))

def waitForUrl (test : UrlTest) (limit : Int) : Browse σ Unit :=
  order "URL change" (.waitForUrl test limit)

def waitForNetworkIdle (limit : Int) : Browse σ Unit :=
  order "network idle" (.waitForNetworkIdle limit)

def pause (time : Value) : Browse σ Unit := order "pause" (.pause time)

def mouseMove (x y : Value) : Browse σ Unit := order "mouse move" (.mouseMove x y)

def mouseWheel (x y : Value) : Browse σ Unit := order "mouse wheel" (.mouseWheel x y)

def press (key : String) : Browse σ Unit := order s!"key press {key}" (.press key)

/-- Has the instrumentation run in every page from now on, and in the one that is open. -/
def installInstrumentation : Browse σ Unit := do
  if !(← get).instrumented then
    order "instrumentation" .addInitScript
    modify fun v => { v with instrumented := true }
  order "instrumentation" (.evaluate .instrumentation)

/-- Puts the time of the page under a label. -/
def markTiming (label : String) : Browse σ Unit :=
  order s!"timing mark {label}" (.evaluate (.markTiming label))

/-- The timing marks of the page. -/
def readState : Browse σ Value := ask "performance state" (.evaluate .readState)

end Session

end SiteTrial
