import SiteTrial.Page.Basic
import SiteTrial.Value.Parts
import SiteTrial.Table
import SiteTrial.Ticks
/-!
# Scripted pages

A page that behaves as it is told, to try scenarios out without a browser.

* `Mishap` : a failure that strikes certain calls;
* `ScriptedPage` : what a page shows and answers, how long its calls take, and what fails;
* the `Page` instance : how it replies.
-/

namespace SiteTrial

structure Mishap where
  call : String
  /-- The calls of that name that it strikes, counted from zero; all of them if it is not said. -/
  strikes : Option (List Nat)
  reply : Reply

/-- A page that behaves as it is told. -/
structure ScriptedPage where
  url : String := "about:blank"
  /-- The addresses to which clicks on elements lead. -/
  redirects : Table String := []
  /-- The elements that never become visible. -/
  missing : List String := []
  /-- The elements that never go away. -/
  stuck : List String := []
  /-- How many elements there are. -/
  counts : Table Value := []
  pageHeight : Value := .null
  userAgent : Value := .null
  apiTimes : Table Value := []
  /-- The core vitals of one read after another, over and over. -/
  vitals : List Value := []
  /-- The timing entries of one read after another, over and over. -/
  timing : List Value := []
  /-- The responses that arrive, each some ticks after the one before. -/
  responses : List (String × Nat) := []
  /-- The timing marks of the page. -/
  state : Value := .record [("customTimings", .mapping [])]
  /-- The ticks that calls take. -/
  costs : Table Nat := []
  mishaps : List Mishap := []
  /-- How many calls of each name there were. -/
  made : Table Nat := []

namespace ScriptedPage

/-- How many calls of a name there were. -/
def madeOf (p : ScriptedPage) (name : String) : Nat := (p.made.get? name).getD 0

/-- The failure that strikes the next call of a name. -/
def mishap? (p : ScriptedPage) (name : String) : Option Reply :=
  (p.mishaps.find? fun m =>
    m.call = name && match m.strikes with
      | none => true
      | some numbers => numbers.contains (p.madeOf name)).map (·.reply)

/-- The entry of a table for a selector, which must be something that can be a key. -/
def find? {β : Type} (t : Table β) (selector : Value) : Except Fault (Option β) :=
  match selector with
  | .text s => .ok (t.get? s)
  | v => v.toKey.map fun _ => none

/-- Whether a selector is among some. -/
def listed (selectors : List String) (selector : Value) : Bool :=
  match selector with
  | .text s => selectors.contains s
  | _ => false

/-- The member of a list whose turn it is. -/
def turn (vs : List Value) (n : Nat) : Value := (vs[n % vs.length]?).getD .null

/-- The timing marks after a mark at a moment; a page that keeps none has none afterwards. -/
def marked (state : Value) (label : String) (now : Nat) : Except Fault Value :=
  match state with
  | .mapping fs =>
    let fields : Fields := fs
    if fields.isEmpty then .ok state
    else match fields.getD "customTimings" (.mapping []) with
      | .mapping marks =>
        let marks' := Fields.put marks (.text label) (.double (milliseconds now))
        .ok (.mapping (fields.put (.text "customTimings") (.mapping marks')))
      | v => .error (.notKeyed v.kind)
  | v => if v.isTruthy then .error (.notKeyed v.kind) else .ok state

/-- The ticks until a response that is waited for, and whether it comes at all. -/
def awaitResponse (test : UrlTest) : List (String × Nat) → Nat × Bool
  | [] => (0, false)
  | (url, ticks) :: rest =>
    if test.accepts url then (ticks, true)
    else
      let (more, came) := awaitResponse test rest
      (ticks + more, came)

/-- A reply that takes no time of its own. -/
def instantly (p : ScriptedPage) (reply : Reply) : Response ScriptedPage := ⟨0, reply, p⟩

/-- What a computation on the page comes to. -/
def whatever (p : ScriptedPage) : Except Fault (Value × ScriptedPage) → Response ScriptedPage
  | .ok (v, p') => ⟨0, .answer v, p'⟩
  | .error f => ⟨0, .broke f, p⟩

/-- What a script answers; `n` scripts of its name ran before. -/
def runScript (p : ScriptedPage) (n now : Nat) : Script → Response ScriptedPage
  | .instrumentation => p.instantly (.answer .null)
  | .webVitals _ => p.instantly (.answer (turn p.vitals n))
  | .timingEntries => p.instantly (.answer (turn p.timing n))
  | .apiTiming url => p.instantly (.answer ((p.apiTimes.get? url).getD .null))
  | .userAgent => p.instantly (.answer p.userAgent)
  | .scrollHeight => p.instantly (.answer p.pageHeight)
  | .readState => p.instantly (.answer p.state)
  | .markTiming label =>
    p.whatever ((marked p.state label now).map fun s => (.null, { p with state := s }))

/-- What a call comes to that nothing strikes. -/
def act (p : ScriptedPage) (n now : Nat) : Call → Response ScriptedPage
  | .goto url _ _ => { p with url := url }.instantly (.answer .null)
  | .waitFor selector .visible _ =>
    p.instantly (if listed p.missing selector then .timedOut else .answer .null)
  | .waitFor selector .detached _ =>
    p.instantly (if listed p.stuck selector then .timedOut else .answer .null)
  | .click selector =>
    p.whatever ((find? p.redirects selector).map fun
      | some url => (.null, { p with url := url })
      | none => (.null, p))
  | .count selector =>
    p.whatever ((find? p.counts selector).map fun found => (found.getD (.int 0), p))
  | .evaluate script => p.runScript n now script
  | .waitForResponse test _ =>
    let (ticks, came) := awaitResponse test p.responses
    ⟨ticks, if came then .answer .null else .timedOut, p⟩
  | .waitForUrl test _ => p.instantly (if test.accepts p.url then .answer .null else .timedOut)
  | _ => p.instantly (.answer .null)

/-- What a call comes to that is made at a moment. -/
def respond (c : Call) (now : Nat) (p : ScriptedPage) : Response ScriptedPage :=
  let cost := (p.costs.get? c.name).getD 0
  let n := p.madeOf c.name
  let struck := p.mishap? c.name
  let p := { p with made := p.made.put c.name (n + 1) }
  let r := match struck with
    | some reply => p.instantly reply
    | none => p.act n (now + cost) c
  { r with elapsed := cost + r.elapsed }

instance : Page ScriptedPage where
  url := ScriptedPage.url
  respond := respond

end ScriptedPage

end SiteTrial
