import SiteTrial.Value.Basic
import SiteTrial.Failure
/-!
# Pages

What a session asks of the page of a browser, and what the page makes of it.

* `Call` : one thing asked of a page; `Call.entry` is its line in a log;
* `UrlTest` : what a session waits for in the address of a page or of a response;
* `Reply` : what a call comes to;
* `Page` : anything that has an address and replies to calls, in its own time.

Time is counted in ticks of a 64th of a second.
-/

namespace SiteTrial

/-- A condition on an address. -/
inductive UrlTest where
  | contains (part : String)
  | lacks (part : String)
  | startsWith (start : String)
deriving Repr, DecidableEq

namespace UrlTest

/-- Whether characters stand somewhere in a text. -/
def occursIn (part : List Char) : List Char → Bool
  | [] => part.isEmpty
  | c :: cs => part.isPrefixOf (c :: cs) || occursIn part cs

/-- Whether an address meets the condition. -/
def accepts (t : UrlTest) (url : String) : Bool :=
  match t with
  | .contains part => occursIn part.toList url.toList
  | .lacks part => !occursIn part.toList url.toList
  | .startsWith start => start.toList.isPrefixOf url.toList

end UrlTest

/-- What is waited for in an element. -/
inductive Condition where
  | visible
  | detached
deriving Repr, DecidableEq

def Condition.word : Condition → String
  | .visible => "visible"
  | .detached => "detached"

/-- A file that is handed to a page. -/
inductive InputFile where
  | path (p : String)
  /-- A file that exists only during the call, with this text. -/
  | temporary (text : String)
deriving Repr, DecidableEq

/-- A script that runs in a page. -/
inductive Script where
  /-- Sets up the store of timing marks, unless there is one. -/
  | instrumentation
  /-- The core vitals after this many milliseconds. -/
  | webVitals (settle : Int)
  /-- The navigation, paint and resource timings. -/
  | timingEntries
  /-- The milliseconds that fetching an address takes. -/
  | apiTiming (url : String)
  | userAgent
  | scrollHeight
  | readState
  /-- Puts the time of the page under a label. -/
  | markTiming (label : String)
deriving Repr, DecidableEq

namespace Script

def name : Script → String
  | .instrumentation => "instrumentation"
  | .webVitals _ => "web_vitals"
  | .timingEntries => "timing_entries"
  | .apiTiming _ => "api_timing"
  | .userAgent => "user_agent"
  | .scrollHeight => "scroll_height"
  | .readState => "read_state"
  | .markTiming _ => "mark_timing"

/-- What a script is given. -/
def argument? : Script → Option Value
  | .webVitals settle => some (.int settle)
  | .apiTiming url => some (.text url)
  | .markTiming label => some (.text label)
  | _ => none

end Script

/-- One thing asked of a page. Limits of time are in milliseconds; a selector is what the script of a
scenario gives for one, and means the first of the elements it selects. -/
inductive Call where
  | goto (url stage : String) (limit : Int)
  | waitFor (selector : Value) (condition : Condition) (limit : Int)
  | click (selector : Value)
  | clear (selector : Value)
  | fill (selector : Value) (value : String)
  /-- How many elements are selected. -/
  | count (selector : Value)
  | focus (selector : Value) (index : Int)
  | blur (selector : Value) (index : Int)
  | setInputFiles (selector : Value) (file : InputFile)
  | evaluate (script : Script)
  /-- Has the instrumentation run in every page from now on. -/
  | addInitScript
  | waitForFunction (expression : String) (limit : Int)
  | waitForResponse (test : UrlTest) (limit : Int)
  | waitForUrl (test : UrlTest) (limit : Int)
  | waitForNetworkIdle (limit : Int)
  | pause (milliseconds : Value)
  | mouseMove (x y : Value)
  | mouseWheel (x y : Value)
  | press (key : String)

namespace Call

def name : Call → String
  | .goto .. => "goto"
  | .waitFor .. => "wait_for"
  | .click _ => "click"
  | .clear _ => "clear"
  | .fill .. => "fill"
  | .count _ => "count"
  | .focus .. => "focus"
  | .blur .. => "blur"
  | .setInputFiles .. => "set_input_files"
  | .evaluate script => "evaluate:" ++ script.name
  | .addInitScript => "add_init_script"
  | .waitForFunction .. => "wait_for_function"
  | .waitForResponse .. => "wait_for_event"
  | .waitForUrl .. => "wait_for_url"
  | .waitForNetworkIdle _ => "wait_for_load_state"
  | .pause _ => "wait_for_timeout"
  | .mouseMove .. => "mouse.move"
  | .mouseWheel .. => "mouse.wheel"
  | .press _ => "keyboard.press"

/-- What a log shows behind the name of a call. -/
def arguments : Call → List Value
  | .goto url stage limit => [.text url, .text stage, .int limit]
  | .waitFor selector condition limit =>
    [selector, .text "first", .text condition.word, .int limit]
  | .click selector | .clear selector => [selector, .text "first"]
  | .fill selector value => [selector, .text "first", .text value]
  | .count selector => [selector, .text "all"]
  | .focus selector index | .blur selector index => [selector, .int index]
  | .setInputFiles selector (.path p) => [selector, .text "first", .text p]
  | .setInputFiles selector (.temporary text) =>
    [selector, .text "first", .text "perfcompare-*.txt", .text text]
  | .evaluate script => script.argument?.toList
  | .addInitScript => [.text "instrumentation"]
  | .waitForFunction expression limit => [.text expression, .int limit]
  | .waitForResponse _ limit => [.text "response", .int limit]
  | .waitForUrl _ limit => [.int limit]
  | .waitForNetworkIdle limit => [.text "networkidle", .int limit]
  | .pause milliseconds => [milliseconds]
  | .mouseMove x y | .mouseWheel x y => [x, y]
  | .press key => [.text key]

/-- The line of a call in a log. -/
def entry (c : Call) : Value := .list (.text c.name :: c.arguments)

end Call

inductive Reply where
  | answer (v : Value)
  /-- What was waited for did not come in time. -/
  | timedOut
  /-- The browser refused the call. -/
  | refused (message : String)
  /-- The page broke in a way of its own. -/
  | broke (f : Fault)

/-- What a call comes to, how long it took, and the page afterwards. -/
structure Response (σ : Type) where
  elapsed : Nat
  reply : Reply
  page : σ

class Page (σ : Type) where
  /-- The address that the page shows. -/
  url : σ → String
  /-- What a call that is made at a moment comes to. -/
  respond : Call → (now : Nat) → σ → Response σ

end SiteTrial
