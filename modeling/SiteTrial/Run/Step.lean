import SiteTrial.Scenario.Placeholder
import SiteTrial.Scenario.Step
import SiteTrial.Action.BuiltIn
/-!
# Steps in a session

* `resolve` : the address of a navigate step;
* `Step.perform` : carries out a step of a scenario against an application.
-/

namespace SiteTrial

/-- An address as it is if it is a whole one, else below that of an application. -/
def resolve (base url : String) : String :=
  if "http".toList.isPrefixOf url.toList then url else base ++ url

/-- The address of a navigate step's value. -/
def resolveValue (base : String) : Value → Except Fault String
  | .text url => .ok (resolve base url)
  | .scalar (.bytes _) => .error .startOfBytes
  | v => .error (.noMember v.kind "startswith")

/-- A step's limit of time, or another one where it has none or none to speak of. -/
def limitOr (other : Int) : Option Int → Int
  | none => other
  | some n => if n = 0 then other else n

namespace Step

/-- How many milliseconds a page is given to open, unless the step says. -/
def navigateLimit : Int := 30000

/-- How many milliseconds an element is given to appear, unless the step says. -/
def defaultLimit : Int := 10000

/-- How many milliseconds the element of a fill step is given to appear. -/
def fillLimit : Int := 5000

/-- How many milliseconds an idle wait takes at most. -/
def idleLimit : Int := 10000

/-- How many milliseconds a page is given to react to a click. -/
def clickSettle : Int := 1000

variable {σ : Type} [Page σ]

/-- The value of a fill step with test data for its placeholders. -/
def valueOf (data : TestData) (value : String) : Browse σ String := do
  let filled := fillIn data (← get).draws value
  modify fun v => { v with draws := filled.draws }
  filled.unresolved.forM fun p => Browse.tell (.unresolvedPlaceholder (String.ofList p))
  return String.ofList filled.text

/-- Goes to the address of a step. -/
def navigateTo (application : Application) (url : Value) (timeout : Option Int) :
    Browse σ Unit := do
  Session.goto (← Browse.ofFault (resolveValue application.baseUrl url))
    (limitOr navigateLimit timeout)

/-- Clicks an element and lets the page react. -/
def clickOn (selector : Value) (timeout : Option Int) : Browse σ Unit := do
  Session.waitVisible selector (limitOr defaultLimit timeout)
  Session.click selector
  Session.pause (.int clickSettle)

/-- Fills an element anew. -/
def fillWith (data : TestData) (selector : Value) (value : String) : Browse σ Unit := do
  Session.waitVisible selector fillLimit
  let text ← valueOf data value
  Session.clear selector
  Session.fill selector text

/-- Waits for an element, or idly. -/
def waitFor (selector : Value) (timeout : Option Int) : Browse σ Unit :=
  let limit := limitOr defaultLimit timeout
  if selector.isTruthy then Session.waitVisible selector limit
  else Session.pause (.int (min limit idleLimit))

/-- Carries out a built-in action; that nobody knows it is worth a notice. -/
def call (application : Application) (scenario : String) : Value → Browse σ Unit
  | .text name =>
    match BuiltIn.registry.get? name with
    | some action => action.perform application scenario
    | none => Browse.tell (.unknownFunction (Value.text name).shown)
  | .scalar (.bytes _) => throw (.fault .patternInBytes)
  | v => throw (.fault (.noMember v.kind "strip"))

def perform (application : Application) (data : TestData) (scenario : String) :
    Step → Browse σ Unit
  | .navigate url timeout => navigateTo application url timeout
  | .click selector timeout => clickOn selector timeout
  | .fill selector value _ => fillWith data selector value
  | .wait selector timeout => waitFor selector timeout
  | .custom function _ => call application scenario function

end Step

end SiteTrial
