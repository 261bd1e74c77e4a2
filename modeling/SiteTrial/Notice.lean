import SiteTrial.Failure
/-!
# Notices

What a run tells its operator beside its answer.

* `Notice` : an occasion for a warning or an error message;
* `Notice.level`, `Notice.message` : its weight and its wording;
* `Told` : a computation that may fail and gives notices on the way, kept also when it fails.
-/

namespace SiteTrial

/-- An occasion for a message to the operator. -/
inductive Notice where
  | malformedSample (line : Nat) (path : String)
  | unknownAction (shown : String)
  | unknownStep
  | unknownFunction (shown : String)
  | unresolvedPlaceholder (placeholder : String)
  | widgetMissing (group : String)
  | dataUnsettled
  | uploadFailed (message : String)
  | loginSkipped (application : String)
  | noNavigationEntry (url : String)
  | closeFailed (message : String)
  | thresholdBreached (scenario breach : String)
  | notCompared (scenario : String)
  | scenarioRefused (application scenario message : String)
  | sessionFailed (application scenario message : String)
  | iterationFailed (application scenario : String) (iteration iterations : Nat) (message : String)
  | pauseFailed (application scenario message : String)
deriving Repr, DecidableEq

namespace Notice

/-- Whether the notice reports an error and not just a warning. -/
def isError : Notice → Bool
  | .scenarioRefused .. | .sessionFailed .. | .iterationFailed .. => true
  | _ => false

/-- The word for the notice's weight. -/
def level (n : Notice) : String := if n.isError then "ERROR" else "WARNING"

/-- The wording of a notice. -/
def message : Notice → String
  | .malformedSample line path => s!"Skipping malformed sample on line {line} of {path}"
  | .unknownAction shown => s!"Unknown step action {shown}, skipping"
  | .unknownStep => "Unknown step None, skipping"
  | .unknownFunction shown => s!"Unknown custom function {shown}, skipping"
  | .unresolvedPlaceholder placeholder => s!"Unresolved test data placeholder {placeholder}"
  | .widgetMissing group => s!"Dashboard widget group '{group}' did not appear"
  | .dataUnsettled => "Dashboard data load did not settle"
  | .uploadFailed message => s!"File upload failed: {message}"
  | .loginSkipped application => s!"No credentials configured for {application}, skipping login"
  | .noNavigationEntry url => s!"No navigation timing entry on {url}"
  | .closeFailed message => s!"Closing browser context failed: {message}"
  | .thresholdBreached scenario breach => s!"{scenario}: {breach}"
  | .notCompared scenario => s!"Scenario {scenario} lacks samples for one application; not compared"
  | .scenarioRefused application scenario message => s!"{application} - {scenario}: {message}"
  | .sessionFailed application scenario message =>
    s!"{application} - {scenario}: browser session failed: {message}"
  | .iterationFailed application scenario iteration iterations message =>
    s!"{application} - {scenario} - iteration {iteration}/{iterations} failed: {message}"
  | .pauseFailed application scenario message =>
    s!"{application} - {scenario}: delay between iterations failed: {message}"

def line (n : Notice) : String := n.level ++ ": " ++ n.message

end Notice

abbrev Told := ExceptT Failure (StateM (List Notice))

namespace Told

/-- Gives a notice. -/
def tell (n : Notice) : Told Unit := modify (· ++ [n])

/-- The answer and the notices given. -/
def outcome {β : Type} (t : Told β) : Except Failure β × List Notice :=
  let (r, notices) := t.run.run []
  (r, notices)

/-- A computation without notices. -/
def of {β : Type} : Except Failure β → Told β
  | .ok b => pure b
  | .error e => throw e

/-- The answer or the failure as an answer. -/
def attempt {β : Type} (t : Told β) : Told (Except Failure β) :=
  ExceptT.mk (Except.ok <$> t.run)

/-- A computation without notices that can only end in a fault. -/
def ofFault {β : Type} (r : Except Fault β) : Told β := of (r.mapError .fault)

end Told

end SiteTrial
