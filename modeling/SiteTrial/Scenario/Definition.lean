import SiteTrial.Scenario.Step
import SiteTrial.Value.Parts
import SiteTrial.Notice
/-!
# Scenarios

* `Scenario` : a named script with what it expects;
* `Scenario.ofValue` : the scenario of an entry of a scenario file; steps with actions nobody knows
  are left out, with a notice for each.
-/

namespace SiteTrial

structure Scenario where
  name : String
  description : String := ""
  steps : List Step := []
  /-- Overrides of the thresholds. -/
  expectedMetrics : Fields := []
  /-- Whether to sign in first; where it is not said, every scenario but `login` does. -/
  requiresLogin : Option Bool := none

namespace Scenario

/-- Whether to sign in first. -/
def needsLogin (s : Scenario) : Bool := s.requiresLogin.getD (s.name != "login")

/-- A scenario that is not as it should be. -/
def refuse {α : Type} (e : ConfigurationError) : Told α := throw (.configuration e)

/-- The name of an entry. -/
def nameOf? : Value → Option String
  | .text s => if s.isEmpty then none else some s
  | _ => none

theorem eq_text_of_nameOf? {v : Value} {name : String} (h : nameOf? v = some name) :
    v = .text name := by
  unfold nameOf? at h
  split at h
  · split at h
    · cases h
    · cases h
      rfl
  · cases h

/-- A failure of the entry at a position, counted from one. -/
def blame (name : String) (position : Nat) : Failure → Failure
  | .configuration (.step e) => .configuration (.badStep name position e)
  | f => f

/-- The steps of a script's entries, the first of which has the given position. -/
def stepsOf (name : String) (position : Nat) : List Value → Told (List Step)
  | [] => return []
  | v :: vs => do
    match ← Told.of ((Entry.ofValue v).mapError (blame name position)) with
    | .step s => return s :: (← stepsOf name (position + 1) vs)
    | .unknownAction shown => do
      Told.tell (.unknownAction shown)
      stepsOf name (position + 1) vs

/-- The scenario of an entry of a scenario file. -/
def ofFields (fs : Fields) : Told Scenario := do
  let some name := nameOf? (fs.get "name") | refuse .scenarioWithoutName
  let some entries := (fs.getD "steps" (.list [])).items? | refuse (.stepsNotAList name)
  let steps ← stepsOf name 1 entries
  let some expected := ((fs.get "expectedMetrics").orElse (.mapping [])).fields?
    | refuse (.expectedMetricsNotAMapping name)
  let requiresLogin ← match fs.get "requiresLogin" with
    | .null => pure none
    | .bool b => pure (some b)
    | _ => refuse (.badRequiresLogin name)
  let description ← Told.ofFault (fs.getD "description" (.text "")).toText?
  return { name := name, description := description, steps := steps
           expectedMetrics := expected, requiresLogin := requiresLogin }

/-- The scenario of a value, which should be a mapping. -/
def ofValue (v : Value) : Told Scenario :=
  match v.fields? with
  | some fs => ofFields fs
  | none => throw (.fault (.noMember v.kind "get"))

end Scenario

end SiteTrial
