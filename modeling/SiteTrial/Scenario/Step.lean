import SiteTrial.Value.Number
/-!
# Steps

* `Step` : one step of a scenario's script;
* `Entry`, `Entry.ofValue` : what an entry of the script is: a step, or an action nobody knows.

Addresses, selectors and function names keep the value that the script gives them; only the value of
a fill step is made a text.
-/

namespace SiteTrial

/-- One step of a scenario's script; limits of time are in milliseconds. -/
inductive Step where
  | navigate (url : Value) (timeout : Option Int)
  | click (selector : Value) (timeout : Option Int)
  | fill (selector : Value) (value : String) (timeout : Option Int)
  /-- Waits for an element, or idly without a selector. -/
  | wait (selector : Value) (timeout : Option Int)
  | custom (function : Value) (timeout : Option Int)

inductive Entry where
  | step (s : Step)
  | unknownAction (shown : String)

namespace Step

/-- The word for a step's action. -/
def action : Step → String
  | .navigate .. => "navigate"
  | .click .. => "click"
  | .fill .. => "fill"
  | .wait .. => "wait"
  | .custom .. => "custom"

end Step

namespace Entry

/-- A step that is not as it should be. -/
def refuse {α : Type} (e : StepError) : Except Failure α := .error (.configuration (.step e))

/-- A step's limit of time, its fraction cut off. -/
def timeoutOf (action : Value) (fs : Fields) : Except Failure (Option Int) :=
  match fs.get "timeout" with
  | .null => .ok none
  | v =>
    if v.isNumeric then (v.toInteger.map some).mapError .fault
    else do refuse (.badTimeout (← action.toText?.mapError .fault))

/-- A fill step; an absent value is none, and an empty one is a value. -/
def fillStep (fs : Fields) (timeout : Option Int) : Except Failure Step := do
  let selector := fs.get "selector"
  let value := fs.get "value"
  let text ← value.toText?.mapError .fault
  if selector.isTruthy && !value.isNull then return .fill selector text timeout
  else refuse .fillIncomplete

/-- The step of a known action. -/
def stepOf (fs : Fields) (timeout : Option Int) : String → Option (Except Failure Step)
  | "navigate" => some (.ok (.navigate ((fs.get "url").orElse (.text "")) timeout))
  | "click" =>
    let selector := fs.get "selector"
    some (if selector.isTruthy then .ok (.click selector timeout) else refuse .clickWithoutSelector)
  | "fill" => some (fillStep fs timeout)
  | "wait" => some (.ok (.wait (fs.get "selector") timeout))
  | "custom" =>
    let function := fs.get "customFunction"
    some (if function.isTruthy then .ok (.custom function timeout)
      else refuse .customWithoutFunction)
  | _ => none

def ofValue (v : Value) : Except Failure Entry := do
  match v.fields? with
  | some fs =>
    let action := fs.get "action"
    let timeout ← timeoutOf action fs
    match action.text?.bind (stepOf fs timeout) with
    | some parsed => parsed.map .step
    | none => return .unknownAction action.shown
  | none => refuse .notAMapping

end Entry

end SiteTrial
