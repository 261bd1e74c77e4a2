import SiteTrial.Run.Step
import SiteTrial.Scenario.Definition
/-!
# Running a scenario

* `approach` : everything before the page is measured: instrumentation, sign-in and the steps;
* `runScenario` : the whole run, with what was measured at its end.
-/

namespace SiteTrial

variable {σ : Type} [Page σ]

/-- Signs in where the scenario asks for it and the application has an account. -/
def signInFirst (application : Application) (s : Scenario) : Browse σ Unit :=
  if s.needsLogin && application.credentials.isSome then signIn application else return

/-- The steps of a scenario, one after another. -/
def performSteps (application : Application) (data : TestData) (s : Scenario) : Browse σ Unit :=
  s.steps.forM (Step.perform application data s.name)

def approach (application : Application) (data : TestData) (s : Scenario) : Browse σ Unit := do
  Sampling.prepare
  signInFirst application s
  performSteps application data s

/-- Runs a scenario and measures the page to which it led; the recorder starts empty. -/
def runScenario (application : Application) (data : TestData) (settle : Int) (s : Scenario) :
    Browse σ Measured := do
  modify fun v => { v with recorder := {} }
  approach application data s
  let url ← Session.url
  Sampling.waitForPageLoad Sampling.defaultLoadLimit
  Sampling.measure settle url (← get).recorder

end SiteTrial
