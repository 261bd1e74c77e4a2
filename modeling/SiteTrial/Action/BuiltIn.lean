import SiteTrial.Action.Registry
import SiteTrial.Action.SignIn
import SiteTrial.Sample.Sampling
import SiteTrial.Value.Number
/-!
# Built-in actions

* `BuiltIn` : the actions that come with the program; `BuiltIn.registry` holds them by name;
* `BuiltIn.perform` : carries one out;
* the namespaces before it : what each of them does.
-/

namespace SiteTrial

variable {σ : Type} [Page σ]

/-! ## The widgets of a dashboard -/

namespace Dashboard

/-- The elements that hold the dashboard. -/
def container : Value := .text "[data-testid=\"dashboard\"], .dashboard, main, #main-content"

/-- The elements to navigate with. -/
def navigation : Value := .text "[data-testid=\"navigation\"], .nav, .sidebar, nav"

/-- The elements that show that data is still loaded. -/
def spinner : Value := .text "[data-testid=\"loading\"], .loading, .spinner, .skeleton"

/-- The groups of widgets with the elements of each. -/
def widgets : List (String × Value) := [
  ("charts", .text "[data-testid=\"chart\"], .chart, canvas, svg"),
  ("tables", .text "[data-testid=\"table\"], .table, table"),
  ("cards", .text "[data-testid=\"card\"], .card, .widget"),
  ("stats", .text "[data-testid=\"stats\"], .stats, .metrics")]

/-- How many milliseconds an element is given to appear. -/
def appearLimit : Int := 10000

/-- How many milliseconds the data is given to settle. -/
def dataLimit : Int := 30000

/-- A group that the browser does not show is worth a notice; any other trouble ends the action. -/
def judgeGroup (group : String) : Except Failure Unit → Browse σ Unit
  | .ok () => return
  | .error (.automation _) => Browse.tell (.widgetMissing group)
  | .error f => throw f

/-- Waits for every group of widgets, then judges what came of it. -/
def awaitWidgets : Browse σ Unit := do
  let outcomes ← widgets.mapM fun w => do
    return (w.1, ← (Session.waitVisible w.2 appearLimit).attempt)
  outcomes.forM fun o => judgeGroup o.1 o.2

/-- Waits until the data is there. -/
def settle : Browse σ Unit := do
  let spinners ← Session.count spinner
  if ← Browse.ofFault (spinners.exceeds 0) then Session.waitDetached spinner dataLimit
  Session.waitForNetworkIdle dataLimit

/-- Waits until the data is there; that it takes too long is worth a notice. -/
def awaitData : Browse σ Unit := do
  match ← settle.attempt with
  | .ok () => return
  | .error (.automation e) =>
    if e.isTimeout then Browse.tell .dataUnsettled else throw (.automation e)
  | .error f => throw f

/-- How many ticks the phases of a dashboard took. -/
structure Times where
  total : Nat
  container : Nat
  navigation : Nat
  widgets : Nat
  data : Nat
deriving Repr, DecidableEq

/-- The key of each time. -/
def Times.entries (t : Times) : List (String × Nat) :=
  [("dashboard_total_load", t.total), ("dashboard_container_load", t.container),
    ("dashboard_navigation_load", t.navigation), ("dashboard_widgets_load", t.widgets),
    ("dashboard_data_load", t.data)]

/-- Files the times. -/
def Times.record (t : Times) : Browse σ Unit :=
  t.entries.forM fun e => Browse.record .navigation e.1 (.elapsed e.2)

/-- Watches a dashboard come up. -/
def watch : Browse σ Times := do
  let start ← Browse.now
  let containerTime ← Browse.timed (Session.waitVisible container appearLimit)
  let navigationTime ← Browse.timed (Session.waitVisible navigation appearLimit)
  let widgetsTime ← Browse.timed awaitWidgets
  let dataTime ← Browse.timed awaitData
  return ⟨(← Browse.now) - start, containerTime, navigationTime, widgetsTime, dataTime⟩

/-- Watches a dashboard come up, and files how long it took. -/
def measure : Browse σ Unit := do
  let times : Times ← watch
  times.record

end Dashboard

/-! ## Uploading a file -/

namespace Upload

/-- The fields that take a file. -/
def field : Value := .text "input[type=\"file\"]"

/-- The text of the file. -/
def content : String := "This is a test file for performance testing."

/-- Hands a file to the page; that the browser refuses it is worth a notice. -/
def perform : Browse σ Unit := do
  match ← (Session.setInputFiles field (.temporary content)).attempt with
  | .ok () => return
  | .error (.automation e) => Browse.tell (.uploadFailed e.message)
  | .error f => throw f

end Upload

/-! ## Response times of an application's interface -/

namespace ApiTiming

/-- The addresses that are fetched, below that of the application. -/
def endpoints : List String := ["/api/data", "/api/user", "/api/dashboard"]

/-- Files the time of an answer; a fetch that fails has none. -/
def record (endpoint : String) (time : Float) : Browse σ Unit :=
  if 0.0 < time then Browse.record .apiResponse endpoint (.reported time) else return

/-- Fetches every address once. -/
def measure (application : Application) : Browse σ Unit :=
  endpoints.forM fun endpoint => do
    record endpoint
      (← Sampling.apiResponseTime (withoutEndSlashes application.baseUrl ++ endpoint))

end ApiTiming

/-! ## What a user does with mouse and keyboard -/

namespace Interaction

/-- The fields that take text. -/
def inputs : Value := .text "input, textarea"

/-- How high a page is from which on it is scrolled. -/
def tallPage : Int := 800

/-- Scrolls down a tall page and halfway up again. -/
def scroll : Browse σ Unit := do
  let height ← Session.evaluate .scrollHeight
  if height.isTruthy then
    if ← Browse.ofFault (height.exceeds tallPage) then
      Session.mouseWheel (.int 0) (.int 300)
      Session.pause (.int 500)
      Session.mouseWheel (.int 0) (.int (-150))

def visitField : Browse σ Unit := do
  let fields ← Session.count inputs
  if ← Browse.ofFault (fields.exceeds 0) then
    let index ← Browse.drawBelow (← Browse.ofFault fields.toInteger)
    Session.focus inputs index
    Session.press "End"
    Session.pause (.int 200)
    Session.blur inputs index

/-- Waits a moment, moves the mouse, scrolls and visits a field. -/
def simulate : Browse σ Unit := do
  Session.pause (.double (500.0 + (← Browse.drawFraction) * 1000.0))
  Session.mouseMove (.int 100) (.int 100)
  Session.pause (.int 200)
  Session.mouseMove (.int 300) (.int 200)
  scroll
  visitField

end Interaction

/-! ## Submitting a form -/

namespace Submission

/-- The control that submits a form. -/
def control : Value := .text "button[type=\"submit\"], input[type=\"submit\"]"

/-- How many milliseconds the control and the response may take. -/
def limit : Int := 10000

/-- The responses of an application. -/
def responseOf (application : Application) : UrlTest :=
  .startsWith (withoutEndSlashes application.baseUrl)

/-- The key under which the time of a scenario's form is filed. -/
def key (scenario : String) : String := if scenario.isEmpty then "submit" else scenario

/-- Submits a form, and says how many ticks the response took. -/
def submit (application : Application) : Browse σ Nat := do
  Session.waitVisible control limit
  Session.click control
  Session.waitForResponse (responseOf application) limit

/-- Submits a form, files how long the response took, and marks the moment in the page. -/
def measure (application : Application) (scenario : String) : Browse σ Unit := do
  Browse.record .formProcessing (key scenario) (.elapsed (← submit application))
  Sampling.mark "form_submitted"

end Submission

/-! ## All of them -/

inductive BuiltIn where
  | dashboard
  | upload
  | apiTiming
  | interaction
  | submission
  | login
deriving Repr, DecidableEq

namespace BuiltIn

/-- Every built-in action. -/
def all : List BuiltIn := [.dashboard, .upload, .apiTiming, .interaction, .submission, .login]

/-- The name of an action in scenarios. -/
def name : BuiltIn → String
  | .dashboard => "measure-dashboard-widgets"
  | .upload => "upload-test-file"
  | .apiTiming => "measure-api-response-time"
  | .interaction => "simulate-user-interactions"
  | .submission => "measure-form-submission"
  | .login => "login"

/-- The built-in actions by their names. -/
def registry : Registry BuiltIn := .ofList (all.map fun b => (b.name, b))

/-- Signs in, unless the application has no account. -/
def signInIfPossible (application : Application) : Browse σ Unit :=
  match application.credentials with
  | none => Browse.tell (.loginSkipped application.name)
  | some _ => signIn application

/-- Carries out an action for a scenario. -/
def perform (application : Application) (scenario : String) : BuiltIn → Browse σ Unit
  | .dashboard => Dashboard.measure
  | .upload => Upload.perform
  | .apiTiming => ApiTiming.measure application
  | .interaction => Interaction.simulate
  | .submission => Submission.measure application scenario
  | .login => signInIfPossible application

end BuiltIn

end SiteTrial
