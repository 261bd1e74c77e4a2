import SiteTrial.Page.Session
import SiteTrial.Config.Basic
/-!
# Signing in

* `signIn` : opens the login page, fills in the account, submits it and waits to leave the page;
* `SignInTimes.record` : files the five times that this took, all of them or none.
-/

namespace SiteTrial

/-- An address without the slashes at its end. -/
def withoutEndSlashes (url : String) : String :=
  String.ofList (url.toList.reverse.dropWhile (· = '/')).reverse

namespace SignIn

/-- The field for the name of the user. -/
def usernameField : Value :=
  .text "[data-testid=\"username\"], #username, input[name=\"username\"], input[type=\"email\"]"

def passwordField : Value :=
  .text "[data-testid=\"password\"], #password, input[name=\"password\"], input[type=\"password\"]"

/-- The control that submits the form. -/
def submitControl : Value :=
  .text "[data-testid=\"login\"], #login, button[type=\"submit\"], input[type=\"submit\"]"

/-- The elements that show that the account was not accepted. -/
def errorElements : Value :=
  .text "[data-testid=\"error\"], .error, .alert-error, .login-error"

/-- How many milliseconds the login page is given to open. -/
def openLimit : Int := 30000

/-- How many milliseconds each wait on the login page may take. -/
def waitLimit : Int := 10000

/-- What shows that the login page was left. -/
def awayFromLogin : UrlTest := .lacks "/login"

variable {σ : Type} [Page σ]

/-- Waits for a field and fills it in. -/
def fillField (field : Value) (text : String) : Browse σ Unit := do
  Session.waitVisible field waitLimit
  Session.fill field text

/-- Waits until the login page is left. -/
def leave (application : String) : Browse σ Unit := do
  match ← (Session.waitForUrl awayFromLogin waitLimit).attempt with
  | .ok () => return
  | .error (.automation e) =>
    if e.isTimeout then throw (.automation (.stillOnLoginPage application))
    else throw (.automation e)
  | .error f => throw f

/-- Looks whether the account was accepted. -/
def checkAccepted (application : String) : Browse σ Unit := do
  let errors ← Session.count errorElements
  if ← Browse.ofFault (errors.exceeds 0) then throw (.automation (.loginRejected application))

end SignIn

/-- How many ticks the phases of signing in took. -/
structure SignInTimes where
  total : Nat
  username : Nat
  password : Nat
  submit : Nat
  redirect : Nat
deriving Repr, DecidableEq

namespace SignInTimes

/-- The key of each time. -/
def entries (t : SignInTimes) : List (String × Nat) :=
  [("login_total_time", t.total), ("login_username_time", t.username),
    ("login_password_time", t.password), ("login_submit_time", t.submit),
    ("login_redirect_time", t.redirect)]

def record {σ : Type} (t : SignInTimes) : Browse σ Unit :=
  t.entries.forM fun e => Browse.record .navigation e.1 (.elapsed e.2)

end SignInTimes

open SignIn in
/-- Signs in to an application with an account, and says how long it took. -/
def signInAs {σ : Type} [Page σ] (application : Application) (account : Credentials) :
    Browse σ SignInTimes := do
  let start ← Browse.now
  Session.goto (withoutEndSlashes application.baseUrl ++ "/login") openLimit
  let username ← Browse.timed (fillField usernameField account.username)
  let password ← Browse.timed (fillField passwordField account.password)
  let submit ← Browse.timed (Session.click submitControl)
  let redirect ← Browse.timed (leave application.name)
  checkAccepted application.name
  return ⟨(← Browse.now) - start, username, password, submit, redirect⟩

/-- Signs in to an application with its account, and files how long it took. -/
def signIn {σ : Type} [Page σ] (application : Application) : Browse σ Unit := do
  match application.credentials with
  | none => throw (.automation (.noCredentials application.name))
  | some account =>
    let times ← signInAs application account
    times.record

end SiteTrial
