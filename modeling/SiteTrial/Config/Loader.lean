import SiteTrial.Config.Basic
import SiteTrial.Document
/-!
# Reading configurations

A document is read part by part, environment variables taking precedence; faults are gathered and
reported together.

* `Check` : a part of the reading, with the faults found so far;
* `Check.application`, `Check.environment`, `Check.execution` : the parts;
* `Config.ofDocument`, `Config.load` : the configuration of a document and of a file;
* `Config.settingNames` : the environment variables that are heeded.
-/

namespace SiteTrial

abbrev Check := StateT (List ConfigFault) (Except Fault)

namespace Check

/-- Notes a fault. -/
def complain (f : ConfigFault) : Check Unit := modify (· ++ [f])

/-- A computation that finds no faults. -/
def of {α : Type} (r : Except Fault α) : Check α := liftM r

/-- A variable that is set to some text. -/
def setting? (env : Table String) (name : String) : Option String :=
  (env.get? name).filter fun s => !s.isEmpty

/-- A positive integer in a variable, if there is one. -/
def positiveSetting (env : Table String) (name : String) : Check (Option Nat) := do
  match setting? env name with
  | none => return none
  | some s =>
    match Decimal.readInt? s with
    | none => do
      complain (.notAnInteger name (Text.quoted s))
      return none
    | some n =>
      if 1 ≤ n then return some n.toNat
      else
        complain (.notPositive name)
        return none

/-- A value that should be a mapping; another one is a fault and counts as an empty one. -/
def mappingOr (fault : ConfigFault) (v : Value) : Check Fields := do
  match v.fields? with
  | some fs => return fs
  | none => do
    complain fault
    return []

/-! ## Applications -/

/-- What an application is where a document says nothing of it. -/
def defaultApplication : Side → Fields
  | .baseline => [(.text "name", .text "Baseline Application"),
      (.text "baseUrl", .text "http://localhost:8001/baseline")]
  | .candidate => [(.text "name", .text "Candidate Application"),
      (.text "baseUrl", .text "http://localhost:8001/candidate")]

/-- The value of a variable, or else of an entry. -/
def settingOr (env : Table String) (name : String) (other : Except Fault Value) :
    Except Fault Value :=
  match setting? env name with
  | some s => .ok (.text s)
  | none => other

/-- The account of a side, if it has a name or a password. -/
def credentials (env : Table String) (side : Side) (entry : Value) :
    Except Fault (Option Credentials) := do
  let given := entry.orElse (.mapping [])
  let username ← settingOr env (side.settingStem ++ "_USERNAME") (given.member "username")
  let password ← settingOr env (side.settingStem ++ "_PASSWORD") (given.member "password")
  if username.isTruthy || password.isTruthy then
    let username ← (username.orElse (.text "")).toText?
    let password ← (password.orElse (.text "")).toText?
    return some ⟨username, password, ← (← given.memberD "accountType" (.text "")).toText?⟩
  else return none

/-- The address of a side. -/
def baseUrl (env : Table String) (side : Side) (entry : Fields) : Check String := do
  let value ← of (settingOr env (side.settingStem ++ "_BASE_URL") (.ok (entry.get "baseUrl")))
  match value with
  | .text s => if s.isEmpty then missing else return s
  | _ => missing
where
  /-- The fault that there is no address. -/
  missing : Check String := do
    complain (.addressMissing side.key)
    return ""

def application (document : Fields) (env : Table String) (side : Side) :
    Check (Option Application) := do
  match (document.getD side.key (.mapping (defaultApplication side))).fields? with
  | some entry =>
    let url ← baseUrl env side entry
    let credentials ← of (credentials env side (entry.get "credentials"))
    return some {
      name := ← of (entry.getD "name" (.text side.key)).toText?
      baseUrl := url
      technology := ← of (entry.getD "technology" (.text "")).toText?
      credentials := credentials }
  | none =>
    complain (.applicationNotAMapping side.key)
    return none

/-! ## Environments -/

/-- A positive integer; another value is a fault and counts as one. -/
def positive (fault : ConfigFault) : Value → Check Nat
  | .int n => if 1 ≤ n then return n.toNat else refused
  | .bool true => return 1
  | _ => refused
where
  /-- The fault that the value is none. -/
  refused : Check Nat := do
    complain fault
    return 1

/-- How the network is slowed down. -/
def network (fs : Fields) : Except Fault NetworkConditions := do
  let download ← (fs.getD "downloadThroughput" (.int (-1))).toDouble
  let upload ← (fs.getD "uploadThroughput" (.int (-1))).toDouble
  let latency ← (fs.getD "latency" (.int 0)).toDouble
  return ⟨(fs.getD "offline" (.bool false)).isTruthy, download, upload, latency⟩

/-- How the network is slowed down, if a value says so. -/
def network? (stage : Stage) (v : Value) : Check (Option NetworkConditions) := do
  match v.fields? with
  | some fs => some <$> of (network fs)
  | none =>
    if !v.isNull then complain (.networkNotAMapping stage.key)
    return none

/-- An environment; `iterations` takes precedence over what the document says. -/
def environment (document : Fields) (iterations : Option Nat) (stage : Stage) :
    Check (Option Environment) := do
  match (document.getD stage.key (.mapping [])).fields? with
  | some entry =>
    let instances ← positive (.badParallelInstances stage.key) (entry.getD "parallelInstances" (.int 1))
    let own ← positive (.badIterations stage.key) (entry.getD "iterations" (.int 1))
    let network ← network? stage (entry.get "networkConditions")
    return some {
      name := ← of (entry.getD "name" (.text stage.key)).toText?
      parallelInstances := instances
      iterations := iterations.getD own
      network := network }
  | none =>
    complain (.environmentNotAMapping stage.key)
    return none

/-! ## The run itself -/

/-- A list of names; another value is a fault and counts as an empty list. -/
def scenarioNames (v : Value) : Check (List String) := do
  match v.items?.bind fun items => items.mapM Value.text? with
  | some names => return names
  | none =>
    complain .badScenarios
    return []

/-- Whether a numeric value is below zero. -/
def isNegative : Value → Bool
  | .int n => n < 0
  | .double x => x < 0.0
  | _ => false

/-- A number that is not negative; another value is a fault and counts as fifteen. -/
def regressionThreshold (v : Value) : Check Value := do
  if v.isNumeric && !isNegative v then return v
  else
    complain .badRegressionThreshold
    return .double 15.0

/-- A pause; a value that is none is a fault and counts as two seconds. -/
def iterationDelay : Value → Check Nat
  | .int n => if 0 ≤ n then return n.toNat else refused
  | .bool b => return if b then 1 else 0
  | _ => refused
where
  /-- The fault that the value is none. -/
  refused : Check Nat := do
    complain .badIterationDelay
    return 2000

/-- Whether a variable asks for visible browser windows. -/
def isHeaded (env : Table String) : Bool :=
  Text.lower ((env.get? "HEADED").getD "") = "true"

/-- What is configured for the run itself. -/
def execution (document : Value) (env : Table String) : Check Execution := do
  let entry ← mappingOr .executionNotAMapping document
  let scenarios ← scenarioNames (entry.getD "scenarios" (.list []))
  let overrides ← mappingOr .thresholdsNotAMapping (entry.getD "thresholds" (.mapping []))
  let regression ← regressionThreshold (entry.getD "regressionThreshold" (.double 15.0))
  let delay ← iterationDelay (entry.getD "iterationDelayMs" (.int 2000))
  let outputPath ← match setting? env "OUTPUT_PATH" with
    | some path => pure path
    | none => of (entry.getD "outputPath" (.text "./reports")).toText?
  let thresholds ← of (({} : Thresholds).merged overrides)
  let threshold ← of regression.numericOrZero
  return {
    scenarios := scenarios
    outputPath := outputPath
    thresholds := thresholds
    regressionThreshold := threshold
    iterationDelay := delay
    headless := (entry.getD "headless" (.bool true)).isTruthy && !isHeaded env }

/-- The environment that the run uses. -/
def stage (document : Fields) (env : Table String) : Check (Option Stage) := do
  let value := ((setting? env "TEST_ENVIRONMENT").map Value.text).getD
    (document.getD "environment" (.text "pre"))
  match value.text?.bind Stage.ofKey? with
  | some s => return some s
  | none =>
    complain (.unknownEnvironment (← of value.shown?))
    return none

/-- The two applications need names of their own. -/
def distinctNames : Option Application → Option Application → Check Unit
  | some a, some b => if a.name = b.name then complain (.sameNames (Text.quoted a.name)) else return ()
  | _, _ => return ()

/-- The configuration, if every part of it is there. -/
def config (document : Fields) (env : Table String) : Check (Option Config) := do
  let applications ← mappingOr .applicationsNotAMapping (document.getD "applications" (.mapping []))
  let baseline ← application applications env .baseline
  let candidate ← application applications env .candidate
  let environments ← mappingOr .environmentsNotAMapping (document.getD "environments" (.mapping []))
  let iterations ← positiveSetting env "ITERATION_COUNT"
  let pre ← environment environments iterations .pre
  let pro ← environment environments iterations .pro
  let execution ← execution (document.getD "execution" (.mapping [])) env
  let stage ← stage document env
  let workers ← positiveSetting env "WORKER_COUNT"
  distinctNames baseline candidate
  return do
    return {
      baseline := ← baseline
      candidate := ← candidate
      pre := ← pre
      pro := ← pro
      execution := execution
      stage := ← stage
      workers := workers }

end Check

namespace Config

/-- The configuration of a document, variables taking precedence. -/
def ofDocument (document : Fields) (env : Table String) : Except Failure Config := do
  match ← ((Check.config document env).run []).mapError .fault with
  | (some config, []) => return config
  | (_, faults) => .error (.configuration (.invalidConfig faults))

def settingNames : List String :=
  ["TEST_ENVIRONMENT", "ITERATION_COUNT", "WORKER_COUNT", "OUTPUT_PATH", "HEADED"]
    ++ Side.all.flatMap fun side =>
      ["_BASE_URL", "_USERNAME", "_PASSWORD"].map (side.settingStem ++ ·)

/-- The configuration of a file, or the default one without a path. -/
def load (fs : Files) (path : Option String) (env : Table String) : Except Failure Config := do
  let document ← match path.filter fun p => !p.isEmpty with
    | some p => readDocument fs p
    | none => pure []
  ofDocument document env

end Config

end SiteTrial
