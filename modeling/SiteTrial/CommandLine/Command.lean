import SiteTrial.CommandLine.Words
import SiteTrial.Config.Basic
import SiteTrial.Decimal.Numeral
import SiteTrial.Files
/-!
# Commands

* `Command` : what a command line asks for: a run, a comparison of recorded samples, or a list of
  scenarios;
* `Refusal` : why a command line is not carried out;
* `Words.check` : the values of all options are such as the options take;
* `Command.ofWords` : the command of a command line; paths of inputs must exist.
-/

namespace SiteTrial

/-- What a run is asked to do. -/
structure RunOptions where
  configPath : Option String := none
  scenariosPath : String
  scenarios : List String := []
  iterations : Option Int := none
  workers : Option Int := none
  stage : Option Stage := none
  /-- Whether the browser shows its windows. -/
  headed : Bool := false
  reportPath : Option String := none
  samplesPath : Option String := none
  failOnRegression : Bool := false

/-- What a comparison of recorded samples is asked to do. -/
structure CompareOptions where
  baselinePath : String
  candidatePath : String
  /-- The least percentage that counts as a regression. -/
  threshold : Float := 15.0
  reportPath : Option String := none

inductive Command where
  | run (o : RunOptions)
  | compare (o : CompareOptions)
  | list (scenariosPath : String)
  /-- A list of what can be asked for. -/
  | help

inductive Refusal where
  | usage (e : UsageError)
  /-- A path that cannot be asked about. -/
  | fault (f : Fault)
deriving Repr, DecidableEq

namespace Refusal

/-- The wording of a refusal. -/
def message : Refusal → String
  | .usage e => e.message
  | .fault f => f.message

end Refusal

namespace Words

/-- A positive integer. -/
def positive? (value : String) : Option Int := (Decimal.readInt? value).filter fun n => 1 ≤ n

/-- A number that is not below zero. -/
def threshold? (value : String) : Option Float := (Decimal.readDouble? value).filter fun x => !(x < 0.0)

/-- The levels of log messages. -/
def logLevels : List String := ["debug", "info", "warning", "error"]

/-- The level of log messages. -/
def logLevel? (value : String) : Option String :=
  logLevels.find? fun level => level = String.ofList (value.toList.map Char.toLower)

/-- Whether a value is one that options of a kind take, paths apart. -/
def suits (value : String) : OptionKind → Bool
  | .positiveInteger => (positive? value).isSome
  | .threshold => (threshold? value).isSome
  | .stage => (Stage.ofKey? value).isSome
  | .logLevel => (logLevel? value).isSome
  | .flag | .word | .path | .existingPath => true

/-- Checks the value of an option, or that none is needed. -/
def checkOption (fs : Files) (ws : Words) (form : OptionForm) : Except Refusal Unit :=
  match ws.last? form.name with
  | none => if form.required then .error (.usage (.optionMissing form.name)) else .ok ()
  | some value =>
    if form.kind = .path ∨ form.kind = .existingPath then do
      let found ← (fs.inspect value).mapError .fault
      if form.kind = .existingPath ∧ found.isNone then .error (.usage (.noSuchPath form.name value))
    else if suits value form.kind then .ok ()
    else .error (.usage (.badValue form.name value))

def check (fs : Files) (ws : Words) (forms : List OptionForm) : Except Refusal Unit :=
  (ws.turns forms).forM (ws.checkOption fs)

/-- The value of an option, empty where none is given. -/
def value (ws : Words) (name : String) : String := (ws.last? name).getD ""

end Words

namespace RunOptions

/-- The options of a run. -/
def forms : List OptionForm :=
  [⟨"--config", .existingPath, false⟩, ⟨"--scenarios-file", .existingPath, true⟩,
    ⟨"--scenario", .word, false⟩, ⟨"--iterations", .positiveInteger, false⟩,
    ⟨"--workers", .positiveInteger, false⟩, ⟨"--environment", .stage, false⟩, ⟨"--headed", .flag, false⟩,
    ⟨"--out", .path, false⟩, ⟨"--samples", .path, false⟩, ⟨"--fail-on-regression", .flag, false⟩,
    ⟨"--log-level", .logLevel, false⟩, ⟨"--help", .flag, false⟩]

/-- What a run is asked to do by options that are checked. -/
def ofWords (ws : Words) : RunOptions :=
  { configPath := ws.last? "--config"
    scenariosPath := ws.value "--scenarios-file"
    scenarios := ws.all "--scenario"
    iterations := (ws.last? "--iterations").bind Words.positive?
    workers := (ws.last? "--workers").bind Words.positive?
    stage := (ws.last? "--environment").bind Stage.ofKey?
    headed := ws.has "--headed"
    reportPath := ws.last? "--out"
    samplesPath := ws.last? "--samples"
    failOnRegression := ws.has "--fail-on-regression" }

end RunOptions

namespace CompareOptions

/-- The options of a comparison. -/
def forms : List OptionForm :=
  [⟨"--baseline", .existingPath, true⟩, ⟨"--candidate", .existingPath, true⟩,
    ⟨"--threshold", .threshold, false⟩, ⟨"--out", .path, false⟩, ⟨"--help", .flag, false⟩]

/-- What a comparison is asked to do by options that are checked. -/
def ofWords (ws : Words) : CompareOptions :=
  { baselinePath := ws.value "--baseline"
    candidatePath := ws.value "--candidate"
    threshold := ((ws.last? "--threshold").bind Words.threshold?).getD 15.0
    reportPath := ws.last? "--out" }

end CompareOptions

namespace Command

def listForms : List OptionForm :=
  [⟨"--scenarios-file", .existingPath, true⟩, ⟨"--help", .flag, false⟩]

/-- The command that options ask for, which takes no other words. -/
def ofOptions (fs : Files) (forms : List OptionForm) (make : Words → Command) (words : List String) :
    Except Refusal Command := do
  let ws ← (Words.read forms words).mapError .usage
  if ws.has "--help" then return .help
  ws.check fs forms
  if ws.others.isEmpty then return make ws else .error (.usage (.otherWords ws.others))

def ofName (fs : Files) (name : String) (words : List String) : Except Refusal Command :=
  match name with
  | "run" => ofOptions fs RunOptions.forms (fun ws => .run (RunOptions.ofWords ws)) words
  | "compare" =>
    ofOptions fs CompareOptions.forms (fun ws => .compare (CompareOptions.ofWords ws)) words
  | "scenarios" => ofOptions fs listForms (fun ws => .list (ws.value "--scenarios-file")) words
  | name => .error (.usage (.unknownCommand name))

def ofWords (fs : Files) : List String → Except Refusal Command
  | [] => .error (.usage .noCommand)
  | "--help" :: _ => .ok .help
  | "--" :: name :: words => ofName fs name words
  | name :: words =>
    if Words.isOption name then .error (.usage (.unknownOption name)) else ofName fs name words

end Command

end SiteTrial
