import SiteTrial.CommandLine.Command
import SiteTrial.Report.Printed
import SiteTrial.Report.Record
import SiteTrial.Report.Recorded
import SiteTrial.Config.Loader
import SiteTrial.Run.Venue
/-!
# Carrying commands out

* `Ending`, `Outcome` : how a command ends, and what it leaves behind; `Ending.exitStatus` : the status
  that the program then has;
* `publish` : prints a report and writes it to a file;
* `RunOptions.outcome`, `CompareOptions.outcome`, `listOutcome` : the three commands;
* `Command.outcome` : any command.

A command ends with the status 0, or 1 if it was refused, or 2 for regressions where they matter. A
fault outside a run ends it without a status.
-/

namespace SiteTrial

inductive Ending where
  | status (n : Nat)
  /-- A failure that nobody turned into a status. -/
  | broken (f : Failure)
deriving Repr, DecidableEq

/-- The status that the program leaves behind: a failure that has none is worth 1. -/
def Ending.exitStatus : Ending → Nat
  | .status n => n
  | .broken _ => 1

structure Outcome where
  ending : Ending := .status 0
  /-- The lines on the standard output. -/
  output : List String := []
  /-- The lines on the error output. -/
  complaints : List String := []
  notices : List Notice := []
  files : Files

namespace Outcome

/-- A command that was refused. -/
def refused (files : Files) (notices : List Notice) (reason : String) : Outcome :=
  { ending := .status 1, complaints := [Text.numbered ("Error: " ++ reason)], notices := notices
    files := files }

/-- A failure before anything was printed; only the program's own kinds are worth a status. -/
def ofFailure (files : Files) (f : Failure) : Outcome :=
  if f.isOwn then refused files [] f.message else { ending := .broken f, files := files }

end Outcome

/-- Puts lines in front of the output; the first that cannot be printed ends the command. -/
def Outcome.printing (files : Files) (lines : List String) (rest : Outcome) : Outcome :=
  if lines.all Text.isWhole then { rest with output := lines ++ rest.output }
  else
    { ending := .broken (.fault .unencodable), output := lines.takeWhile Text.isWhole
      notices := rest.notices, files := files }

/-- Prints a report and writes it to a file, if there is one; then the command ends as it is told. -/
def publish (report : Report) (path : Option String) (ending : Ending) (files : Files)
    (notices : List Notice) : Outcome :=
  .printing files report.openingLines <|
    if report.hasPrintableCounts then
      .printing files report.closingLines <|
        match path with
        | none => { ending := ending, notices := notices, files := files }
        | some path =>
          match files.apply (report.write path) with
          | (.ok _, files) =>
            .printing files ["Report written to " ++ path]
              { ending := ending, notices := notices, files := files }
          | (.error f, files) => { ending := .broken (.fault f), notices := notices, files := files }
    else { ending := .broken (.fault .integerTooLong), notices := notices, files := files }

def givenPath (path : Option String) : Option String := path.filter fun p => !p.isEmpty

namespace RunOptions

/-- The configuration with what the options say. -/
def configure (o : RunOptions) (c : Config) : Config :=
  { c with
    stage := o.stage.getD c.stage
    execution := { c.execution with headless := c.execution.headless && !o.headed } }

/-- The configuration and the scenarios of a run. -/
def load (o : RunOptions) (env : Table String) (files : Files) : Except Failure (Config × Library) := do
  let config ← Config.load files o.configPath env
  let library ← Library.load files o.scenariosPath
  return (o.configure config, library)

/-- What is asked of the run. -/
def request (o : RunOptions) : Request :=
  { scenarios := o.scenarios, iterations := o.iterations, workers := o.workers
    samplesPath := o.samplesPath }

/-- Where the report goes. -/
def reportPathIn (o : RunOptions) (c : Config) : String :=
  (givenPath o.reportPath).getD (Path.joined c.execution.outputPath "performance-report.json")

/-- How a run with a report ends. -/
def ending (o : RunOptions) (r : Report) : Ending :=
  .status (if o.failOnRegression && !r.regressions.isEmpty then 2 else 0)

/-- The scenarios asked for that the library does not hold. -/
def unknown (o : RunOptions) (l : Library) : List String :=
  o.scenarios.filter fun name => !l.contains name

variable {η : Type} [Host η]

/-- What becomes of a run that is over. -/
def conclude (o : RunOptions) (config : Config) (v : Visited η) : Outcome :=
  match v.report with
  | .error f => .refused v.files v.notices f.message
  | .ok report =>
    publish report (some (o.reportPathIn config)) (o.ending report) v.files v.notices

/-- Runs scenarios against both applications; the host is the one that the run was at. -/
def outcome (o : RunOptions) (venue : Venue η) (env : Table String) (files : Files) :
    Outcome × Option η :=
  match o.load env files with
  | .error f => (.ofFailure files f, none)
  | .ok (config, library) =>
    let unknown := o.unknown library
    if unknown.isEmpty then
      let v := compareSitesAt venue config library o.request files
      (o.conclude config v, v.host)
    else (.refused files [] ("unknown scenario(s): " ++ ", ".intercalate unknown), none)

end RunOptions

namespace CompareOptions

/-- The report on two sample files, if both hold samples. -/
def report? (o : CompareOptions) (date : String) (files : Files) : Told (Option Report) := do
  let baseline ← readSamples files o.baselinePath
  let candidate ← readSamples files o.candidatePath
  Report.ofRecorded date o.threshold baseline candidate

/-- Compares recorded samples. -/
def outcome (o : CompareOptions) (date : String) (files : Files) : Outcome :=
  match (o.report? date files).outcome with
  | (.error f, notices) => { ending := .broken f, notices := notices, files := files }
  | (.ok none, notices) =>
    .refused files notices "both sample files must contain at least one sample"
  | (.ok (some report), notices) =>
    publish report (givenPath o.reportPath) (.status 0) files notices

end CompareOptions

/-- The line of a scenario that is read, or not; only the program's own failures have one. -/
def scenarioLine (name : String) : Except Failure Scenario → Except Failure String
  | .ok s => .ok (name ++ ": " ++ toString s.steps.length ++ " step(s) - " ++ s.description)
  | .error f => if f.isOwn then .ok (name ++ ": invalid (" ++ f.message ++ ")") else .error f

/-- Lists the scenarios of some names until one cannot be listed. -/
def listNames (files : Files) (l : Library) : List String → Outcome
  | [] => { files := files }
  | name :: names =>
    let (found, notices) := (l.get name).outcome
    match scenarioLine name found with
    | .error f => { ending := .broken f, notices := notices, files := files }
    | .ok line =>
      if Text.isWhole line then
        let rest := listNames files l names
        { rest with output := line :: rest.output, notices := notices ++ rest.notices }
      else { ending := .broken (.fault .unencodable), notices := notices, files := files }

/-- Lists the scenarios of a file. -/
def listOutcome (path : String) (files : Files) : Outcome :=
  match Library.load files path with
  | .error f => .ofFailure files f
  | .ok l => listNames files l l.names

/-- What can be asked for. -/
def usage : List String :=
  ["Usage: run|compare|scenarios [OPTIONS]",
    "run options: " ++ " ".intercalate (RunOptions.forms.map OptionForm.name),
    "compare options: " ++ " ".intercalate (CompareOptions.forms.map OptionForm.name),
    "scenarios options: " ++ " ".intercalate (Command.listForms.map OptionForm.name)]

/-- Carries a command out. -/
def Command.outcome {η : Type} [Host η] (venue : Venue η) (env : Table String) (date : String)
    (files : Files) : Command → Outcome × Option η
  | .run o => o.outcome venue env files
  | .compare o => (o.outcome date files, none)
  | .list path => (listOutcome path files, none)
  | .help => ({ output := usage, files := files }, none)

end SiteTrial
