import SiteTrial.CommandLine.Outcome
import Std.Time.DateTime.Timestamp
/-!
# The program

Reads what a command line speaks of, carries the command out and writes what has changed. There is no
browser here, so that a run ends when it asks for one.

* `Program.snapshot` : the files that a command can read or change;
* `Program.store`, `Program.tell` : writes the changes and prints the rest;
* `Program.run` : all of it;
* `main` : the program.
-/

namespace SiteTrial.Program

/-- The characters of a text, halves of pairs of code units by number. -/
def bare (s : String) : String := (Text.whole? (Text.numbered s)).getD s

/-- The environment variables that are set. -/
def environment : IO (Table String) := do
  Config.settingNames.filterMapM fun name => do
    return (← IO.getEnv name).map fun value => (name, Text.held value)

/-- The date and time. -/
def date : IO String := do
  let t ← Std.Time.Timestamp.now
  return (Moment.ofMicros (t.toNanosecondsSinceUnixEpoch.val.toNat / 1000)).stamp

/-- What stands at a path. -/
def look (path : String) : IO (Option Node) := do
  try
    return some (.file (Text.held (← IO.FS.readFile (bare path))))
  catch _ =>
    try
      discard <| IO.FS.realPath (bare path)
      return some .directory
    catch _ => return none

/-- The files with what stands on the way to a path. -/
def enter (files : Files) (path : String) : IO Files :=
  (Path.stages path).foldlM (fun files stage => do
    match ← look stage with
    | some node => return files.put stage node
    | none => return files) files

/-- The paths that words can mean. -/
def pathsOf (words : List String) : List String :=
  words.flatMap fun word => word :: ((Words.splitOption word).2).toList

/-- Where the report of a run goes, if words ask for a run. -/
def reportPath? (env : Table String) (files : Files) (words : List String) : Option String :=
  match Command.ofWords files words with
  | .ok (.run o) => (o.load env files).toOption.map fun loaded => o.reportPathIn loaded.1
  | _ => none

def snapshot (env : Table String) (words : List String) : IO (Files × List String) := do
  let paths := pathsOf words
  let files ← paths.foldlM enter {}
  let more := (reportPath? env files words).toList
  return (← more.foldlM enter files, paths ++ more)

/-- Writes the files that have changed. -/
def store (before after : Files) (paths : List String) : IO Unit :=
  paths.forM fun path => do
    if before.read? path != after.read? path then
      if let some text := after.read? path then
        let directory := Path.parent path
        if !directory.isEmpty then IO.FS.createDirAll (bare directory)
        IO.FS.writeFile (bare path) (bare text)

/-- Prints what a command says, and gives its status. -/
def tell (o : Outcome) : IO UInt32 := do
  o.output.forM fun line => IO.println (bare line)
  o.notices.forM fun n => IO.eprintln (bare n.line)
  o.complaints.forM fun line => IO.eprintln (bare line)
  if let .broken f := o.ending then IO.eprintln (bare f.message)
  return o.ending.exitStatus.toUInt32

/-- Carries out what words ask for, and gives the status. -/
def run (words : List String) : IO UInt32 := do
  let env ← environment
  let (files, paths) ← snapshot env words
  match Command.ofWords files words with
  | .error e => do
    IO.eprintln (bare ("Error: " ++ e.message))
    return 2
  | .ok command =>
    let (outcome, _) := command.outcome Venue.nowhere env (← date) files
    store files outcome.files paths
    tell outcome

end SiteTrial.Program

def main (words : List String) : IO UInt32 := SiteTrial.Program.run (words.map SiteTrial.Text.held)
