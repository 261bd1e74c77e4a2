import SiteTrial.Text.Path
import SiteTrial.Text.Half
import SiteTrial.Table
import SiteTrial.Failure
/-!
# Files

The files that a run reads and writes.

* `Node`, `Files` : files with their text and directories, by the places where they stand;
* `Reached`, `Files.reach` : where the walk along a path ends. Every name is looked up in a directory,
  the two points that lead upwards as well;
* `Files.inspect` : what stands at a path, `Files.read?` and `Files.isDirectory` ask the same;
* `Files.get` : the text of a file that should be there;
* `Filing` : a step that changes files; what was done before a fault remains;
* `Filing.makeDirectory`, `Filing.makeDirectories` : one directory, and those along a path;
* `Filing.write`, `Filing.append` : sets or extends a file, making the directories above it first.
-/

namespace SiteTrial

/-- What can stand at a place. -/
inductive Node where
  | file (text : String)
  | directory
deriving Repr, DecidableEq

/-- The names that lead to a place from the working directory, two points for each step upwards, or from
the root, which is a name of its own. -/
abbrev Place := List String

namespace Place

def root : Place := ["/"]

def above (p : Place) : Place :=
  if p = root then root
  else if p.all (· = "..") then ".." :: p
  else p.dropLast

/-- Whether a place is the root, the working directory or a place above that. -/
def isGiven (p : Place) : Bool := p = root || p.all (· = "..")

/-- Whether a place lies below the working directory. -/
def isInside (p : Place) : Bool := p.head? != some ".." && p.head? != some "/"

/-- The names with slashes between them. -/
def text (p : Place) : String := "/".intercalate p

end Place

structure Files where
  nodes : List (Place × Node) := []
deriving Repr, DecidableEq

inductive Reached where
  | found (place : Place) (n : Node)
  /-- Nothing stands at the end, but there is a directory for it. -/
  | vacant (place : Place)
  /-- Nothing stands at a place on the way. -/
  | lost
  /-- A file stands on the way. -/
  | blocked
  /-- A name on the way, or all of them together, are too long. -/
  | tooLong
deriving Repr, DecidableEq

namespace Files

/-- What stands at a place. -/
def at? (fs : Files) (p : Place) : Option Node :=
  if p.isGiven then some .directory else fs.nodes.lookup p

def set (fs : Files) (p : Place) (n : Node) : Files := ⟨putAt fs.nodes⟩
where
  /-- Sets what stands at the place, which keeps its position if it is known. -/
  putAt : List (Place × Node) → List (Place × Node)
    | [] => [(p, n)]
    | e :: rest => if e.1 = p then (p, n) :: rest else e :: putAt rest

/-- Whether a code point is half of a pair that stands for a byte of a name. -/
def isByte (n : Nat) : Bool := 0xDC80 ≤ n && n < 0xDD00

/-- How many bytes a name or path has. -/
def byteCount (path : String) : Nat :=
  ((Text.points path.toList).map fun n => if isByte n then 1 else (Char.ofNat n).utf8Size).foldr (· + ·) 0

/-- How many bytes a name may have. -/
def longestName : Nat := 255

/-- How many bytes a path may have. -/
def longestPath : Nat := 4095

/-- Walks along names from a place. -/
def walk (fs : Files) (here : Place) : List String → Reached
  | [] =>
    match fs.at? here with
    | some n => .found here n
    | none => .vacant here
  | name :: names =>
    match fs.at? here with
    | none => .lost
    | some (.file _) => .blocked
    | some .directory =>
      if name = "." then fs.walk here names
      else if name = ".." then fs.walk here.above names
      else if longestName < byteCount name then .tooLong
      else fs.walk (here ++ [name]) names

/-- Where the walk along a path ends, whether or not it can only mean a directory. -/
def reach (fs : Files) (path : String) : Reached :=
  if path.isEmpty then .lost
  else if longestPath < byteCount path then .tooLong
  else fs.walk (if Path.isAbsolute path then Place.root else []) (Path.names path)

/-- Whether a path can be asked about at all. -/
def checkText (path : String) : Except Fault Unit :=
  if (Text.points path.toList).any fun n => Text.isHalf n && !isByte n then .error .unencodable
  else if path.toList.contains '\x00' then .error .nullInPath
  else .ok ()

def inspect (fs : Files) (path : String) : Except Fault (Option Node) := do
  checkText path
  match fs.reach path with
  | .found _ (.file text) => return if Path.endsOpen path then none else some (.file text)
  | .found _ .directory => return some .directory
  | _ => return none

/-- What stands at a path, nothing if it cannot be asked about. -/
def node? (fs : Files) (path : String) : Option Node := (fs.inspect path).toOption.join

/-- The text of a file. -/
def read? (fs : Files) (path : String) : Option String :=
  match fs.node? path with
  | some (.file text) => some text
  | _ => none

/-- The fault of a walk that does not end where something stands. -/
def astray (path : String) : Reached → Fault
  | .tooLong => .nameTooLong path
  | .blocked => .notADirectory path
  | _ => .fileNotFound path

def get (fs : Files) (path : String) : Except Fault String := do
  checkText path
  match fs.reach path with
  | .found _ (.file text) => if Path.endsOpen path then .error (.notADirectory path) else return text
  | .found _ .directory => .error (.isADirectory path)
  | reached => .error (astray path reached)

/-- Whether a directory stands at a path. -/
def isDirectory (fs : Files) (path : String) : Bool := fs.node? path == some .directory

/-- Sets what stands at a path, if there is a directory for it. -/
def put (fs : Files) (path : String) (n : Node) : Files :=
  match fs.reach path with
  | .found place _ | .vacant place => fs.set place n
  | _ => fs

/-- The files below the working directory and their texts, by paths. -/
def texts (fs : Files) : Table String :=
  fs.nodes.filterMap fun e => match e.2 with
    | .file text => if e.1.isInside then some (e.1.text, text) else none
    | .directory => none

end Files

abbrev Filing := ExceptT Fault (StateM Files)

namespace Filing

/-- A computation that changes no files. -/
def of {α : Type} : Except Fault α → Filing α
  | .ok a => return a
  | .error f => throw f

/-- A directory at a path, above which there are directories. -/
def makeDirectory (path : String) : Filing Unit := do
  of (Files.checkText path)
  match (← get).reach path with
  | .found _ .directory => return ()
  | .found _ (.file _) => throw (.fileExists path)
  | .vacant place => modify fun fs => fs.set place .directory
  | reached => throw (Files.astray path reached)

/-- The directories along a path. -/
def makeDirectories (path : String) : Filing Unit := do
  (Path.stages path).dropLast.forM fun stage => do
    if ((← get).node? stage).isNone then makeDirectory stage
  makeDirectory path

/-- The place of a file that is written, an existing one or not, below directories that are there. -/
def openBelow (path : String) : Filing Place := do
  of (Files.checkText path)
  match (← get).reach path with
  | .found _ .directory => throw (.isADirectory path)
  | .found place (.file _) | .vacant place =>
    if Path.endsOpen path then throw (.isADirectory path) else return place
  | reached => throw (Files.astray path reached)

/-- The place of a file that is written, below directories that are made. -/
def openFile (path : String) : Filing Place := do
  let above := Path.parent path
  if !above.isEmpty && !(← get).isDirectory above then makeDirectories above
  openBelow path

/-- Sets the text of a file, which is computed when the file is open. -/
def write (path : String) (text : Except Fault String) : Filing Unit := do
  let place ← openFile path
  modify fun fs => fs.set place (.file "")
  let text ← of text
  modify fun fs => fs.set place (.file text)

/-- Puts text behind what a file holds. -/
def append (path text : String) : Filing Unit := do
  let place ← openFile path
  modify fun fs =>
    let before := match fs.at? place with
      | some (.file before) => before
      | _ => ""
    fs.set place (.file (before ++ text))

end Filing

namespace Files

/-- What a step comes to, and the files behind it. -/
def apply {α : Type} (fs : Files) (step : Filing α) : Except Fault α × Files := step.run.run fs

/-- Files given by their paths and texts, with the directories above them. -/
def ofTexts (entries : List (String × String)) : Except Fault Files :=
  let (result, fs) := Files.apply {} (entries.forM fun e => Filing.write e.1 (.ok e.2))
  result.map fun _ => fs

end Files

end SiteTrial
