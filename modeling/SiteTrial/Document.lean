import SiteTrial.Json.Reader
import SiteTrial.Yaml.Reader
import SiteTrial.Text.Casing
import SiteTrial.Text.Lines
import SiteTrial.Files
/-!
# Documents

* `Format` : the two formats of documents, told from a path's extension;
* `readDocument` : the mapping that a document file holds.
-/

namespace SiteTrial

inductive Format where
  | json
  | yaml
deriving Repr, DecidableEq

namespace Format

/-- The format of an extension in lower case. -/
def ofExtension? (ext : String) : Option Format :=
  if ext = ".yaml" ∨ ext = ".yml" then some .yaml
  else if ext = ".json" then some .json
  else none

def readJson (path text : String) : Except Failure Value :=
  match Json.read text with
  | .ok v => .ok v
  | .error .malformed => .error (.configuration (.unparsable path))
  | .error .integerTooLong => .error (.fault .integerTooLong)
  | .error .tooDeep => .error (.fault .tooDeep)

def readYaml (path text : String) : Except Failure Value :=
  match Yaml.read text with
  | .ok v => .ok v
  | .error .malformed => .error (.configuration (.unparsable path))
  | .error .integerTooLong => .error (.fault .integerTooLong)
  | .error .tooDeep => .error (.fault .tooDeep)
  | .error problem => .error (.fault (.unreadable problem))

def read : Format → (path text : String) → Except Failure Value
  | .json => readJson
  | .yaml => readYaml

end Format

def readDocument (fs : Files) (path : String) : Except Failure Fields := do
  let some text := fs.read? path | .error (.configuration (.fileNotFound path))
  let ext := Text.lower (Path.extension path)
  let some format := Format.ofExtension? ext | .error (.configuration (.unsupportedExtension ext))
  match (← format.read path (Text.unifyLineEnds text)).fields? with
  | some fields => return fields
  | none => .error (.configuration (.notAMapping path))

end SiteTrial
