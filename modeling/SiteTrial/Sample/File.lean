import SiteTrial.Sample.Record
import SiteTrial.Json.Reader
import SiteTrial.Json.Writer
import SiteTrial.Text.Lines
import SiteTrial.Files
import SiteTrial.Notice
/-!
# Sample files

One record on each line.

* `Sample.line` : the line of a sample;
* `readLine` : what a line holds: nothing, a sample, a malformed record, or one that ends the reading;
* `readSamples`, `appendSample` : reading and extending a sample file.
-/

namespace SiteTrial

def Sample.line (s : Sample) : String := Json.line s.toValue ++ "\n"

/-- What one line of a sample file holds. -/
inductive LineContent where
  | blank
  | sample (s : Sample)
  | malformed
  /-- A record that is too deep, or has a number that no sample can hold. -/
  | broken (f : Fault)

/-- Whether a fault makes the record malformed, and does not end the reading. -/
def Fault.isMalformed : Fault → Bool
  | .integerTooLarge | .infiniteInteger | .squareTooLarge | .tooDeep => false
  | _ => true

def readLine (line : List Char) : LineContent :=
  let cs := Text.trimChars line
  if cs.isEmpty then .blank
  else match Json.read (String.ofList cs) with
    | .error .tooDeep => .broken .tooDeep
    | .error _ => .malformed
    | .ok v =>
      match Sample.ofValue v with
      | .ok s => .sample s
      | .error f => if f.isMalformed then .malformed else .broken f

/-- The samples of lines, the first of which has the given number. -/
def readLines (path : String) (number : Nat) : List (List Char) → Told (List Sample)
  | [] => return []
  | line :: rest =>
    match readLine line with
    | .blank => readLines path (number + 1) rest
    | .sample s => do return s :: (← readLines path (number + 1) rest)
    | .malformed => do
      Told.tell (.malformedSample number path)
      readLines path (number + 1) rest
    | .broken f => throw (.fault f)

/-- The samples of a file, none if it does not exist. -/
def readSamples (fs : Files) (path : String) : Told (List Sample) :=
  match fs.read? path with
  | none => return []
  | some text => readLines path 1 (Text.lines text)

/-- Puts a sample behind those of a file. -/
def appendSample (path : String) (s : Sample) : Filing Unit := Filing.append path s.line

end SiteTrial
