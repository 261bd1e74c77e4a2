import SiteTrial.Failure
import SiteTrial.Table
import SiteTrial.Ticks
import SiteTrial.Sample.Basic
/-!
# The recorder

What sign-in and custom actions measure during one run of a scenario.

* `Category` : the three headings under which measurements are filed;
* `Measurement` : a number of ticks, or milliseconds that a page reported;
* `Recorder.get`, `Recorder.set` : the measurements under a heading;
* `Recorder.getUnder`, `Recorder.setUnder` : the same by the name of a heading, which may not exist;
* `recordedTimes` : measurements in milliseconds.
-/

namespace SiteTrial

inductive Category where
  | navigation
  | apiResponse
  | formProcessing
deriving Repr, DecidableEq

namespace Category

/-- Every heading. -/
def all : List Category := [.navigation, .apiResponse, .formProcessing]

/-- The name of a heading. -/
def key : Category → String
  | .navigation => "navigation_times"
  | .apiResponse => "api_response_times"
  | .formProcessing => "form_processing_times"

/-- The heading of a name. -/
def ofKey? (k : String) : Option Category := all.find? fun c => c.key = k

end Category

/-- A measured time. -/
inductive Measurement where
  /-- The ticks that passed on the clock. -/
  | elapsed (ticks : Nat)
  /-- The milliseconds that a page reported. -/
  | reported (time : Float)

/-- A measured time in milliseconds. -/
def Measurement.milliseconds : Measurement → Float
  | .elapsed ticks => SiteTrial.milliseconds ticks
  | .reported time => time

/-- The measurements of one run of a scenario. -/
structure Recorder where
  navigation : Table Measurement := []
  apiResponse : Table Measurement := []
  formProcessing : Table Measurement := []

namespace Recorder

def get (r : Recorder) : Category → Table Measurement
  | .navigation => r.navigation
  | .apiResponse => r.apiResponse
  | .formProcessing => r.formProcessing

/-- Files a measurement under a heading; a known key keeps its place. -/
def set (r : Recorder) (c : Category) (key : String) (m : Measurement) : Recorder :=
  match c with
  | .navigation => { r with navigation := r.navigation.put key m }
  | .apiResponse => { r with apiResponse := r.apiResponse.put key m }
  | .formProcessing => { r with formProcessing := r.formProcessing.put key m }

/-- Files a measurement under the heading of a name. -/
def setUnder (r : Recorder) (name key : String) (m : Measurement) : Except Failure Recorder :=
  match Category.ofKey? name with
  | some c => .ok (r.set c key m)
  | none => .error (.category name)

def getUnder (r : Recorder) (name : String) : Except Failure (Table Measurement) :=
  match Category.ofKey? name with
  | some c => .ok (r.get c)
  | none => .error (.fault (.missingKey name))

end Recorder

def recordedTimes (t : Table Measurement) : Table Float := t.map fun e => (e.1, e.2.milliseconds)

/-- Times as the entries of a record. -/
def timeFields (t : Table Float) : Fields := t.map fun e => (.text e.1, .double e.2)

end SiteTrial
