import SiteTrial.Scenario.Definition
import SiteTrial.Scenario.TestData
import SiteTrial.Document
import SiteTrial.Table
/-!
# Scenario libraries

* `Library` : the scenarios of a file as they are written, each under its name, and its test data;
* `Library.get` : a scenario, read when it is asked for, so that a malformed one harms no other;
* `Library.expectedMetrics` : the overrides of thresholds that a scenario asks for;
* `Library.ofDocument`, `Library.load` : the library of a document and of a file.
-/

namespace SiteTrial

structure Library where
  entries : Table Fields := []
  testData : TestData := {}
  /-- Every entry stands under the name that it states. -/
  named : ∀ e ∈ entries, Fields.get e.2 "name" = .text e.1 := by simp

namespace Library

/-- The names of the scenarios. -/
def names (l : Library) : List String := l.entries.keys

/-- Whether there is a scenario of a name. -/
def contains (l : Library) (name : String) : Bool := l.entries.has name

def get (l : Library) (name : String) : Told Scenario :=
  match l.entries.get? name with
  | none => throw (.configuration (.unknownScenario name))
  | some fs => Scenario.ofFields fs

/-- The overrides of thresholds that a scenario asks for, none if they are no mapping. -/
def expectedMetrics (l : Library) (name : String) : Fields :=
  match l.entries.get? name with
  | none => []
  | some fs => ((Fields.get fs "expectedMetrics").fields?).getD []

/-! ## Documents -/

/-- What an entry of the list of scenarios comes to, given the names before it. -/
def checkEntry (index : Nat) (seen : List String) (v : Value) :
    Except LibraryFault (String × Fields) :=
  match v.fields? with
  | some fs =>
    match Scenario.nameOf? (fs.get "name") with
    | none => .error (.entryWithoutName index)
    | some name => if seen.contains name then .error (.duplicateName name) else .ok (name, fs)
  | none => .error (.entryNotAMapping index)

/-- The faults and the good entries of the list of scenarios, from an index on. -/
def checkEntries (index : Nat) (seen : List String) :
    List Value → List LibraryFault × Table Fields
  | [] => ([], [])
  | v :: vs =>
    match checkEntry index seen v with
    | .error fault =>
      let (faults, entries) := checkEntries (index + 1) seen vs
      (fault :: faults, entries)
    | .ok (name, fs) =>
      let (faults, entries) := checkEntries (index + 1) (name :: seen) vs
      (faults, (name, fs) :: entries)

/-- The faults and the good entries of a document. -/
def checkScenarios (document : Fields) : List LibraryFault × Table Fields :=
  match (document.get "scenarios").items? with
  | some entries => checkEntries 0 [] entries
  | none => ([.scenariosMissing], [])

theorem get_name_of_checkEntry {index : Nat} {seen : List String} {v : Value} {e : String × Fields}
    (h : checkEntry index seen v = .ok e) : Fields.get e.2 "name" = .text e.1 := by
  unfold checkEntry at h
  split at h
  · split at h
    · cases h
    · rename_i name hname
      split at h
      · cases h
      · cases h
        exact Scenario.eq_text_of_nameOf? hname
  · cases h

/-- The good entries of a list stand under the names that they state. -/
theorem named_checkEntries {index : Nat} {seen : List String} {vs : List Value} :
    ∀ e ∈ (checkEntries index seen vs).2, Fields.get e.2 "name" = .text e.1 := by
  induction vs generalizing index seen with
  | nil => simp [checkEntries]
  | cons v vs ih =>
    intro e he
    unfold checkEntries at he
    split at he
    · exact ih e he
    · rename_i name fs hok
      rcases List.mem_cons.1 he with rfl | he
      · exact get_name_of_checkEntry hok
      · exact ih e he

/-- The good entries of a document stand under the names that they state. -/
theorem named_checkScenarios (document : Fields) :
    ∀ e ∈ (checkScenarios document).2, Fields.get e.2 "name" = .text e.1 := by
  unfold checkScenarios
  split
  · exact named_checkEntries
  · simp

def checkTestData (document : Fields) : List LibraryFault × Value :=
  match (document.getD "testData" (.mapping [])).fields? with
  | some data =>
    match (data.getD "users" (.list [])).items? with
    | some _ => ([], .mapping data)
    | none => ([.usersNotAList], .mapping data)
  | none => ([.testDataNotAMapping], .mapping [])

/-- The library of a document; all faults are reported together. -/
def ofDocument (document : Fields) : Except Failure Library := do
  let (dataFaults, data) := checkTestData document
  let faults := (checkScenarios document).1 ++ dataFaults
  if !faults.isEmpty then .error (.configuration (.invalidLibrary faults))
  return { entries := (checkScenarios document).2, testData := ← TestData.ofValue data
           named := named_checkScenarios document }

def load (fs : Files) (path : String) : Except Failure Library := do
  ofDocument (← readDocument fs path)

end Library

end SiteTrial
