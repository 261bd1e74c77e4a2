import SiteTrial.Scenario.Library
import SiteTrial.Proofs.Answers
import SiteTrial.Proofs.Value.Kind
import SiteTrial.Proofs.Value.Writable
import Mathlib.Data.List.Forall2

/-!
# Which documents are libraries

The loop over the entries remembers the names that it has met. What it finds is told here without that
memory: an entry is at fault for what it is and for what stands before it.

* `Library.entryFaults`, `Library.faults` : every fault of a document, entry by entry and then those of the
  test data;
* `Library.faults_checkEntries` : the loop finds these and no others;
* `Library.Describes` : the documents that are as they should be, with their names and users;
* `Library.EndsInLongAccount` : those of which a user's name or password cannot be written;
* `Library.load_iff_describes` : what comes of a file that holds a mapping.
-/

namespace SiteTrial

namespace Library

/-! ## Entries -/

/-- An entry is a mapping with a name, a text that is not empty. -/
def States (v : Value) (name : String) : Prop :=
  ∃ fs, v.fields? = some fs ∧ fs.get "name" = .text name ∧ name ≠ ""

/-- The name that an entry states, if it does. -/
def statedName? (v : Value) : Option String := v.fields?.bind fun fs => Scenario.nameOf? (fs.get "name")

theorem nameOf?_eq_some_iff {v : Value} {name : String} :
    Scenario.nameOf? v = some name ↔ v = .text name ∧ name ≠ "" := by
  constructor
  · intro h
    obtain rfl := Scenario.eq_text_of_nameOf? h
    refine ⟨rfl, ?_⟩
    rintro rfl
    cases h
  · rintro ⟨rfl, hname⟩
    unfold Scenario.nameOf?
    exact if_neg (by simpa using hname)

theorem statedName?_eq_some_iff {v : Value} {name : String} :
    statedName? v = some name ↔ States v name := by
  unfold statedName? States
  rw [Option.bind_eq_some_iff]
  exact exists_congr fun fs => and_congr_right' nameOf?_eq_some_iff

/-- What is wrong with an entry, given the entries before it. -/
def entryFault? (before : List Value) (v : Value) : Option LibraryFault :=
  match v.fields? with
  | none => some (.entryNotAMapping before.length)
  | some fs =>
    match Scenario.nameOf? (fs.get "name") with
    | none => some (.entryWithoutName before.length)
    | some name => if name ∈ before.filterMap statedName? then some (.duplicateName name) else none

/-- What is wrong with the entries, in their order. -/
def entryFaults (items : List Value) : List LibraryFault :=
  (List.range items.length).filterMap fun i => items[i]?.bind (entryFault? (items.take i))

section

variable {v : Value} {fs : Fields} {name : String}

theorem checkEntry_of_stated {index : Nat} {seen : List String} (hfs : v.fields? = some fs)
    (hname : Scenario.nameOf? (fs.get "name") = some name) : checkEntry index seen v =
      if seen.contains name then .error (.duplicateName name) else .ok (name, fs) := by
  simp only [checkEntry, hfs, hname]

theorem entryFault?_of_stated {before : List Value} (hfs : v.fields? = some fs)
    (hname : Scenario.nameOf? (fs.get "name") = some name) : entryFault? before v =
      if name ∈ before.filterMap statedName? then some (.duplicateName name) else none := by
  simp only [entryFault?, hfs, hname]

/-- An entry that states no name is at fault whatever stands before it. -/
theorem exists_fault_of_unstated (hnone : statedName? v = none) (before : List Value) :
    ∃ fault, entryFault? before v = some fault ∧
      ∀ seen, checkEntry before.length seen v = .error fault := by
  cases hfs : v.fields? with
  | none =>
      refine ⟨.entryNotAMapping before.length, ?_, fun seen => ?_⟩
      · simp only [entryFault?, hfs]
      · simp only [checkEntry, hfs]
  | some fs =>
      rw [statedName?, hfs, Option.bind_some] at hnone
      refine ⟨.entryWithoutName before.length, ?_, fun seen => ?_⟩
      · simp only [entryFault?, hfs, hnone]
      · simp only [checkEntry, hfs, hnone]

end

section

variable {before : List Value} {seen : List String} {v : Value}
  (hseen : ∀ name, name ∈ seen ↔ name ∈ before.filterMap statedName?)

include hseen

theorem checkEntry_of_fault {fault : LibraryFault} (h : entryFault? before v = some fault) :
    checkEntry before.length seen v = .error fault := by
  cases hname : statedName? v with
  | none =>
      obtain ⟨fault', hfault, hentry⟩ := exists_fault_of_unstated hname before
      rw [h] at hfault
      rw [hentry, Option.some.inj hfault]
  | some name =>
      obtain ⟨fs, hfs, hstated⟩ := Option.bind_eq_some_iff.1 hname
      rw [entryFault?_of_stated hfs hstated] at h
      rw [checkEntry_of_stated hfs hstated]
      by_cases hmem : name ∈ before.filterMap statedName?
      · rw [if_pos hmem] at h
        rw [if_pos (List.contains_iff_mem.2 ((hseen name).2 hmem)), Option.some.inj h]
      · rw [if_neg hmem] at h
        cases h

theorem exists_checkEntry_of_none (h : entryFault? before v = none) : ∃ name fs,
    checkEntry before.length seen v = .ok (name, fs) ∧ statedName? v = some name ∧ name ∉ seen := by
  cases hname : statedName? v with
  | none =>
      obtain ⟨fault, hfault, -⟩ := exists_fault_of_unstated hname before
      rw [h] at hfault
      cases hfault
  | some name =>
      obtain ⟨fs, hfs, hstated⟩ := Option.bind_eq_some_iff.1 hname
      rw [entryFault?_of_stated hfs hstated] at h
      have hnew : name ∉ seen := by
        intro hmem
        rw [if_pos ((hseen name).1 hmem)] at h
        cases h
      refine ⟨name, fs, ?_, rfl, hnew⟩
      rw [checkEntry_of_stated hfs hstated, if_neg fun hmem => hnew (List.contains_iff_mem.1 hmem)]

end

/-- A name that stands at fault is one that was stated before. -/
theorem mem_of_entryFault? {before : List Value} {v : Value} {fault : LibraryFault} {name : String}
    (h : entryFault? before v = some fault) (hname : statedName? v = some name) :
    name ∈ before.filterMap statedName? := by
  obtain ⟨fs, hfs, hstated⟩ := Option.bind_eq_some_iff.1 hname
  rw [entryFault?_of_stated hfs hstated] at h
  by_contra hnew
  rw [if_neg hnew] at h
  cases h

theorem entryFaults_append_step (before : List Value) (v : Value) (vs : List Value) :
    (List.range' before.length (vs.length + 1)).filterMap
        (fun i => (before ++ v :: vs)[i]?.bind (entryFault? ((before ++ v :: vs).take i))) =
      (entryFault? before v).toList ++ (List.range' (before ++ [v]).length vs.length).filterMap
        (fun i => (before ++ [v] ++ vs)[i]?.bind (entryFault? ((before ++ [v] ++ vs).take i))) := by
  have hsame : before ++ [v] ++ vs = before ++ v :: vs := by simp
  have hhere : (before ++ v :: vs)[before.length]? = some v := by simp
  rw [hsame, List.range'_succ, List.filterMap_cons, hhere, List.take_left, List.length_append,
    List.length_singleton]
  cases hfault : entryFault? before v with
  | none => simp [hfault]
  | some fault => simp [hfault]

/-- What the loop finds from an entry on, if it has met the names that stand before it. -/
theorem faults_checkEntries {before : List Value} {seen : List String} {vs : List Value}
    (hseen : ∀ name, name ∈ seen ↔ name ∈ before.filterMap statedName?) :
    (checkEntries before.length seen vs).1 =
      (List.range' before.length vs.length).filterMap fun i =>
        (before ++ vs)[i]?.bind (entryFault? ((before ++ vs).take i)) := by
  induction vs generalizing before seen with
  | nil => rfl
  | cons v vs ih =>
      have hlength : (before ++ [v]).length = before.length + 1 := by simp
      rw [List.length_cons, entryFaults_append_step]
      unfold checkEntries
      cases hfault : entryFault? before v with
      | some fault =>
          have hnext : ∀ name, name ∈ seen ↔ name ∈ (before ++ [v]).filterMap statedName? := by
            intro name
            rw [hseen, List.filterMap_append, List.mem_append]
            refine (or_iff_left_of_imp fun hv => ?_).symm
            simp only [List.filterMap_cons, List.filterMap_nil] at hv
            split at hv
            · cases hv
            · next w hw =>
                obtain rfl := List.mem_singleton.1 hv
                exact mem_of_entryFault? hfault hw
          rw [checkEntry_of_fault hseen hfault, ← ih hnext, hlength]
          rfl
      | none =>
          obtain ⟨name, fs, hentry, hname, -⟩ := exists_checkEntry_of_none hseen hfault
          have hnext : ∀ other, other ∈ name :: seen ↔ other ∈ (before ++ [v]).filterMap statedName? := by
            intro other
            rw [List.filterMap_append, List.mem_append, List.mem_cons, hseen, or_comm]
            simp [hname]
          rw [hentry, ← ih hnext, hlength]
          rfl

/-- What the loop finds among all entries. -/
theorem faults_checkEntries_start (items : List Value) : (checkEntries 0 [] items).1 = entryFaults items := by
  have h := @faults_checkEntries [] [] items (by simp)
  rwa [List.length_nil, ← List.range_eq_range'] at h

example : entryFaults [.record [("name", .text "a")], .record [("name", .text "a")],
    .record [("steps", .list [])], .text "oops"] =
      [.duplicateName "a", .entryWithoutName 2, .entryNotAMapping 3] := by decide +kernel

/-- The loop finds no fault exactly among entries that state names, each another one than those before;
these are the names that it keeps. -/
theorem checkEntries_of_states {index : Nat} {seen : List String} {vs : List Value} {names : List String}
    (hstates : List.Forall₂ States vs names) (hdistinct : names.Nodup) (hnew : ∀ name ∈ names, name ∉ seen) :
    (checkEntries index seen vs).1 = [] ∧ (checkEntries index seen vs).2.keys = names := by
  induction hstates generalizing index seen with
  | nil => exact ⟨rfl, rfl⟩
  | @cons v name vs names hv hvs ih =>
      obtain ⟨fs, hfs, hname, hfilled⟩ := hv
      obtain ⟨hother, hdistinct⟩ := List.nodup_cons.1 hdistinct
      have hentry : checkEntry index seen v = .ok (name, fs) := by
        rw [checkEntry_of_stated hfs (nameOf?_eq_some_iff.2 ⟨hname, hfilled⟩)]
        exact if_neg fun hmem => hnew name (List.mem_cons_self ..) (List.contains_iff_mem.1 hmem)
      have hrest : ∀ other ∈ names, other ∉ name :: seen := by
        rintro other hmem (_ | ⟨_, hmet⟩)
        · exact hother hmem
        · exact hnew other (List.mem_cons_of_mem _ hmem) hmet
      obtain ⟨hfaults, hkeys⟩ := @ih (index + 1) (name :: seen) hdistinct hrest
      unfold checkEntries
      rw [hentry]
      exact ⟨hfaults, congrArg (name :: ·) hkeys⟩

theorem states_of_checkEntry {index : Nat} {seen : List String} {v : Value} {name : String} {fs : Fields}
    (h : checkEntry index seen v = .ok (name, fs)) : States v name ∧ name ∉ seen := by
  unfold checkEntry at h
  split at h
  · next hfs =>
      split at h
      · cases h
      · next hname =>
          split at h
          · cases h
          · next hnew =>
              cases h
              obtain ⟨htext, hfilled⟩ := nameOf?_eq_some_iff.1 hname
              exact ⟨⟨fs, hfs, htext, hfilled⟩, fun hmem => hnew (List.contains_iff_mem.2 hmem)⟩
  · cases h

theorem states_of_checkEntries {index : Nat} {seen : List String} {vs : List Value}
    (h : (checkEntries index seen vs).1 = []) :
    ∃ names, List.Forall₂ States vs names ∧ names.Nodup ∧ ∀ name ∈ names, name ∉ seen := by
  induction vs generalizing index seen with
  | nil => exact ⟨[], .nil, .nil, nofun⟩
  | cons v vs ih =>
      unfold checkEntries at h
      split at h
      · cases h
      · next name fs hentry =>
          obtain ⟨hv, hnew⟩ := states_of_checkEntry hentry
          obtain ⟨names, hvs, hdistinct, hfresh⟩ := ih h
          refine ⟨name :: names, .cons hv hvs, List.nodup_cons.2 ⟨?_, hdistinct⟩, ?_⟩
          · exact fun hmem => hfresh name hmem (List.mem_cons_self ..)
          · rintro other (_ | ⟨_, hmem⟩)
            · exact hnew
            · exact fun hmet => hfresh other hmem (List.mem_cons_of_mem _ hmet)

/-! ## Users -/

/-- The account that the entries of a user make. -/
def accountOf (fs : Fields) : Credentials :=
  { username := (fs.getD "username" (.text "")).toText, password := (fs.getD "password" (.text "")).toText }

/-- Whether a member of the list of users makes an account: a mapping of which the name and the password
can be written. -/
def makesAccount (v : Value) : Bool :=
  match v.fields? with
  | some fs => (fs.getD "username" (.text "")).isWritable && (fs.getD "password" (.text "")).isWritable
  | none => false

theorem exists_fields_of_makesAccount {v : Value} (h : makesAccount v = true) :
    ∃ fs, v.fields? = some fs := by
  unfold makesAccount at h
  split at h
  · next fs hfs => exact ⟨fs, hfs⟩
  · cases h

theorem makesAccount_of_fields {v : Value} {fs : Fields} (hfs : v.fields? = some fs) : makesAccount v =
    ((fs.getD "username" (.text "")).isWritable && (fs.getD "password" (.text "")).isWritable) := by
  simp only [makesAccount, hfs]

theorem userOf_of_makesAccount {index : Nat} {v : Value} {fs : Fields} (hfs : v.fields? = some fs)
    (h : makesAccount v = true) : TestData.userOf index v = .ok (accountOf fs) := by
  rw [makesAccount_of_fields hfs] at h
  obtain ⟨husername, hpassword⟩ := Bool.and_eq_true_iff.1 h
  simp only [TestData.userOf, hfs, Value.toText?_of_isWritable husername,
    Value.toText?_of_isWritable hpassword]
  rfl

/-- What is reported of a user that makes no account, or goes unreported. -/
theorem userOf_of_not_makesAccount {index : Nat} {v : Value} (h : makesAccount v = false) :
    TestData.userOf index v =
      .error (if v.fields?.isSome then .fault .integerTooLong else .configuration (.userNotAMapping index)) := by
  cases hfs : v.fields? with
  | none =>
      simp only [TestData.userOf, hfs]
      rfl
  | some fs =>
      rw [makesAccount_of_fields hfs] at h
      simp only [TestData.userOf, hfs, Value.toText?]
      cases husername : (fs.getD "username" (.text "")).isWritable with
      | false => rfl
      | true =>
          rw [husername, Bool.true_and] at h
          rw [h]
          rfl

theorem usersOf_of_makeAccounts {index : Nat} {vs : List Value} (h : ∀ v ∈ vs, makesAccount v = true) :
    ∃ users : List Fields, vs.map Value.fields? = users.map some ∧
      TestData.usersOf index vs = .ok (users.map accountOf) := by
  induction vs generalizing index with
  | nil => exact ⟨[], rfl, rfl⟩
  | cons v vs ih =>
      have hv := h v (List.mem_cons_self ..)
      obtain ⟨fs, hfs⟩ := exists_fields_of_makesAccount hv
      obtain ⟨users, husers, hmade⟩ := @ih (index + 1) fun w hw => h w (List.mem_cons_of_mem _ hw)
      refine ⟨fs :: users, by rw [List.map_cons, hfs, husers, List.map_cons], ?_⟩
      unfold TestData.usersOf
      rw [userOf_of_makesAccount hfs hv, ok_bind, hmade]
      rfl

/-- The first user that makes no account decides what comes of the list. -/
theorem usersOf_of_find? {index : Nat} {vs : List Value} {v : Value}
    (h : vs.find? (fun w => !makesAccount w) = some v) : ∃ place, TestData.usersOf index vs =
      .error (if v.fields?.isSome then .fault .integerTooLong else .configuration (.userNotAMapping place)) := by
  induction vs generalizing index with
  | nil => cases h
  | cons w vs ih =>
      unfold TestData.usersOf
      rw [List.find?_cons] at h
      split at h
      · next hbad =>
          cases h
          refine ⟨index, ?_⟩
          rw [userOf_of_not_makesAccount (by simpa using hbad)]
          rfl
      · next hgood =>
          have hw : makesAccount w = true := by simpa using hgood
          obtain ⟨place, hrest⟩ := @ih (index + 1) h
          obtain ⟨fs, hfs⟩ := exists_fields_of_makesAccount hw
          exact ⟨place, by rw [userOf_of_makesAccount hfs hw, ok_bind, hrest]; rfl⟩

/-! ## Test data -/

/-- The test data of a document and the members of its list of users. -/
def TestDataIs (document data : Fields) (listed : List Value) : Prop :=
  (document.getD "testData" (.mapping [])).fields? = some data ∧
    (data.getD "users" (.list [])).items? = some listed

/-- What is wrong with the test data. -/
def dataFaults (document : Fields) : List LibraryFault :=
  match (document.getD "testData" (.mapping [])).fields? with
  | none => [.testDataNotAMapping]
  | some data =>
    match (data.getD "users" (.list [])).items? with
    | none => [.usersNotAList]
    | some _ => []

theorem faults_checkTestData (document : Fields) : (checkTestData document).1 = dataFaults document := by
  unfold checkTestData dataFaults
  cases (document.getD "testData" (.mapping [])).fields? with
  | none => rfl
  | some data => cases hlisted : (data.getD "users" (.list [])).items? <;> simp only [hlisted]

theorem dataFaults_eq_nil_iff {document : Fields} :
    dataFaults document = [] ↔ ∃ data listed, TestDataIs document data listed := by
  constructor
  · intro h
    unfold dataFaults at h
    split at h
    · cases h
    · next data hdata =>
        split at h
        · cases h
        · next listed hlisted => exact ⟨data, listed, hdata, hlisted⟩
  · rintro ⟨data, listed, hdata, hlisted⟩
    simp only [dataFaults, hdata, hlisted]

theorem data_checkTestData {document data : Fields} {listed : List Value}
    (h : TestDataIs document data listed) : (checkTestData document).2 = .mapping data := by
  simp only [checkTestData, h.1, h.2]

theorem items?_eq_some_iff {v : Value} {items : List Value} :
    v.items? = some items ↔ v.opened = .list items := by
  unfold Value.items?
  split
  · next hopened => rw [hopened, Option.some.injEq, Value.list.injEq]
  · next hother => exact ⟨nofun, fun h => absurd h (hother items)⟩

theorem walk_of_items? {v : Value} {items : List Value} (h : v.items? = some items) :
    v.walk = .ok items := by
  unfold Value.walk
  rw [items?_eq_some_iff.1 h]

theorem walk_users {data : Fields} {listed : List Value}
    (h : (data.getD "users" (.list [])).items? = some listed) :
    ((data.get "users").orElse (.list [])).walk = .ok listed := by
  unfold Fields.get Fields.getD at *
  cases husers : data.get? "users" with
  | none =>
      rw [husers] at h
      cases h
      rfl
  | some v =>
      rw [husers] at h
      have hv : v.items? = some listed := h
      show (v.orElse (.list [])).walk = .ok listed
      unfold Value.orElse
      split
      · exact walk_of_items? hv
      · next hempty =>
          obtain rfl := Value.eq_nil_of_items? (by simpa using hempty) hv
          rfl

/-- The test data with the accounts that are listed, or else the default one. -/
def testDataOf (data : Fields) : List Credentials → TestData
  | [] => { data := data }
  | first :: rest => { data := data, firstUser := first, otherUsers := rest }

theorem ofValue_mapping {data : Fields} {listed : List Value}
    (h : (data.getD "users" (.list [])).items? = some listed) :
    TestData.ofValue (.mapping data) = (TestData.usersOf 0 listed).map (testDataOf data) := by
  unfold TestData.ofValue
  dsimp only
  rw [Value.orElse_mapping, show (Value.mapping data).member "users" = .ok (data.get "users") from rfl]
  show (((data.get "users").orElse (.list [])).walk.mapError Failure.fault >>= _) = _
  rw [walk_users h]
  show (TestData.usersOf 0 listed >>= _) = _
  cases TestData.usersOf 0 listed with
  | error e => rfl
  | ok users => cases users <;> rfl

/-- The pool of users: those that are listed, or else the default one. -/
def poolOf (users : List Fields) : List Credentials :=
  if users = [] then ({} : TestData).users else users.map accountOf

theorem users_testDataOf (data : Fields) (users : List Fields) :
    (testDataOf data (users.map accountOf)).users = poolOf users := by
  cases users <;> rfl

/-! ## Documents -/

/-- Every fault of a document: those of the entries in their order, and then those of the test data. -/
def faults (document : Fields) : List LibraryFault :=
  (match (document.get "scenarios").items? with
    | none => [.scenariosMissing]
    | some items => entryFaults items) ++ dataFaults document

/-- A document as it should be, with the names of its entries and its users. -/
structure Describes (document : Fields) (names : List String) (users : List Fields) : Prop where
  entries : ∃ items, (document.get "scenarios").items? = some items ∧ List.Forall₂ States items names
  distinct : names.Nodup
  users : ∃ data listed, TestDataIs document data listed ∧
    listed.map Value.fields? = users.map some

/-- A document that has no fault, but of which the first user that makes no account is a mapping: its name
or its password holds an integer with more digits than can be written. -/
def EndsInLongAccount (document : Fields) : Prop :=
  faults document = [] ∧ ∃ data listed v fs, TestDataIs document data listed ∧
    listed.find? (fun w => !makesAccount w) = some v ∧ v.fields? = some fs

theorem faults_eq (document : Fields) :
    (checkScenarios document).1 ++ (checkTestData document).1 = faults document := by
  rw [faults_checkTestData]
  unfold checkScenarios faults
  cases (document.get "scenarios").items? with
  | none => rfl
  | some items => exact congrArg (· ++ dataFaults document) (faults_checkEntries_start items)

theorem faults_eq_nil_of_describes {document : Fields} {names : List String} {users : List Fields}
    (h : Describes document names users) : faults document = [] := by
  obtain ⟨items, hitems, hstates⟩ := h.entries
  obtain ⟨data, listed, hdata, -⟩ := h.users
  unfold faults
  rw [hitems, dataFaults_eq_nil_iff.2 ⟨data, listed, hdata⟩, List.append_nil]
  show entryFaults items = []
  rw [← faults_checkEntries_start]
  exact (checkEntries_of_states hstates h.distinct fun _ _ => List.not_mem_nil).1

theorem ofDocument_of_faults {document : Fields} (h : faults document ≠ []) :
    ofDocument document = .error (.configuration (.invalidLibrary (faults document))) := by
  unfold ofDocument
  dsimp only
  rw [faults_eq, if_pos (by simpa using h)]
  rfl

/-- What a document without faults comes to: its users decide. -/
theorem ofDocument_of_faults_nil {document data : Fields} {listed : List Value}
    (hfaults : faults document = []) (hdata : TestDataIs document data listed) :
    ofDocument document = (TestData.usersOf 0 listed).map fun users =>
      { entries := (checkScenarios document).2
        testData := testDataOf data users
        named := named_checkScenarios document } := by
  unfold ofDocument
  dsimp only
  rw [faults_eq, hfaults, data_checkTestData hdata, ofValue_mapping hdata.2]
  cases TestData.usersOf 0 listed <;> rfl

/-- A document without faults is as it should be if its users are mappings. -/
theorem describes_of_faults_nil {document data : Fields} {listed : List Value} {users : List Fields}
    (hfaults : faults document = []) (hdata : TestDataIs document data listed)
    (husers : listed.map Value.fields? = users.map some) :
    ∃ names, Describes document names users := by
  obtain ⟨hentries, -⟩ := List.append_eq_nil_iff.1 hfaults
  cases hitems : (document.get "scenarios").items? with
  | none =>
      rw [hitems] at hentries
      cases hentries
  | some items =>
      rw [hitems] at hentries
      have hnone : entryFaults items = [] := hentries
      rw [← faults_checkEntries_start] at hnone
      obtain ⟨names, hstates, hdistinct, -⟩ := states_of_checkEntries hnone
      exact ⟨names, ⟨items, hitems, hstates⟩, hdistinct, data, listed, hdata, husers⟩

theorem keys_checkScenarios {document : Fields} {names : List String} {users : List Fields}
    (h : Describes document names users) : (checkScenarios document).2.keys = names := by
  obtain ⟨items, hitems, hstates⟩ := h.entries
  unfold checkScenarios
  rw [hitems]
  exact (checkEntries_of_states hstates h.distinct fun _ _ => List.not_mem_nil).2

theorem unique_testData {document data data' : Fields} {listed listed' : List Value}
    (h : TestDataIs document data listed) (h' : TestDataIs document data' listed') :
    data = data' ∧ listed = listed' := by
  obtain ⟨hdata, hlisted⟩ := h
  obtain ⟨hdata', hlisted'⟩ := h'
  rw [hdata] at hdata'
  cases hdata'
  rw [hlisted] at hlisted'
  exact ⟨rfl, Option.some.inj hlisted'⟩

/-! ## What comes of a document -/

theorem ofDocument_of_makeAccounts {document data : Fields} {listed : List Value} {users : List Fields}
    (hfaults : faults document = []) (hdata : TestDataIs document data listed)
    (husers : listed.map Value.fields? = users.map some) (h : ∀ v ∈ listed, makesAccount v = true) :
    ∃ l, ofDocument document = .ok l ∧ l.names = (checkScenarios document).2.keys ∧
      l.testData.users = poolOf users := by
  obtain ⟨users', husers', hmade⟩ := @usersOf_of_makeAccounts 0 listed h
  rw [husers] at husers'
  obtain rfl := List.map_injective_iff.2 (fun _ _ => Option.some.inj) husers'
  have hl := ofDocument_of_faults_nil hfaults hdata
  rw [hmade] at hl
  exact ⟨_, hl, rfl, users_testDataOf data users⟩

theorem ofDocument_of_find? {document data : Fields} {listed : List Value} {v : Value}
    (hfaults : faults document = []) (hdata : TestDataIs document data listed)
    (hfirst : listed.find? (fun w => !makesAccount w) = some v) : ∃ place, ofDocument document =
      .error (if v.fields?.isSome then .fault .integerTooLong
        else .configuration (.userNotAMapping place)) := by
  obtain ⟨place, hmade⟩ := @usersOf_of_find? 0 listed v hfirst
  exact ⟨place, by rw [ofDocument_of_faults_nil hfaults hdata, hmade]; rfl⟩

/-- What comes of a document, and which one it is then. -/
theorem ofDocument_cases (document : Fields) :
    (∃ l, ofDocument document = .ok l ∧ (∃ names users, Describes document names users) ∧
      ¬ EndsInLongAccount document) ∨
    (∃ e, ofDocument document = .error (.configuration e) ∧ (¬ ∃ names users, Describes document names users) ∧
      ¬ EndsInLongAccount document) ∨
    (ofDocument document = .error (.fault .integerTooLong) ∧ EndsInLongAccount document) := by
  by_cases hfaults : faults document = []
  · obtain ⟨data, listed, hdata⟩ := dataFaults_eq_nil_iff.1 (List.append_eq_nil_iff.1 hfaults).2
    -- the first user that makes no account decides, if there is one
    cases hfirst : listed.find? (fun w => !makesAccount w) with
    | none =>
        have hall : ∀ v ∈ listed, makesAccount v = true := by simpa using hfirst
        obtain ⟨users, husers, -⟩ := @usersOf_of_makeAccounts 0 listed hall
        obtain ⟨l, hl, -⟩ := ofDocument_of_makeAccounts hfaults hdata husers hall
        obtain ⟨names, hdescribes⟩ := describes_of_faults_nil hfaults hdata husers
        refine .inl ⟨l, hl, ⟨names, users, hdescribes⟩, ?_⟩
        rintro ⟨-, _, _, v, fs, hdata', hfirst', -⟩
        obtain ⟨rfl, rfl⟩ := unique_testData hdata hdata'
        rw [hfirst] at hfirst'
        cases hfirst'
    | some v =>
        obtain ⟨place, hend⟩ := ofDocument_of_find? hfaults hdata hfirst
        cases hv : v.fields? with
        | some fs =>
            rw [hv] at hend
            exact .inr (.inr ⟨hend, hfaults, data, listed, v, fs, hdata, hfirst, hv⟩)
        | none =>
            rw [hv] at hend
            refine .inr (.inl ⟨_, hend, ?_, ?_⟩)
            · rintro ⟨names, users, hdescribes⟩
              obtain ⟨_, _, hdata', husers⟩ := hdescribes.users
              obtain ⟨rfl, rfl⟩ := unique_testData hdata hdata'
              have hmem := List.mem_map_of_mem (f := Value.fields?) (List.mem_of_find?_eq_some hfirst)
              rw [husers, hv] at hmem
              obtain ⟨_, -, hfs⟩ := List.mem_map.1 hmem
              cases hfs
            · rintro ⟨-, _, _, w, fs, hdata', hfirst', hfs⟩
              obtain ⟨rfl, rfl⟩ := unique_testData hdata hdata'
              rw [hfirst] at hfirst'
              cases hfirst'
              rw [hv] at hfs
              cases hfs
  · refine .inr (.inl ⟨_, ofDocument_of_faults hfaults, ?_, fun hlong => hfaults hlong.1⟩)
    rintro ⟨names, users, hdescribes⟩
    exact hfaults (faults_eq_nil_of_describes hdescribes)

theorem library_of_describes {document : Fields} {names : List String} {users : List Fields} {l : Library}
    (hdescribes : Describes document names users) (hl : ofDocument document = .ok l) :
    l.names = names ∧ l.testData.users = poolOf users := by
  have hfaults := faults_eq_nil_of_describes hdescribes
  obtain ⟨data, listed, hdata, husers⟩ := hdescribes.users
  cases hfirst : listed.find? (fun w => !makesAccount w) with
  | some v =>
      obtain ⟨place, hend⟩ := ofDocument_of_find? hfaults hdata hfirst
      rw [hl] at hend
      cases hend
  | none =>
      obtain ⟨l', hl', hnames, hpool⟩ :=
        ofDocument_of_makeAccounts hfaults hdata husers (by simpa using hfirst)
      rw [hl] at hl'
      cases hl'
      exact ⟨hnames.trans (keys_checkScenarios hdescribes), hpool⟩

theorem bulleted_map {α : Type} (heading : String) (f : α → String) {l : List α} (h : l ≠ []) :
    ConfigurationError.bulleted heading (l.map f) =
      heading ++ String.join (l.map fun a => "\n  - " ++ f a) := by
  unfold ConfigurationError.bulleted
  rw [String.append_assoc]
  congr 1
  induction l with
  | nil => exact absurd rfl h
  | cons a l ih =>
      cases l with
      | nil => simp
      | cons b l =>
          have hrest := ih (List.cons_ne_nil b l)
          simp only [List.map_cons, String.intercalate_cons_cons, String.join_cons] at hrest ⊢
          rw [← hrest]
          simp only [String.append_assoc]

/-- What comes of a file that holds a mapping: the library that it describes if it does, and otherwise a
report, with one line for each fault. Only an account that cannot be written ends in neither. -/
theorem load_iff_describes {fs : Files} {path : String} {document : Fields}
    (hdocument : readDocument fs path = .ok document) :
    ((∃ l, load fs path = .ok l) ↔
      (∃ names users, Describes document names users) ∧ ¬ EndsInLongAccount document) ∧
    (∀ l names users, load fs path = .ok l → Describes document names users →
      l.names = names ∧ l.testData.users = poolOf users) ∧
    ((∃ e, load fs path = .error (.configuration e)) ↔
      (¬ ∃ names users, Describes document names users) ∧ ¬ EndsInLongAccount document) ∧
    (faults document ≠ [] → ∃ e, load fs path = .error (.configuration e) ∧
      e.message = "scenario file validation failed:" ++
        String.join ((faults document).map fun fault => "\n  - " ++ fault.message)) := by
  have hload : load fs path = ofDocument document := by
    unfold load
    rw [hdocument]
    rfl
  rw [hload]
  refine ⟨?_, ?_, ?_, ?_⟩
  · obtain ⟨l, hl, hdescribes, hshort⟩ | ⟨e, he, hnone, hshort⟩ | ⟨hend, hlong⟩ := ofDocument_cases document
    · exact iff_of_true ⟨l, hl⟩ ⟨hdescribes, hshort⟩
    · exact iff_of_false (by rw [he]; nofun) fun h => hnone h.1
    · exact iff_of_false (by rw [hend]; nofun) fun h => h.2 hlong
  · exact fun l names users hl hdescribes => library_of_describes hdescribes hl
  · obtain ⟨l, hl, hdescribes, hshort⟩ | ⟨e, he, hnone, hshort⟩ | ⟨hend, hlong⟩ := ofDocument_cases document
    · exact iff_of_false (by rw [hl]; nofun) fun h => h.1 hdescribes
    · exact iff_of_true ⟨e, he⟩ ⟨hnone, hshort⟩
    · exact iff_of_false (by rw [hend]; nofun) fun h => h.2 hlong
  · intro hfaults
    exact ⟨_, ofDocument_of_faults hfaults, bulleted_map _ _ hfaults⟩

/-- A file with two scenarios and one user. -/
def pairOfScenarios : Files :=
  ⟨[(["s.json"], .file ("\x7b\"scenarios\": [\x7b\"name\": \"login\"\x7d, \x7b\"name\": \"search\"\x7d], "
    ++ "\"testData\": \x7b\"users\": [\x7b\"username\": \"ada\", \"password\": \"p\"\x7d]\x7d\x7d"))]⟩

theorem load_iff_describes_pairOfScenarios : ∃ document l names users,
    readDocument pairOfScenarios "s.json" = .ok document ∧ load pairOfScenarios "s.json" = .ok l ∧
      Describes document names users ∧ l.names = names ∧ l.testData.users = poolOf users := by
  obtain ⟨document, hdocument⟩ := exists_of_isSome (x := readDocument pairOfScenarios "s.json")
    (by decide +kernel)
  obtain ⟨l, hl⟩ := exists_of_isSome (x := load pairOfScenarios "s.json") (by decide +kernel)
  obtain ⟨hloads, hholds, -, -⟩ := load_iff_describes hdocument
  obtain ⟨⟨names, users, hdescribes⟩, -⟩ := hloads.1 ⟨l, hl⟩
  exact ⟨document, l, names, users, hdocument, hl, hdescribes, hholds l names users hl hdescribes⟩

/-- A user whose name is an integer of 4301 digits. -/
def longUser : Fields := [(.text "username", .int (Int.ofNat (Nat.pow 10 4300))), (.text "password", .text "p")]

/-- A document that is as it should be, with this user. -/
def longDocument : Fields :=
  [(.text "scenarios", .list [.record [("name", .text "login")]]),
    (.text "testData", .record [("users", .list [.mapping longUser])])]

/-- No library comes of the document, and no report. -/
theorem ofDocument_breaks_longDocument : Describes longDocument ["login"] [longUser] ∧
    ofDocument longDocument = .error (.fault .integerTooLong) := by
  refine ⟨⟨⟨[.record [("name", .text "login")]], rfl, ?_⟩, by decide, ?_⟩, eq_error_of_refusal? (by decide +kernel)⟩
  · exact .cons ⟨_, rfl, rfl, by decide⟩ .nil
  · exact ⟨[(.text "users", .list [.mapping longUser])], [.mapping longUser], ⟨rfl, rfl⟩, rfl⟩

end Library

end SiteTrial
