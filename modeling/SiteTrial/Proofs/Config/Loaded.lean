import SiteTrial.Proofs.Config.Check
import SiteTrial.Proofs.Decimal.Sign

/-!
# What a loaded configuration promises

A part in which a fault is found goes on with a value in its place, or with nothing. A configuration is
given only where no part has found one, so such values never stand in it.

* `Check.exists_of_reads_application`, `Check.exists_of_reads_environment`, `Check.exists_of_reads_stage` :
  a part that is read without a fault is there;
* `Check.of_reads_execution` : the threshold and the pause;
* `Config.IsRunnable` : what a run relies on;
* `Config.ofDocument_isRunnable`, `Config.loaded_isRunnable` : the configuration of a document and of a
  file.
-/

namespace SiteTrial

theorem Stage.key_of_ofKey? {k : String} {s : Stage} (h : ofKey? k = some s) : s.key = k :=
  of_decide_eq_true (List.find?_some (p := fun s : Stage => decide (s.key = k)) h)

namespace Check

variable {env : Table String}

/-! ## Applications -/

theorem ne_empty_of_reads_address {side : Side} {value : Value} {url : String}
    (h : Reads (address side value) url) : url ≠ "" := by
  unfold address at h
  split at h
  · split at h
    · exact absurd h (not_reads_complain_pure _ _ _)
    · next hfilled =>
        cases reads_pure_iff.1 h
        rintro rfl
        exact hfilled rfl
  · exact absurd h (not_reads_complain_pure _ _ _)

theorem exists_of_reads_application {document : Fields} {side : Side} {r : Option Application}
    (h : Reads (application document env side) r) : ∃ a, r = some a ∧ a.baseUrl ≠ "" := by
  unfold application at h
  split at h
  · simp only [baseUrl_eq, reads_bind_iff, reads_pure_iff] at h
    obtain ⟨url, ⟨value, -, hurl⟩, credentials, -, name, -, technology, -, hmade⟩ := h
    exact ⟨_, hmade.symm, ne_empty_of_reads_address hurl⟩
  · exact absurd h (not_reads_complain_pure _ _ _)

theorem names_ne_of_reads_distinctNames {a b : Application}
    (h : Reads (distinctNames (some a) (some b)) ()) : a.name ≠ b.name := by
  intro hsame
  rw [distinctNames, if_pos hsame] at h
  cases h

/-! ## Environments -/

theorem reads_positive_iff {fault : ConfigFault} {v : Value} {n : Nat} :
    Reads (positive fault v) n ↔ 1 ≤ n ∧ v.integer? = some (n : Int) := by
  unfold positive
  split
  · next m =>
      split
      · next hpos =>
          show Reads (pure _) _ ↔ 1 ≤ n ∧ some m = some (n : Int)
          rw [reads_pure_iff, Option.some.injEq]
          omega
      · next hneg =>
          refine iff_of_false (not_reads_complain_pure _ _ _) ?_
          rintro ⟨hn, hv⟩
          have hm : m = (n : Int) := Option.some.inj hv
          omega
  · show Reads (pure _) _ ↔ 1 ≤ n ∧ some (1 : Int) = some (n : Int)
    rw [reads_pure_iff, Option.some.injEq]
    omega
  · next hint htrue =>
      refine iff_of_false (not_reads_complain_pure _ _ _) ?_
      rintro ⟨hn, hv⟩
      cases v with
      | scalar s =>
          cases s with
          | int m => exact absurd rfl (hint m)
          | bool b =>
              cases b with
              | true => exact absurd rfl htrue
              | false =>
                  have : (0 : Int) = n := Option.some.inj hv
                  omega
          | _ => cases hv
      | _ => cases hv

theorem exists_of_reads_environment {document : Fields} {stage : Stage} {iterations : Option Nat}
    {r : Option Environment} (hset : ∀ n, iterations = some n → 1 ≤ n)
    (h : Reads (environment document iterations stage) r) :
    ∃ e, r = some e ∧ 1 ≤ e.parallelInstances ∧ 1 ≤ e.iterations := by
  unfold environment at h
  split at h
  · simp only [reads_bind_iff, reads_pure_iff, reads_positive_iff] at h
    obtain ⟨instances, hinstances, own, hown, network, -, name, -, hmade⟩ := h
    refine ⟨_, hmade.symm, hinstances.1, ?_⟩
    cases iterations with
    | none => exact hown.1
    | some n => exact hset n rfl
  · exact absurd h (not_reads_complain_pure _ _ _)

/-! ## The run itself -/

theorem reads_regressionThreshold_iff {v w : Value} :
    Reads (regressionThreshold v) w ↔ v = w ∧ v.isNumeric = true ∧ isNegative v = false := by
  unfold regressionThreshold
  split
  · next hgood =>
      rw [Bool.and_eq_true, Bool.not_eq_true'] at hgood
      exact reads_pure_iff.trans (and_iff_left hgood).symm
  · next hbad =>
      refine iff_of_false (not_reads_complain_pure _ _ _) ?_
      rintro ⟨-, hnumeric, hnegative⟩
      rw [hnumeric, hnegative] at hbad
      exact absurd rfl hbad

/-- A number that is not negative makes a double that is not below zero. -/
theorem not_lt_zero_of_numericOrZero {v : Value} {x : Float} (hnegative : isNegative v = false)
    (hx : v.numericOrZero = .ok x) : ¬ x < 0.0 := by
  unfold Value.numericOrZero Value.numeric? at hx
  split at hx
  · next b => 
      cases b <;> cases hx <;> decide +kernel
  · next n =>
      obtain ⟨_, hm, rfl⟩ := exists_of_map hx
      obtain ⟨y, hy, rfl⟩ := exists_of_map hm
      unfold doubleOfInt at hy
      dsimp only at hy
      split at hy
      · cases hy
        exact Decimal.not_ofInt_lt_zero (by simpa [isNegative] using hnegative)
      · cases hy
  · cases hx
    simpa [isNegative] using hnegative
  · cases hx
    decide +kernel

theorem reads_iterationDelay_iff {v : Value} {n : Nat} :
    Reads (iterationDelay v) n ↔ v.integer? = some (n : Int) := by
  unfold iterationDelay
  split
  · next m =>
      split
      · next hpos =>
          show Reads (pure _) _ ↔ some m = some (n : Int)
          rw [reads_pure_iff, Option.some.injEq]
          omega
      · next hneg =>
          refine iff_of_false (not_reads_complain_pure _ _ _) fun hv => ?_
          have hm : m = (n : Int) := Option.some.inj hv
          omega
  · next b =>
      show Reads (pure _) _ ↔ some (if b then (1 : Int) else 0) = some (n : Int)
      rw [reads_pure_iff, Option.some.injEq]
      cases b <;> simp <;> omega
  · next hint hbool =>
      refine iff_of_false (not_reads_complain_pure _ _ _) fun hv => ?_
      cases v with
      | scalar s =>
          cases s with
          | int m => exact absurd rfl (hint m)
          | bool b => exact absurd rfl (hbool b)
          | _ => cases hv
      | _ => cases hv

/-- Neither the threshold nor the pause of what is configured for a run lies below zero. -/
theorem of_reads_execution {document : Value} {e : Execution} (h : Reads (execution document env) e) :
    ¬ e.regressionThreshold < 0.0 ∧ ∃ entry, document.fields? = some entry ∧
      (entry.getD "iterationDelayMs" (.int 2000)).integer? = some (e.iterationDelay : Int) := by
  simp only [execution_eq, reads_bind_iff, reads_pure_iff, reads_of_iff, reads_mappingOr_iff,
    reads_regressionThreshold_iff, reads_iterationDelay_iff] at h
  obtain ⟨entry, hentry, scenarios, -, overrides, -, regression, ⟨rfl, -, hnegative⟩, delay, hdelay, path,
    -, thresholds, -, threshold, hthreshold, rfl⟩ := h
  exact ⟨not_lt_zero_of_numericOrZero hnegative hthreshold, entry, hentry, hdelay⟩

theorem exists_of_reads_stage {document : Fields} {r : Option Stage}
    (h : Reads (stage document env) r) : ∃ s, r = some s ∧ askedStage document env = .text s.key := by
  unfold stage at h
  dsimp only at h
  split at h
  · next s hs =>
      refine ⟨s, (reads_pure_iff.1 h).symm, ?_⟩
      obtain ⟨k, hk, hkey⟩ := Option.bind_eq_some_iff.1 hs
      have hsame : k = s.key := (Stage.key_of_ofKey? hkey).symm
      have htext : (askedStage document env).text? = some k := hk
      cases hvalue : askedStage document env with
      | scalar v =>
          rw [hvalue] at htext
          cases v with
          | text t =>
              cases htext
              exact congrArg Value.text hsame
          | _ => cases htext
      | _ =>
          rw [hvalue] at htext
          cases htext
  · obtain ⟨shown, -, h⟩ := reads_bind_iff.1 h
    exact absurd h (not_reads_complain_pure _ _ _)

end Check

/-! ## All parts together -/

namespace Config

/-- What a run relies on, in a configuration that is made of a document and of variables. -/
structure IsRunnable (c : Config) (document : Fields) (env : Table String) : Prop where
  address : ∀ side, (c.application side).baseUrl ≠ ""
  names : c.baseline.name ≠ c.candidate.name
  iterations : ∀ stage, 1 ≤ (c.environment stage).iterations
  instances : ∀ stage, 1 ≤ (c.environment stage).parallelInstances
  workers : 1 ≤ c.workerCount
  /-- The environment of the run is the one that is asked for. -/
  stage : Check.askedStage document env = .text c.stage.key
  threshold : ¬ c.execution.regressionThreshold < 0.0
  /-- The pause is the integer that is written down, so that one is not below zero. -/
  delay : ∃ entry, (document.getD "execution" (.mapping [])).fields? = some entry ∧
    (entry.getD "iterationDelayMs" (.int 2000)).integer? = some (c.execution.iterationDelay : Int)

theorem one_le_workerCount {c : Config} (hset : ∀ n, c.workers = some n → 1 ≤ n)
    (hinstances : ∀ stage, 1 ≤ (c.environment stage).parallelInstances) : 1 ≤ c.workerCount := by
  unfold workerCount
  cases hworkers : c.workers with
  | none => exact hinstances c.stage
  | some n => exact hset n hworkers

theorem isRunnable_of_reads {document : Fields} {env : Table String} {r : Option Config}
    (h : Check.Reads (Check.config document env) r) : ∃ c, r = some c ∧ c.IsRunnable document env := by
  simp only [Check.config, Check.reads_bind_iff, Check.reads_pure_iff] at h
  obtain ⟨applications, -, baseline, hbaseline, candidate, hcandidate, environments, -, iterations,
    hiterations, pre, hpre, pro, hpro, execution, hexecution, stage, hstage, workers, hworkers, _,
    hnames, hmade⟩ := h
  have hset : ∀ n, iterations = some n → 1 ≤ n := by
    rintro n rfl
    exact Check.pos_of_reads_positiveSetting hiterations
  obtain ⟨a, rfl, ha⟩ := Check.exists_of_reads_application hbaseline
  obtain ⟨b, rfl, hb⟩ := Check.exists_of_reads_application hcandidate
  obtain ⟨e, rfl, hinstances, hown⟩ := Check.exists_of_reads_environment hset hpre
  obtain ⟨e', rfl, hinstances', hown'⟩ := Check.exists_of_reads_environment hset hpro
  obtain ⟨s, rfl, hs⟩ := Check.exists_of_reads_stage hstage
  obtain ⟨hthreshold, hdelay⟩ := Check.of_reads_execution hexecution
  refine ⟨_, hmade.symm,
    { address := ?address
      names := Check.names_ne_of_reads_distinctNames hnames
      iterations := ?iterations
      instances := ?instances
      workers := one_le_workerCount ?settings ?instances
      stage := hs
      threshold := hthreshold
      delay := hdelay }⟩
  case address =>
    rintro (_ | _)
    · exact ha
    · exact hb
  case iterations =>
    rintro (_ | _)
    · exact hown
    · exact hown'
  case instances =>
    rintro (_ | _)
    · exact hinstances
    · exact hinstances'
  case settings =>
    rintro n rfl
    exact Check.pos_of_reads_positiveSetting hworkers

section

variable {document : Fields} {env : Table String}

/-- The reading breaks off. -/
theorem ofDocument_of_error {f : Fault} (h : (Check.config document env).run [] = .error f) :
    ofDocument document env = .error (.fault f) := by
  rw [ofDocument, h]
  rfl

/-- Some faults are found. -/
theorem ofDocument_of_cons {r : Option Config} {f : ConfigFault} {faults : List ConfigFault}
    (h : (Check.config document env).run [] = .ok (r, f :: faults)) :
    ofDocument document env = .error (.configuration (.invalidConfig (f :: faults))) := by
  rw [ofDocument, h]
  cases r <;> rfl

/-- No fault is found. -/
theorem ofDocument_of_reads {c : Config} (h : Check.Reads (Check.config document env) (some c)) :
    ofDocument document env = .ok c := by
  rw [ofDocument, show (Check.config document env).run [] = _ from h]
  rfl

/-- What a document comes to: the one list of faults that never is reported is the empty one. -/
theorem ofDocument_isRunnable : ofDocument document env ≠ .error (.configuration (.invalidConfig [])) ∧
    ∀ c, ofDocument document env = .ok c → c.IsRunnable document env := by
  cases hrun : (Check.config document env).run [] with
  | error f =>
      rw [ofDocument_of_error hrun]
      refine ⟨fun h => ?_, fun c h => ?_⟩ <;> cases h
  | ok r =>
      obtain ⟨made, faults⟩ := r
      cases faults with
      | cons f fs =>
          rw [ofDocument_of_cons hrun]
          refine ⟨fun h => ?_, fun c h => ?_⟩ <;> cases h
      | nil =>
          obtain ⟨d, rfl, hd⟩ := isRunnable_of_reads hrun
          rw [ofDocument_of_reads hrun]
          refine ⟨fun h => ?_, fun c h => ?_⟩ <;> cases h
          exact hd

end

/-- The document of a file, or the empty one without a path. -/
def documentOf (fs : Files) (path : Option String) : Except Failure Fields :=
  match path.filter fun p => !p.isEmpty with
  | some p => readDocument fs p
  | none => .ok []

theorem load_eq (fs : Files) (path : Option String) (env : Table String) :
    load fs path env = documentOf fs path >>= fun document => ofDocument document env := by
  unfold load documentOf
  cases path.filter fun p => !p.isEmpty <;> rfl

theorem names_ne_of_load {fs : Files} {path : Option String} {env : Table String} {c : Config}
    (h : load fs path env = .ok c) : c.baseline.name ≠ c.candidate.name := by
  rw [load_eq] at h
  obtain ⟨document, -, h⟩ := exists_of_bind h
  exact (ofDocument_isRunnable.2 c h).names

/-- Every configuration of a document is one that a run can be started with, and where some part of it is
missing there is a fault to report. -/
theorem loaded_isRunnable {fs : Files} {path : Option String} {document : Fields} (env : Table String)
    (h : documentOf fs path = .ok document) :
    load fs path env ≠ .error (.configuration (.invalidConfig [])) ∧
      ∀ c, load fs path env = .ok c → c.IsRunnable document env := by
  rw [load_eq, h]
  exact ofDocument_isRunnable

/-- A file that asks for no pause and for no threshold. -/
def brisk : Files :=
  ⟨[(["run.json"], .file "\x7b\"execution\": \x7b\"iterationDelayMs\": 0, \"regressionThreshold\": 0\x7d\x7d")]⟩

theorem loaded_isRunnable_brisk : ∃ document c, documentOf brisk (some "run.json") = .ok document ∧
    load brisk (some "run.json") [("TEST_ENVIRONMENT", "pro")] = .ok c ∧
      c.IsRunnable document [("TEST_ENVIRONMENT", "pro")] := by
  have hdocument : (documentOf brisk (some "run.json")).toOption.isSome := by decide +kernel
  have hloads : (load brisk (some "run.json") [("TEST_ENVIRONMENT", "pro")]).toOption.isSome := by
    decide +kernel
  obtain ⟨document, hd⟩ := exists_of_isSome hdocument
  obtain ⟨c, hc⟩ := exists_of_isSome hloads
  exact ⟨document, c, hd, hc, (loaded_isRunnable _ hd).2 c hc⟩

end Config

end SiteTrial
