import SiteTrial.Config.Loader
import SiteTrial.Proofs.Answers

/-!
# The reading of a configuration, part by part

Every part of the reading puts the faults that it finds behind those found before, and heeds these for
nothing else. So a configuration is read without a fault where every part is, and its reading breaks off
where one part does.

* `Check.IsSteady` : a part has this property;
* `Check.Reads`, `Check.reads_bind_iff` : a part is read as a value, and no fault is found;
* `Check.Breaks`, `Check.breaks_bind_iff` : the reading of a part breaks off;
* `Check.IsSettled` : the reading of a part never does;
* `Value.integer?` : the integer that a value stands for.
-/

namespace SiteTrial

/-- The integer that a value stands for: truth values count as numbers. -/
def Value.integer? : Value → Option Int
  | .scalar s => s.toInt?
  | _ => none

namespace Check

variable {α β : Type}

/-- The faults that are found stand behind those found before, which count for nothing else. -/
class IsSteady (x : Check α) : Prop where
  run_eq : ∀ before, x.run before = (x.run []).map fun r => (r.1, before ++ r.2)

/-- The part is read as a value, and no fault is found. -/
def Reads (x : Check α) (a : α) : Prop := x.run [] = .ok (a, [])

/-- The reading breaks off. -/
def Breaks (x : Check α) : Prop := ∃ f, x.run [] = .error f

/-- A part that is always read, with or without faults. -/
class IsSettled (x : Check α) : Prop extends IsSteady x where
  not_breaks : ¬ Breaks x

/-! ## Two parts one after another -/

instance isSettled_pure (a : α) : IsSettled (pure a) where
  run_eq before := congrArg (fun faults => Except.ok (a, faults)) (List.append_nil before).symm
  not_breaks := nofun

instance isSettled_complain (f : ConfigFault) : IsSettled (complain f) where
  run_eq _ := rfl
  not_breaks := nofun

instance isSteady_of (r : Except Fault α) : IsSteady (of r) where
  run_eq before := by
    cases r with
    | error f => rfl
    | ok a => exact (isSettled_pure a).run_eq before

section

variable {x : Check α} {k : α → Check β}

instance isSteady_bind [hx : IsSteady x] [hk : ∀ a, IsSteady (k a)] : IsSteady (x >>= k) where
  run_eq before := by
    rw [StateT.run_bind, StateT.run_bind, hx.run_eq before]
    cases x.run [] with
    | error f => rfl
    | ok r =>
        show (k r.1).run (before ++ r.2) = ((k r.1).run r.2).map _
        rw [(hk r.1).run_eq (before ++ r.2), (hk r.1).run_eq r.2]
        cases (k r.1).run [] with
        | error f => rfl
        | ok s => exact congrArg (fun faults => Except.ok (s.1, faults)) (List.append_assoc ..)

instance isSteady_map [IsSteady x] (f : α → β) : IsSteady (f <$> x) := by
  rw [map_eq_pure_bind]
  infer_instance

/-- Two parts are read without a fault if each of them is. -/
theorem reads_bind_iff [hk : ∀ a, IsSteady (k a)] {b : β} :
    Reads (x >>= k) b ↔ ∃ a, Reads x a ∧ Reads (k a) b := by
  unfold Reads
  rw [StateT.run_bind]
  cases hx : x.run [] with
  | error f => simp [bind, Except.bind]
  | ok r =>
      obtain ⟨a, faults⟩ := r
      show (k a).run faults = _ ↔ _
      rw [(hk a).run_eq faults]
      cases hrest : (k a).run [] with
      | error f =>
          constructor
          · intro h
            cases h
          · rintro ⟨c, hc, h⟩
            cases hc
            rw [hrest] at h
            cases h
      | ok s =>
          constructor
          · intro h
            obtain ⟨rfl, hfaults⟩ := Prod.mk.inj (Except.ok.inj h)
            obtain ⟨rfl, hnone⟩ := List.append_eq_nil_iff.1 hfaults
            exact ⟨a, rfl, hrest.trans (by rw [← hnone])⟩
          · rintro ⟨c, hc, h⟩
            cases hc
            rw [hrest] at h
            cases h
            rfl

/-- Two parts break off if the first one does, or the second for what the first is read as. -/
theorem breaks_bind_iff [hk : ∀ a, IsSteady (k a)] :
    Breaks (x >>= k) ↔ Breaks x ∨ ∃ a faults, x.run [] = .ok (a, faults) ∧ Breaks (k a) := by
  unfold Breaks
  rw [StateT.run_bind]
  cases hx : x.run [] with
  | error f => exact ⟨fun _ => .inl ⟨f, rfl⟩, fun _ => ⟨f, rfl⟩⟩
  | ok r =>
      obtain ⟨a, faults⟩ := r
      show (∃ f, (k a).run faults = .error f) ↔ _
      rw [(hk a).run_eq faults]
      constructor
      · rintro ⟨f, hf⟩
        refine .inr ⟨a, faults, rfl, f, ?_⟩
        cases hrest : (k a).run [] with
        | error g =>
            rw [hrest] at hf
            exact congrArg Except.error (Except.error.inj hf)
        | ok s =>
            rw [hrest] at hf
            cases hf
      · rintro (⟨f, hf⟩ | ⟨c, faults', hc, f, hf⟩)
        · cases hf
        · cases hc
          exact ⟨f, by rw [hf]; rfl⟩

/-- As before, where the first part does not break off. -/
theorem breaks_bind_of_run [∀ a, IsSteady (k a)] {a : α} {faults : List ConfigFault}
    (hx : x.run [] = .ok (a, faults)) : Breaks (x >>= k) ↔ Breaks (k a) := by
  rw [breaks_bind_iff]
  constructor
  · rintro (⟨f, hf⟩ | ⟨b, faults', hb, h⟩)
    · rw [hx] at hf
      cases hf
    · rw [hx] at hb
      cases hb
      exact h
  · exact fun h => .inr ⟨a, faults, hx, h⟩

/-- As before, where the second part breaks off whatever the first one is read as, or never. -/
theorem breaks_bind_congr [∀ a, IsSteady (k a)] {p : Prop} (h : ∀ a, Breaks (k a) ↔ p) :
    Breaks (x >>= k) ↔ Breaks x ∨ p := by
  rw [breaks_bind_iff]
  constructor
  · rintro (hx | ⟨a, faults, -, ha⟩)
    · exact .inl hx
    · exact .inr ((h a).1 ha)
  · rintro (hx | hp)
    · exact .inl hx
    · cases hrun : x.run [] with
      | error f => exact .inl ⟨f, hrun⟩
      | ok r => exact .inr ⟨r.1, r.2, rfl, (h r.1).2 hp⟩

/-- As before, where the first part never breaks off. -/
theorem breaks_bind_of_not [∀ a, IsSteady (k a)] {p : Prop} (hx : ¬ Breaks x)
    (h : ∀ a, Breaks (k a) ↔ p) : Breaks (x >>= k) ↔ p :=
  (breaks_bind_congr h).trans (or_iff_right hx)

theorem not_breaks_bind [∀ a, IsSteady (k a)] (hx : ¬ Breaks x) (h : ∀ a, ¬ Breaks (k a)) :
    ¬ Breaks (x >>= k) := by
  rw [breaks_bind_of_not hx fun a => iff_false_intro (h a)]
  exact not_false

instance isSettled_bind [hx : IsSettled x] [hk : ∀ a, IsSettled (k a)] : IsSettled (x >>= k) where
  not_breaks := not_breaks_bind hx.not_breaks fun a => (hk a).not_breaks

/-- As before, where the second part never breaks off. -/
theorem breaks_bind_left [∀ a, IsSteady (k a)] (h : ∀ a, ¬ Breaks (k a)) :
    Breaks (x >>= k) ↔ Breaks x :=
  (breaks_bind_congr (p := False) fun a => iff_of_false (h a) not_false).trans (or_iff_left not_false)

end

/-! ## Single parts -/

@[simp] theorem reads_pure_iff {a b : α} : Reads (pure a) b ↔ a = b :=
  ⟨fun h => congrArg Prod.fst (Except.ok.inj h), fun h => h ▸ rfl⟩

@[simp] theorem reads_of_iff {r : Except Fault α} {a : α} : Reads (of r) a ↔ r = .ok a := by
  cases r with
  | error f => exact ⟨nofun, nofun⟩
  | ok b => exact reads_pure_iff.trans ⟨congrArg Except.ok, Except.ok.inj⟩

@[simp] theorem breaks_of_iff {r : Except Fault α} : Breaks (of r) ↔ ∃ f, r = .error f := by
  cases r with
  | error f => exact ⟨fun _ => ⟨f, rfl⟩, fun _ => ⟨f, rfl⟩⟩
  | ok b => exact ⟨nofun, nofun⟩

@[simp] theorem not_reads_complain_pure (f : ConfigFault) (a b : α) :
    ¬ Reads (complain f >>= fun _ => pure a) b := nofun

section

variable {env : Table String} {name : String}

instance isSettled_positiveSetting (env : Table String) (name : String) :
    IsSettled (positiveSetting env name) := by
  unfold positiveSetting
  split
  · infer_instance
  · split
    · infer_instance
    · split <;> infer_instance

theorem pos_of_reads_positiveSetting {n : Nat} (h : Reads (positiveSetting env name) (some n)) :
    1 ≤ n := by
  unfold positiveSetting at h
  split at h
  · cases reads_pure_iff.1 h
  · split at h
    · exact absurd h (not_reads_complain_pure _ _ _)
    · split at h
      · next hpos =>
          cases reads_pure_iff.1 h
          omega
      · exact absurd h (not_reads_complain_pure _ _ _)

end

instance isSettled_mappingOr (fault : ConfigFault) (v : Value) : IsSettled (mappingOr fault v) := by
  unfold mappingOr
  split <;> infer_instance

theorem reads_mappingOr_iff {fault : ConfigFault} {v : Value} {fs : Fields} :
    Reads (mappingOr fault v) fs ↔ v.fields? = some fs := by
  unfold mappingOr
  split
  · next hfs => rw [reads_pure_iff, hfs, Option.some.injEq]
  · next hnone => exact ⟨fun h => absurd h (not_reads_complain_pure _ _ _), fun h => by rw [hnone] at h; cases h⟩

/-- A value that should be a mapping is read as its entries, or as none. -/
theorem exists_run_mappingOr (fault : ConfigFault) (v : Value) :
    ∃ faults, (mappingOr fault v).run [] = .ok (v.fields?.getD [], faults) := by
  unfold mappingOr
  split
  · next fs hfs => exact ⟨[], by rw [hfs]; rfl⟩
  · next hnone => exact ⟨[fault], by rw [hnone]; rfl⟩

/-! ## Every part is steady, and most are settled -/

/-- The address that a value stands for. -/
def address (side : Side) : Value → Check String
  | .text s => if s.isEmpty then baseUrl.missing side else return s
  | _ => baseUrl.missing side

instance isSettled_address (side : Side) (value : Value) : IsSettled (address side value) := by
  unfold address baseUrl.missing
  split
  · split <;> infer_instance
  · infer_instance

theorem baseUrl_eq (env : Table String) (side : Side) (entry : Fields) : baseUrl env side entry = (do
    let value ← of (settingOr env (side.settingStem ++ "_BASE_URL") (.ok (entry.get "baseUrl")))
    address side value) := rfl

instance isSettled_settingOr (env : Table String) (name : String) (v : Value) :
    IsSettled (of (settingOr env name (.ok v))) := by
  unfold settingOr
  split <;> exact isSettled_pure _

instance isSettled_baseUrl (env : Table String) (side : Side) (entry : Fields) :
    IsSettled (baseUrl env side entry) := by
  rw [baseUrl_eq]
  infer_instance

instance isSteady_application (document : Fields) (env : Table String) (side : Side) :
    IsSteady (application document env side) := by
  unfold application
  split <;> infer_instance

instance isSettled_positive (fault : ConfigFault) (v : Value) : IsSettled (positive fault v) := by
  unfold positive positive.refused
  split
  · split <;> infer_instance
  · infer_instance
  · infer_instance

instance isSteady_network (stage : Stage) (v : Value) : IsSteady (network? stage v) := by
  unfold network?
  split
  · infer_instance
  · split <;> infer_instance

instance isSteady_environment (document : Fields) (iterations : Option Nat) (stage : Stage) :
    IsSteady (environment document iterations stage) := by
  unfold environment
  split <;> infer_instance

instance isSettled_scenarioNames (v : Value) : IsSettled (scenarioNames v) := by
  unfold scenarioNames
  split <;> infer_instance

instance isSettled_regressionThreshold (v : Value) : IsSettled (regressionThreshold v) := by
  unfold regressionThreshold
  split <;> infer_instance

instance isSettled_iterationDelay (v : Value) : IsSettled (iterationDelay v) := by
  unfold iterationDelay iterationDelay.refused
  split
  · split <;> infer_instance
  · infer_instance
  · infer_instance

/-- Where the reports of a run go. -/
def outputPath (entry : Fields) (env : Table String) : Check String :=
  match setting? env "OUTPUT_PATH" with
  | some path => return path
  | none => of (entry.getD "outputPath" (.text "./reports")).toText?

instance isSteady_outputPath (entry : Fields) (env : Table String) :
    IsSteady (outputPath entry env) := by
  unfold outputPath
  split <;> infer_instance

/-- What is configured for the run itself, the place of its reports in one piece. -/
theorem execution_eq (document : Value) (env : Table String) : execution document env = (do
    let entry ← mappingOr .executionNotAMapping document
    let scenarios ← scenarioNames (entry.getD "scenarios" (.list []))
    let overrides ← mappingOr .thresholdsNotAMapping (entry.getD "thresholds" (.mapping []))
    let regression ← regressionThreshold (entry.getD "regressionThreshold" (.double 15.0))
    let delay ← iterationDelay (entry.getD "iterationDelayMs" (.int 2000))
    let outputPath ← outputPath entry env
    let thresholds ← of (({} : Thresholds).merged overrides)
    let threshold ← of regression.numericOrZero
    return {
      scenarios := scenarios
      outputPath := outputPath
      thresholds := thresholds
      regressionThreshold := threshold
      iterationDelay := delay
      headless := (entry.getD "headless" (.bool true)).isTruthy && !isHeaded env }) := by
  unfold execution outputPath
  cases setting? env "OUTPUT_PATH" <;> rfl

instance isSteady_execution (document : Value) (env : Table String) :
    IsSteady (execution document env) := by
  rw [execution_eq]
  infer_instance

/-- The environment that is asked for. -/
def askedStage (document : Fields) (env : Table String) : Value :=
  ((setting? env "TEST_ENVIRONMENT").map Value.text).getD (document.getD "environment" (.text "pre"))

instance isSteady_stage (document : Fields) (env : Table String) : IsSteady (stage document env) := by
  unfold stage
  dsimp only
  split <;> infer_instance

instance isSettled_distinctNames (a b : Option Application) : IsSettled (distinctNames a b) := by
  unfold distinctNames
  split
  · split <;> infer_instance
  · infer_instance

end Check

end SiteTrial
