import SiteTrial.Proofs.Config.Loaded
import SiteTrial.Proofs.Json.Writable
import SiteTrial.Proofs.Value.Range

/-!
# Where the reading of a configuration breaks off

Most values of a document are looked at before they are used, so that a bad one is reported. A few are
not: with one of these the reading breaks off instead. All others are read or reported, if they can be
written.

* `Config.Unguarded` : the values of a document with which the reading breaks off;
* `Check.breaks_application_iff`, `Check.breaks_environment_iff`, `Check.breaks_execution_iff`,
  `Check.not_breaks_stage` : the parts;
* `Config.breaks_iff` : the whole document;
* `Config.load_answers_iff` : what comes of a file, which is a configuration or a report unless it holds
  one of these values.
-/

namespace SiteTrial

/-- The mapping under a key, an empty one if there is none. -/
def Fields.within (fs : Fields) (k : String) : Fields := (fs.getD k (.mapping [])).fields?.getD []

namespace Value

/-- Something in the place of a mapping that is neither one nor empty. -/
def IsMisplaced (v : Value) : Prop := v.isTruthy = true ∧ v.fields? = none

end Value

namespace Check

variable {env : Table String}

/-! ## Applications -/

theorem isTruthy_of_setting? {name s : String} (h : setting? env name = some s) :
    (Value.text s).isTruthy = true := by
  obtain ⟨-, hs⟩ := Option.filter_eq_some_iff.1 h
  exact hs

theorem settingOr_of_some {name s : String} (h : setting? env name = some s) (other : Except Fault Value) :
    settingOr env name other = .ok (.text s) := by
  rw [settingOr, h]

theorem settingOr_of_none {name : String} (h : setting? env name = none) (other : Except Fault Value) :
    settingOr env name other = other := by
  rw [settingOr, h]

/-- What a setting or else the entry of a mapping is can be written. -/
theorem exists_settingOr_member (env : Table String) {given : Value} {entry : Fields} (hgiven : given.fields? = some entry)
    (hentry : Value.fieldsWritable entry = true) (name key : String) :
    ∃ v, settingOr env name (given.member key) = .ok v ∧ v.isWritable = true := by
  cases hset : setting? env name with
  | some s => exact ⟨.text s, settingOr_of_some hset _, rfl⟩
  | none =>
      refine ⟨entry.get key, ?_, Value.isWritable_getD hentry rfl⟩
      rw [settingOr_of_none hset, Value.member, hgiven]

theorem toText?_orElse {v : Value} (h : v.isWritable = true) :
    (v.orElse (.text "")).toText? = .ok (v.orElse (.text "")).toText := by
  refine Value.toText?_of_isWritable ?_
  unfold Value.orElse
  split
  · exact h
  · rfl

theorem exists_credentials (env : Table String) (side : Side) {v : Value} {entry : Fields}
    (hv : (v.orElse (.mapping [])).fields? = some entry) (hentry : Value.fieldsWritable entry = true) :
    ∃ c, credentials env side v = .ok c := by
  obtain ⟨username, husername, huser⟩ := exists_settingOr_member env hv hentry
    (side.settingStem ++ "_USERNAME") "username"
  obtain ⟨password, hpassword, hpass⟩ := exists_settingOr_member env hv hentry
    (side.settingStem ++ "_PASSWORD") "password"
  have hkind : (v.orElse (.mapping [])).memberD "accountType" (.text "") =
      .ok (entry.getD "accountType" (.text "")) := by
    rw [Value.memberD, hv]
  have hkind' : (entry.getD "accountType" (.text "")).isWritable = true := Value.isWritable_getD hentry rfl
  unfold credentials
  simp only [husername, hpassword, hkind, ok_bind, toText?_orElse huser, toText?_orElse hpass,
    Value.toText?_of_isWritable hkind']
  split
  · exact ⟨_, rfl⟩
  · exact ⟨_, rfl⟩

theorem exists_credentials_error {side : Side} {v : Value} (hv : v.IsMisplaced) :
    ∃ f, credentials env side v = .error f := by
  obtain ⟨htruthy, hfields⟩ := hv
  have hgiven : v.orElse (.mapping []) = v := if_pos htruthy
  have hmember (key : String) : v.member key = .error (.noMember v.kind "get") := by
    rw [Value.member, hfields]
  have hkind : v.memberD "accountType" (.text "") = .error (.noMember v.kind "get") := by
    rw [Value.memberD, hfields]
  refine ⟨.noMember v.kind "get", ?_⟩
  unfold credentials
  simp only [hgiven, hmember, hkind]
  -- what the variables leave open is asked of the value, the kind of the account at last
  cases huser : setting? env (side.settingStem ++ "_USERNAME") with
  | none => rw [settingOr_of_none huser]; rfl
  | some username =>
      rw [settingOr_of_some huser, ok_bind]
      cases hpass : setting? env (side.settingStem ++ "_PASSWORD") with
      | none => rw [settingOr_of_none hpass]; rfl
      | some password =>
          rw [settingOr_of_some hpass, ok_bind, isTruthy_of_setting? huser]
          simp only [Bool.true_or, if_true, Value.orElse, isTruthy_of_setting? huser, isTruthy_of_setting? hpass]
          rfl

/-- An account is read unless something else stands in its place. -/
theorem credentials_eq_error_iff {side : Side} {v : Value} (hv : v.isWritable = true) :
    (∃ f, credentials env side v = .error f) ↔ v.IsMisplaced := by
  refine ⟨fun ⟨f, hf⟩ => ?_, exists_credentials_error⟩
  by_contra hplaced
  have hentry : ∃ entry, (v.orElse (.mapping [])).fields? = some entry ∧
      Value.fieldsWritable entry = true := by
    unfold Value.orElse
    split
    · next htruthy =>
        obtain ⟨entry, hentry⟩ := Option.ne_none_iff_exists'.1 fun hnone => hplaced ⟨htruthy, hnone⟩
        exact ⟨entry, hentry, Value.fieldsWritable_of_fields? hv hentry⟩
    · exact ⟨[], rfl, rfl⟩
  obtain ⟨entry, hfields, hwritable⟩ := hentry
  obtain ⟨c, hc⟩ := exists_credentials env side hfields hwritable
  rw [hc] at hf
  cases hf

theorem not_breaks_of_ok {α : Type} {r : Except Fault α} {a : α} (h : r = .ok a) : ¬ Breaks (of r) := by
  rw [h, breaks_of_iff]
  nofun

theorem not_breaks_toText? {v : Value} (h : v.isWritable = true) : ¬ Breaks (of v.toText?) :=
  not_breaks_of_ok (Value.toText?_of_isWritable h)

/-- The account of a side's entry, which the entry of a side that is not mentioned does not have. -/
theorem get_credentials {document entry : Fields} {side : Side}
    (h : (document.getD side.key (.mapping (defaultApplication side))).fields? = some entry) :
    (document.within side.key).get "credentials" = entry.get "credentials" := by
  unfold Fields.within Fields.getD at *
  cases hside : document.get? side.key with
  | none =>
      rw [hside] at h
      cases h
      cases side <;> rfl
  | some v =>
      rw [hside] at h
      have hv : v.fields? = some entry := h
      show (v.fields?.getD []).get "credentials" = _
      rw [hv]
      rfl

theorem within_of_fields?_eq_none {document : Fields} {key : String} {other : Value}
    (h : (document.getD key other).fields? = none) (hother : other.fields? ≠ none) :
    document.within key = [] := by
  unfold Fields.within Fields.getD at *
  cases hside : document.get? key with
  | none =>
      rw [hside] at h
      exact absurd h hother
  | some v =>
      rw [hside] at h
      have hv : v.fields? = none := h
      show v.fields?.getD [] = []
      rw [hv]
      rfl

theorem within_of_fields?_eq_some {document entry : Fields} {key : String}
    (h : (document.getD key (.mapping [])).fields? = some entry) : document.within key = entry := by
  unfold Fields.within
  rw [h]
  rfl

theorem breaks_application_iff {document : Fields} {side : Side}
    (hdocument : Value.fieldsWritable document = true) :
    Breaks (application document env side) ↔
      ((document.within side.key).get "credentials").IsMisplaced := by
  unfold application
  split
  · next entry hentry =>
      have hdefault : (Value.mapping (defaultApplication side)).isWritable = true := by cases side <;> rfl
      have hwritable := Value.fieldsWritable_of_fields? (Value.isWritable_getD hdocument hdefault) hentry
      have haccount : (entry.get "credentials").isWritable = true := Value.isWritable_getD hwritable rfl
      have hname : (entry.getD "name" (.text side.key)).isWritable = true := Value.isWritable_getD hwritable rfl
      have htechnology : (entry.getD "technology" (.text "")).isWritable = true :=
        Value.isWritable_getD hwritable rfl
      rw [get_credentials hentry]
      refine breaks_bind_of_not IsSettled.not_breaks fun url => ?_
      refine (breaks_bind_left fun credentials => ?_).trans
        (breaks_of_iff.trans (credentials_eq_error_iff haccount))
      exact not_breaks_bind (not_breaks_toText? hname) fun _ =>
        not_breaks_bind (not_breaks_toText? htechnology) fun _ => IsSettled.not_breaks
  · next hnone =>
      have hwithin := within_of_fields?_eq_none hnone (by simp [Value.fields?, Value.opened])
      rw [hwithin]
      refine iff_of_false IsSettled.not_breaks ?_
      rintro ⟨htruthy, -⟩
      cases htruthy

/-! ## Environments -/

/-- What a network is described by. -/
def networkKeys : List String := ["downloadThroughput", "uploadThroughput", "latency"]

/-- A number that is given otherwise than as one. -/
theorem toDouble_getD_eq_error_iff {fs : Fields} {key : String} {other : Value}
    (hother : ∃ x, other.toDouble = .ok x) :
    (∃ f, (fs.getD key other).toDouble = .error f) ↔
      ∃ v, fs.get? key = some v ∧ ∃ f, v.toDouble = .error f := by
  unfold Fields.getD
  cases fs.get? key with
  | none =>
      obtain ⟨x, hx⟩ := hother
      refine iff_of_false (fun ⟨f, hf⟩ => ?_) nofun
      have : other.toDouble = .error f := hf
      rw [hx] at this
      cases this
  | some v => simp

theorem network_eq_error_iff {fs : Fields} : (∃ f, network fs = .error f) ↔
    ∃ key ∈ networkKeys, ∃ v, fs.get? key = some v ∧ ∃ f, v.toDouble = .error f := by
  have hthroughput : ∃ x, (Value.int (-1)).toDouble = .ok x := exists_of_isSome (by decide +kernel)
  have hlatency : ∃ x, (Value.int 0).toDouble = .ok x := exists_of_isSome (by decide +kernel)
  unfold network
  have hmade (c : NetworkConditions) : (∃ f, (pure c : Except Fault NetworkConditions) = .error f) ↔ False :=
    iff_false_intro (by rintro ⟨f, hf⟩; cases hf)
  rw [error_bind_iff fun _ => error_bind_iff fun _ => error_bind_iff fun _ => hmade _,
    toDouble_getD_eq_error_iff hthroughput, toDouble_getD_eq_error_iff hthroughput,
    toDouble_getD_eq_error_iff hlatency]
  simp only [networkKeys, List.mem_cons, List.not_mem_nil, or_false, exists_eq_or_imp, exists_eq_left]

theorem breaks_network_iff {stage : Stage} {v : Value} : Breaks (network? stage v) ↔
    ∃ key ∈ networkKeys, ∃ w, (v.fields?.getD []).get? key = some w ∧ ∃ f, w.toDouble = .error f := by
  unfold network?
  split
  · next fs hfs =>
      rw [map_eq_pure_bind, breaks_bind_left fun _ => IsSettled.not_breaks, breaks_of_iff, network_eq_error_iff, hfs]
      rfl
  · next hnone =>
      rw [hnone]
      refine iff_of_false ?_ (by rintro ⟨key, -, w, hw, -⟩; cases hw)
      split
      · exact IsSettled.not_breaks
      · exact IsSettled.not_breaks

theorem within_eq_get (fs : Fields) (key : String) : fs.within key = (fs.get key).fields?.getD [] := by
  unfold Fields.within Fields.get Fields.getD
  cases fs.get? key <;> rfl

theorem breaks_environment_iff {document : Fields} {iterations : Option Nat} {stage : Stage}
    (hdocument : Value.fieldsWritable document = true) :
    Breaks (environment document iterations stage) ↔ ∃ key ∈ networkKeys, ∃ v,
      ((document.within stage.key).within "networkConditions").get? key = some v ∧
        ∃ f, v.toDouble = .error f := by
  unfold environment
  split
  · next entry hentry =>
      have hwritable := Value.fieldsWritable_of_fields? (Value.isWritable_getD hdocument rfl) hentry
      have hname : (entry.getD "name" (.text stage.key)).isWritable = true := Value.isWritable_getD hwritable rfl
      rw [within_of_fields?_eq_some hentry]
      refine breaks_bind_of_not IsSettled.not_breaks fun instances => ?_
      refine breaks_bind_of_not IsSettled.not_breaks fun own => ?_
      rw [within_eq_get]
      refine (breaks_bind_left fun network => ?_).trans breaks_network_iff
      exact not_breaks_bind (not_breaks_toText? hname) fun _ => IsSettled.not_breaks
  · next hnone =>
      have hwithin := within_of_fields?_eq_none hnone (by simp [Value.fields?, Value.opened])
      rw [hwithin]
      refine iff_of_false IsSettled.not_breaks ?_
      rintro ⟨key, -, v, hv, -⟩
      cases hv

/-! ## The run itself -/

theorem not_breaks_outputPath {entry : Fields} (hentry : Value.fieldsWritable entry = true) :
    ¬ Breaks (outputPath entry env) := by
  unfold outputPath
  split
  · exact IsSettled.not_breaks
  · exact not_breaks_toText? (Value.isWritable_getD hentry rfl)

theorem override_eq_error_iff {t : Thresholds} {k : Scalar} {v : Value} :
    (∃ f, t.override k v = .error f) ↔ (Thresholds.keyOf? k).isSome = true ∧ v.IsBeyondDoubles := by
  unfold Thresholds.override
  cases Thresholds.keyOf? k with
  | none => exact ⟨nofun, nofun⟩
  | some b => exact (error_map_iff.trans Value.numeric?_eq_error_iff).trans (and_iff_right rfl).symm

theorem merged_eq_error_iff {t : Thresholds} {overrides : Fields} : (∃ f, t.merged overrides = .error f) ↔
    ∃ e ∈ overrides, (Thresholds.keyOf? e.1).isSome = true ∧ e.2.IsBeyondDoubles := by
  unfold Thresholds.merged
  exact error_foldlM_iff (p := fun e : Scalar × Value => (Thresholds.keyOf? e.1).isSome = true ∧ e.2.IsBeyondDoubles)
    fun _ _ => override_eq_error_iff

/-- The threshold that a value stands for: fifteen if it is no number or below zero. -/
theorem exists_run_regressionThreshold (v : Value) : ∃ faults, (regressionThreshold v).run [] =
    .ok (if v.isNumeric && !isNegative v then v else .double 15.0, faults) := by
  unfold regressionThreshold
  split
  · exact ⟨[], rfl⟩
  · exact ⟨[.badRegressionThreshold], rfl⟩

theorem numericOrZero_threshold_eq_error_iff {entry : Fields} {v : Value}
    (hv : entry.getD "regressionThreshold" (.double 15.0) = v) :
    (∃ f, (if v.isNumeric && !isNegative v then v else .double 15.0 : Value).numericOrZero = .error f) ↔
      ∃ n, entry.get "regressionThreshold" = .int n ∧ 0 ≤ n ∧ (Float.ofInt n).isFinite = false := by
  have hget : ∀ n, v = .int n ↔ entry.get "regressionThreshold" = .int n := by
    intro n
    rw [← hv]
    unfold Fields.get Fields.getD
    cases entry.get? "regressionThreshold" with
    | none => exact ⟨nofun, nofun⟩
    | some w => exact Iff.rfl
  refine (error_map_iff.trans Value.numeric?_eq_error_iff).trans ⟨?_, ?_⟩
  · rintro ⟨n, hn, hfinite⟩
    split at hn
    · next hgood =>
        refine ⟨n, (hget n).1 hn, ?_, hfinite⟩
        rw [hn] at hgood
        simpa [Value.isNumeric, isNegative] using hgood
    · cases hn
  · rintro ⟨n, hn, hpos, hfinite⟩
    refine ⟨n, ?_, hfinite⟩
    rw [(hget n).2 hn, if_pos (by simpa [Value.isNumeric, isNegative] using hpos)]

theorem breaks_execution_iff {document : Value} (hdocument : document.isWritable = true) :
    Breaks (execution document env) ↔
      (∃ e ∈ (document.fields?.getD []).within "thresholds",
        (Thresholds.keyOf? e.1).isSome = true ∧ e.2.IsBeyondDoubles) ∨
      ∃ n, (document.fields?.getD []).get "regressionThreshold" = .int n ∧ 0 ≤ n ∧
        (Float.ofInt n).isFinite = false := by
  have hentry : Value.fieldsWritable (document.fields?.getD []) = true := by
    cases hfs : document.fields? with
    | none => rfl
    | some fs => exact Value.fieldsWritable_of_fields? hdocument hfs
  obtain ⟨_, hmapping⟩ := exists_run_mappingOr .executionNotAMapping document
  rw [execution_eq, breaks_bind_of_run hmapping]
  refine breaks_bind_of_not IsSettled.not_breaks fun scenarios => ?_
  obtain ⟨_, hoverrides⟩ := exists_run_mappingOr .thresholdsNotAMapping
    ((document.fields?.getD []).getD "thresholds" (.mapping []))
  rw [breaks_bind_of_run hoverrides]
  obtain ⟨_, hregression⟩ := exists_run_regressionThreshold
    ((document.fields?.getD []).getD "regressionThreshold" (.double 15.0))
  rw [breaks_bind_of_run hregression]
  refine breaks_bind_of_not IsSettled.not_breaks fun delay => ?_
  refine breaks_bind_of_not (not_breaks_outputPath hentry) fun path => ?_
  rw [breaks_bind_congr fun thresholds => breaks_bind_left fun threshold => IsSettled.not_breaks,
    breaks_of_iff, breaks_of_iff, numericOrZero_threshold_eq_error_iff rfl]
  exact or_congr merged_eq_error_iff Iff.rfl

theorem not_breaks_stage {document : Fields} (hdocument : Value.fieldsWritable document = true) :
    ¬ Breaks (stage document env) := by
  have hasked : (askedStage document env).isWritable = true := by
    unfold askedStage
    cases setting? env "TEST_ENVIRONMENT" with
    | none => exact Value.isWritable_getD hdocument rfl
    | some s => rfl
  unfold stage
  dsimp only
  split
  · exact IsSettled.not_breaks
  · exact not_breaks_bind (not_breaks_of_ok (Value.shown?_of_isWritable hasked)) fun _ =>
      IsSettled.not_breaks

end Check

/-! ## All parts together -/

namespace Config

/-- The account of a side is something else than a mapping. -/
def MisplacesAccount (document : Fields) (side : Side) : Prop :=
  (((document.within "applications").within side.key).get "credentials").IsMisplaced

/-- A throughput or the latency of an environment is no number, or too large a one. -/
def MisstatesNetwork (document : Fields) (stage : Stage) : Prop :=
  ∃ key ∈ Check.networkKeys, ∃ v,
    (((document.within "environments").within stage.key).within "networkConditions").get? key = some v ∧
      ∃ f, v.toDouble = .error f

/-- The bound of a measurement is an integer that is too large. -/
def ExceedsBound (document : Fields) : Prop :=
  ∃ e ∈ (document.within "execution").within "thresholds",
    (Thresholds.keyOf? e.1).isSome = true ∧ e.2.IsBeyondDoubles

/-- The threshold of regressions is an integer that is too large. -/
def ExceedsThreshold (document : Fields) : Prop :=
  ∃ n, (document.within "execution").get "regressionThreshold" = .int n ∧ 0 ≤ n ∧
    (Float.ofInt n).isFinite = false

/-- A document with a value that is used without having been looked at. -/
def Unguarded (document : Fields) : Prop :=
  (∃ side, MisplacesAccount document side) ∨ (∃ stage, MisstatesNetwork document stage) ∨
    ExceedsBound document ∨ ExceedsThreshold document

theorem fieldsWritable_within {document : Fields} (h : Value.fieldsWritable document = true)
    (key : String) : Value.fieldsWritable (document.within key) = true := by
  unfold Fields.within
  cases hfs : (document.getD key (.mapping [])).fields? with
  | none => rfl
  | some fs => exact Value.fieldsWritable_of_fields? (Value.isWritable_getD h rfl) hfs

theorem breaks_parts_iff {document : Fields} (env : Table String)
    (hdocument : Value.fieldsWritable document = true) : Check.Breaks (Check.config document env) ↔
      MisplacesAccount document .baseline ∨ MisplacesAccount document .candidate ∨
        MisstatesNetwork document .pre ∨ MisstatesNetwork document .pro ∨
          ExceedsBound document ∨ ExceedsThreshold document := by
  obtain ⟨_, happlications⟩ := Check.exists_run_mappingOr .applicationsNotAMapping
    (document.getD "applications" (.mapping []))
  obtain ⟨_, henvironments⟩ := Check.exists_run_mappingOr .environmentsNotAMapping
    (document.getD "environments" (.mapping []))
  have hsides := fieldsWritable_within hdocument "applications"
  have hstages := fieldsWritable_within hdocument "environments"
  have hexecution : (document.getD "execution" (.mapping [])).isWritable = true :=
    Value.isWritable_getD hdocument rfl
  unfold Check.config
  rw [Check.breaks_bind_of_run happlications]
  refine (Check.breaks_bind_congr fun baseline => ?_).trans
    (or_congr_left (Check.breaks_application_iff hsides))
  refine (Check.breaks_bind_congr fun candidate => ?_).trans
    (or_congr_left (Check.breaks_application_iff hsides))
  rw [Check.breaks_bind_of_run henvironments]
  refine Check.breaks_bind_of_not Check.IsSettled.not_breaks fun iterations => ?_
  refine (Check.breaks_bind_congr fun pre => ?_).trans
    (or_congr_left (Check.breaks_environment_iff hstages))
  refine (Check.breaks_bind_congr fun pro => ?_).trans
    (or_congr_left (Check.breaks_environment_iff hstages))
  refine (Check.breaks_bind_left fun execution => ?_).trans (Check.breaks_execution_iff hexecution)
  exact Check.not_breaks_bind (Check.not_breaks_stage hdocument) fun stage =>
    Check.not_breaks_bind Check.IsSettled.not_breaks fun workers =>
      Check.not_breaks_bind Check.IsSettled.not_breaks fun _ => Check.IsSettled.not_breaks

/-- The reading of a document that can be written breaks off at such a value, and at no other one. -/
theorem breaks_iff {document : Fields} (env : Table String)
    (hdocument : Value.fieldsWritable document = true) :
    Check.Breaks (Check.config document env) ↔ Unguarded document := by
  have hside : (∃ side, MisplacesAccount document side) ↔
      MisplacesAccount document .baseline ∨ MisplacesAccount document .candidate :=
    ⟨fun ⟨side, h⟩ => by cases side <;> simp [h], fun h => h.elim (⟨_, ·⟩) (⟨_, ·⟩)⟩
  have hstage : (∃ stage, MisstatesNetwork document stage) ↔
      MisstatesNetwork document .pre ∨ MisstatesNetwork document .pro :=
    ⟨fun ⟨stage, h⟩ => by cases stage <;> simp [h], fun h => h.elim (⟨_, ·⟩) (⟨_, ·⟩)⟩
  rw [breaks_parts_iff env hdocument, Unguarded, hside, hstage]
  simp only [or_assoc]

/-- What comes of a document: a configuration, a report of its faults, or neither. -/
theorem ofDocument_answers_iff {document : Fields} {env : Table String} :
    ((∃ c, ofDocument document env = .ok c) ∨
      ∃ e, ofDocument document env = .error (.configuration e)) ↔
      ¬ Check.Breaks (Check.config document env) := by
  cases hrun : (Check.config document env).run [] with
  | error f =>
      rw [ofDocument_of_error hrun]
      exact iff_of_false (by rintro (⟨c, h⟩ | ⟨e, h⟩) <;> cases h) fun h => h ⟨f, hrun⟩
  | ok r =>
      obtain ⟨made, faults⟩ := r
      refine iff_of_true ?_ fun ⟨f, hf⟩ => by rw [hrun] at hf; cases hf
      cases faults with
      | cons f fs => exact .inr ⟨_, ofDocument_of_cons hrun⟩
      | nil =>
          obtain ⟨c, rfl, -⟩ := isRunnable_of_reads hrun
          exact .inl ⟨c, ofDocument_of_reads hrun⟩

theorem fieldsWritable_of_readDocument {fs : Files} {path : String} {document : Fields}
    (hformat : Format.ofExtension? (Text.lower (Path.extension path)) = some .json)
    (h : readDocument fs path = .ok document) : Value.fieldsWritable document = true := by
  unfold readDocument at h
  split at h
  · dsimp only at h
    rw [hformat] at h
    obtain ⟨v, hv, h⟩ := exists_of_bind h
    have hread : ∃ text, Json.read text = .ok v := by
      unfold Format.read Format.readJson at hv
      dsimp only at hv
      split at hv <;> cases hv
      exact ⟨_, ‹_›⟩
    obtain ⟨text, hread⟩ := hread
    split at h
    · next hfields =>
        cases h
        exact Value.fieldsWritable_of_fields? (Json.isWritable_of_read hread) hfields
    · cases h
  · cases h

/-- A file that holds a mapping is read as a configuration or its faults are reported, unless it holds a
value that is used without having been looked at. -/
theorem load_answers_iff {fs : Files} {path : String} {document : Fields} (env : Table String)
    (hformat : Format.ofExtension? (Text.lower (Path.extension path)) = some .json)
    (hdocument : readDocument fs path = .ok document) :
    ((∃ c, load fs (some path) env = .ok c) ∨
      ∃ e, load fs (some path) env = .error (.configuration e)) ↔ ¬ Unguarded document := by
  have hfilled : (some path).filter (fun p => !p.isEmpty) = some path := by
    refine Option.filter_eq_some_iff.2 ⟨rfl, ?_⟩
    cases hempty : path.isEmpty with
    | false => rfl
    | true =>
        obtain rfl : path = "" := String.isEmpty_iff.1 hempty
        exact absurd hformat (by decide)
  have hload : load fs (some path) env = ofDocument document env := by
    rw [load_eq, documentOf, hfilled]
    show readDocument fs path >>= _ = _
    rw [hdocument]
    rfl
  rw [hload, ofDocument_answers_iff, breaks_iff env (fieldsWritable_of_readDocument hformat hdocument)]

/-- A file in which an account is given, though not in full. -/
def halfAccount : Files :=
  ⟨[(["run.json"], .file ("\x7b\"applications\": \x7b\"baseline\": \x7b\"baseUrl\": \"http://a.test\", "
    ++ "\"credentials\": \x7b\"username\": \"ada\"\x7d\x7d\x7d\x7d"))]⟩

theorem load_answers_iff_halfAccount : ∃ document c, readDocument halfAccount "run.json" = .ok document ∧
    load halfAccount (some "run.json") [] = .ok c ∧ ¬ Unguarded document := by
  obtain ⟨document, hdocument⟩ := exists_of_isSome (x := readDocument halfAccount "run.json")
    (by decide +kernel)
  obtain ⟨c, hc⟩ := exists_of_isSome (x := load halfAccount (some "run.json") []) (by decide +kernel)
  exact ⟨document, c, hdocument, hc, (load_answers_iff [] (by decide) hdocument).1 (.inl ⟨c, hc⟩)⟩

/-- A file in which an account is a text. -/
def bareAccount : Files :=
  ⟨[(["run.json"], .file ("\x7b\"applications\": \x7b\"baseline\": \x7b\"baseUrl\": \"http://a.test\", "
    ++ "\"credentials\": \"abc\"\x7d\x7d\x7d"))]⟩

/-- The mapping can be read, but neither a configuration comes of it nor a report. -/
theorem load_breaks_bareAccount : (∃ document, readDocument bareAccount "run.json" = .ok document) ∧
    load bareAccount (some "run.json") [] = .error (.fault (.noMember "str" "get")) := by
  exact ⟨exists_of_isSome (by decide +kernel), eq_error_of_refusal? (by decide +kernel)⟩

end Config

end SiteTrial
