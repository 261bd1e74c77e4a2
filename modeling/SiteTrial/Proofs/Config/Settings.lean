import SiteTrial.Proofs.Config.Account

/-!
# What one more variable changes

A configuration is what its parts are read as. One more variable leaves every part as it was but the one that
looks at it, and that part is read as before but for the one place that the variable sets.

* `Config.Parts`, `Config.ofDocument_eq_ok_iff` : a configuration is what its parts are read as;
* `Config.Setting` : a variable that can be set, with a text that it can be set to;
  `Config.Setting.apply` is what it changes;
* `Config.Parts.put` : all parts with one more variable;
* `Config.load_put_iff` : the configuration with one more variable, wherever there was one without it.
-/

namespace SiteTrial

namespace Check

theorem reads_distinctNames_iff {a b : Application} :
    Reads (distinctNames (some a) (some b)) () ↔ a.name ≠ b.name := by
  refine ⟨names_ne_of_reads_distinctNames, fun h => ?_⟩
  rw [distinctNames, if_neg h]
  exact reads_pure_iff.2 rfl

end Check

/-! ## All parts together -/

namespace Config

open Check

/-- What the parts of a configuration are read as. -/
structure Parts (document : Fields) (env : Table String) (c : Config) : Prop where
  applications : (document.getD "applications" (.mapping [])).fields?.isSome = true
  sides : ∀ side, Reads (Check.application (document.within "applications") env side) (some (c.application side))
  names : c.baseline.name ≠ c.candidate.name
  environments : (document.getD "environments" (.mapping [])).fields?.isSome = true
  stages : ∃ iterations, Reads (positiveSetting env EnvVariable.iterations.name) iterations ∧
    ∀ stage, Reads (Check.environment (document.within "environments") iterations stage)
      (some (c.environment stage))
  execution : Reads (Check.execution (document.getD "execution" (.mapping [])) env) c.execution
  stage : Reads (Check.stage document env) (some c.stage)
  workers : Reads (positiveSetting env EnvVariable.workers.name) c.workers

theorem reads_config_iff {document : Fields} {env : Table String} {c : Config} :
    Reads (Check.config document env) (some c) ↔ Parts document env c := by
  simp only [Check.config, reads_bind_iff, reads_pure_iff, reads_mappingOr_iff]
  constructor
  · rintro ⟨applications, happlications, baseline, hbaseline, candidate, hcandidate, environments,
      henvironments, iterations, hiterations, pre, hpre, pro, hpro, execution, hexecution, stage, hstage,
      workers, hworkers, _, hnames, hmade⟩
    obtain ⟨a, rfl, -⟩ := exists_of_reads_application hbaseline
    obtain ⟨b, rfl, -⟩ := exists_of_reads_application hcandidate
    obtain ⟨s, rfl, -⟩ := exists_of_reads_stage hstage
    cases pre with
    | none => cases hmade
    | some e =>
        cases pro with
        | none => cases hmade
        | some e' =>
            cases hmade
            rw [← within_of_fields?_eq_some happlications] at hbaseline hcandidate
            rw [← within_of_fields?_eq_some henvironments] at hpre hpro
            exact
              { applications := Option.isSome_iff_exists.2 ⟨_, happlications⟩
                sides := fun | .baseline => hbaseline | .candidate => hcandidate
                names := reads_distinctNames_iff.1 hnames
                environments := Option.isSome_iff_exists.2 ⟨_, henvironments⟩
                stages := ⟨iterations, hiterations, fun | .pre => hpre | .pro => hpro⟩
                execution := hexecution
                stage := hstage
                workers := hworkers }
  · intro h
    obtain ⟨applications, happlications⟩ := Option.isSome_iff_exists.1 h.applications
    obtain ⟨environments, henvironments⟩ := Option.isSome_iff_exists.1 h.environments
    obtain ⟨iterations, hiterations, hstages⟩ := h.stages
    have hsides := h.sides
    rw [within_of_fields?_eq_some happlications] at hsides
    rw [within_of_fields?_eq_some henvironments] at hstages
    exact ⟨applications, happlications, _, hsides .baseline, _, hsides .candidate, environments, henvironments,
      iterations, hiterations, _, hstages .pre, _, hstages .pro, _, h.execution, _, h.stage, _, h.workers, (),
      reads_distinctNames_iff.2 h.names, rfl⟩

/-- A configuration comes of a document exactly if it is what the parts of the document are read as. -/
theorem ofDocument_eq_ok_iff {document : Fields} {env : Table String} {c : Config} :
    ofDocument document env = .ok c ↔ Parts document env c := by
  rw [← reads_config_iff]
  refine ⟨fun h => ?_, ofDocument_of_reads⟩
  cases hrun : (Check.config document env).run [] with
  | error f =>
      rw [ofDocument_of_error hrun] at h
      cases h
  | ok r =>
      obtain ⟨made, faults⟩ := r
      cases faults with
      | cons f fs =>
          rw [ofDocument_of_cons hrun] at h
          cases h
      | nil =>
          obtain ⟨d, rfl, -⟩ := isRunnable_of_reads hrun
          rw [ofDocument_of_reads hrun] at h
          cases h
          exact hrun

/-! ## One more variable -/

/-- A text that is not empty. -/
abbrev Filled := { text : String // text ≠ "" }

/-- A text that is read as a positive integer. -/
structure Count where
  text : String
  value : Nat
  pos : 1 ≤ value
  reads : Decimal.readInt? text = some (value : Int)

/-- A variable with a text that it can be set to. -/
inductive Setting where
  | stage (s : Stage)
  | iterations (n : Count)
  | workers (n : Count)
  | address (side : Side) (url : Filled)
  | account (side : Side) (part : AccountPart) (text : Filled)
  | outputPath (path : Filled)
  | headed

def withApplication (c : Config) (a : Application) : Side → Config
  | .baseline => { c with baseline := a }
  | .candidate => { c with candidate := a }

theorem application_withApplication (c : Config) (a : Application) (side other : Side) :
    (c.withApplication a side).application other = if other = side then a else c.application other := by
  cases side <;> cases other <;> rfl

namespace Setting

def target : Setting → EnvVariable
  | .stage _ => .stage
  | .iterations _ => .iterations
  | .workers _ => .workers
  | .address side _ => .address side
  | .account side part _ => .account side part
  | .outputPath _ => .outputPath
  | .headed => .headed

def text : Setting → String
  | .stage s => s.key
  | .iterations n | .workers n => n.text
  | .address _ text | .account _ _ text | .outputPath text => text
  | .headed => "true"

/-- What the document says of the account of a side. -/
def entryOf (document : Fields) (side : Side) : Value := accountEntry (document.within "applications") side

/-- The configuration with what the variable says in its place. Where there was no account, its other parts
are empty, and its kind is the one that the document states. -/
def apply (document : Fields) (c : Config) : Setting → Config
  | .stage s => { c with stage := s }
  | .iterations n =>
    { c with pre := { c.pre with iterations := n.value }, pro := { c.pro with iterations := n.value } }
  | .workers n => { c with workers := some n.value }
  | .address side url => c.withApplication { c.application side with baseUrl := url } side
  | .account side part text =>
    c.withApplication { c.application side with
      credentials := some (part.put (accountOr (entryOf document side) (c.application side).credentials) text) }
      side
  | .outputPath path => { c with execution := { c.execution with outputPath := path } }
  | .headed => { c with execution := { c.execution with headless := false } }

/-- An account that the variable brings about is of a kind that can be written. -/
def IsReadable (document : Fields) (c : Config) : Setting → Prop
  | .account side _ _ =>
    (c.application side).credentials = none → (kindOf (entryOf document side)).isWritable = true
  | _ => True

end Setting

namespace Parts

variable {document : Fields} {env : Table String} {c c' : Config}

theorem unique (h : Parts document env c) (h' : Parts document env c') : c = c' :=
  Except.ok.inj ((ofDocument_eq_ok_iff.2 h).symm.trans (ofDocument_eq_ok_iff.2 h'))

/-! Each part with one more variable, its own ones first. -/

theorem sides_put (h : Parts document env c) (v : Setting) (hv : v.IsReadable document c) (side : Side) :
    Reads (Check.application (document.within "applications") (env.put v.target.name v.text) side)
      (some ((v.apply document c).application side)) := by
  have hother (hside : v.target ∉ EnvVariable.ofSide side) :
      Reads (Check.application (document.within "applications") (env.put v.target.name v.text) side)
        (some (c.application side)) := by
    rw [application_congr (agree_put hside env v.text)]
    exact h.sides side
  cases v with
  | address other url =>
      rw [Setting.apply, application_withApplication]
      split
      · next hside =>
          rw [hside]
          exact reads_application_address url.2 (h.sides other)
      · next hside => exact hother (by simp [Setting.target, EnvVariable.ofSide, Ne.symm hside])
  | account other part text =>
      rw [Setting.apply, application_withApplication]
      split
      · next hside =>
          rw [hside]
          exact (reads_application_account_iff text.2 (h.sides other)).2 ⟨hv, rfl⟩
      · next hside => exact hother (by simp [Setting.target, EnvVariable.ofSide, Ne.symm hside])
  | _ => cases side <;> exact hother (by simp [Setting.target, EnvVariable.ofSide])

theorem names_put (h : Parts document env c) (v : Setting) :
    (v.apply document c).baseline.name ≠ (v.apply document c).candidate.name := by
  cases v with
  | address side | account side => cases side <;> exact h.names
  | _ => exact h.names

theorem stages_put (h : Parts document env c) (v : Setting) :
    ∃ iterations, Reads (positiveSetting (env.put v.target.name v.text) EnvVariable.iterations.name) iterations ∧
      ∀ stage, Reads (Check.environment (document.within "environments") iterations stage)
        (some ((v.apply document c).environment stage)) := by
  have hother (hv : v.target ≠ .iterations) : ∃ iterations,
      Reads (positiveSetting (env.put v.target.name v.text) EnvVariable.iterations.name) iterations ∧
        ∀ stage, Reads (Check.environment (document.within "environments") iterations stage)
          (some (c.environment stage)) := by
    rw [positiveSetting_congr (agree_put (by simpa using hv) env v.text)]
    exact h.stages
  cases v with
  | iterations n =>
      obtain ⟨iterations, -, hstages⟩ := h.stages
      exact ⟨some n.value, reads_positiveSetting_put n.pos n.reads, fun
        | .pre => reads_environment_put n.value (hstages .pre)
        | .pro => reads_environment_put n.value (hstages .pro)⟩
  | address side | account side => cases side <;> exact hother (by simp [Setting.target])
  | _ => exact hother (by simp [Setting.target])

theorem execution_put (h : Parts document env c) (v : Setting) :
    Reads (Check.execution (document.getD "execution" (.mapping [])) (env.put v.target.name v.text))
      (v.apply document c).execution := by
  have hother (hv : v.target ∉ [EnvVariable.outputPath, .headed]) :
      Reads (Check.execution (document.getD "execution" (.mapping [])) (env.put v.target.name v.text))
        c.execution := by
    rw [execution_congr (agree_put hv env v.text)]
    exact h.execution
  cases v with
  | outputPath path => exact reads_execution_path path.2 h.execution
  | headed => exact reads_execution_headed h.execution
  | address side | account side => cases side <;> exact hother (by simp [Setting.target])
  | _ => exact hother (by simp [Setting.target])

theorem stage_put (h : Parts document env c) (v : Setting) :
    Reads (Check.stage document (env.put v.target.name v.text)) (some (v.apply document c).stage) := by
  have hother (hv : v.target ≠ .stage) :
      Reads (Check.stage document (env.put v.target.name v.text)) (some c.stage) := by
    rw [stage_congr (agree_put (by simpa using hv) env v.text)]
    exact h.stage
  cases v with
  | stage s => exact reads_stage_put s document
  | address side | account side => cases side <;> exact hother (by simp [Setting.target])
  | _ => exact hother (by simp [Setting.target])

theorem workers_put (h : Parts document env c) (v : Setting) :
    Reads (positiveSetting (env.put v.target.name v.text) EnvVariable.workers.name)
      (v.apply document c).workers := by
  have hother (hv : v.target ≠ .workers) :
      Reads (positiveSetting (env.put v.target.name v.text) EnvVariable.workers.name) c.workers := by
    rw [positiveSetting_congr (agree_put (by simpa using hv) env v.text)]
    exact h.workers
  cases v with
  | workers n => exact reads_positiveSetting_put n.pos n.reads
  | address side | account side => cases side <;> exact hother (by simp [Setting.target])
  | _ => exact hother (by simp [Setting.target])

theorem put (h : Parts document env c) (v : Setting) (hv : v.IsReadable document c) :
    Parts document (env.put v.target.name v.text) (v.apply document c) where
  applications := h.applications
  sides := h.sides_put v hv
  names := h.names_put v
  environments := h.environments
  stages := h.stages_put v
  execution := h.execution_put v
  stage := h.stage_put v
  workers := h.workers_put v

end Parts

/-- Where a file is read as a configuration, it is so with one more variable too, and the configuration is the
same but for what the variable sets; unless an account comes about of a kind that cannot be written. -/
theorem load_put_iff {fs : Files} {path : Option String} {env : Table String} {document : Fields}
    {c : Config} (hdocument : documentOf fs path = .ok document) (hload : load fs path env = .ok c)
    (v : Setting) (c' : Config) :
    load fs path (env.put v.target.name v.text) = .ok c' ↔ v.IsReadable document c ∧ c' = v.apply document c := by
  have hmade : ∀ env, load fs path env = ofDocument document env := by
    intro env
    rw [load_eq, hdocument]
    rfl
  rw [hmade] at hload
  rw [hmade, ofDocument_eq_ok_iff]
  have hparts := ofDocument_eq_ok_iff.1 hload
  constructor
  · intro h
    have hreadable : v.IsReadable document c := by
      cases v with
      | account side part text =>
          exact ((reads_application_account_iff text.2 (hparts.sides side)).1 (h.sides side)).1
      | _ => trivial
    exact ⟨hreadable, h.unique (hparts.put v hreadable)⟩
  · rintro ⟨hreadable, rfl⟩
    exact hparts.put v hreadable

/-- A password for an account of which the file states the name. -/
def password : Setting := .account .baseline .password ⟨"x", by decide⟩

theorem load_put_iff_halfAccount : ∃ document c, documentOf halfAccount (some "run.json") = .ok document ∧
    load halfAccount (some "run.json") [] = .ok c ∧
      load halfAccount (some "run.json") [("BASELINE_PASSWORD", "x")] = .ok (password.apply document c) := by
  have hany : (load halfAccount (some "run.json") []).toOption.any (fun c => c.baseline.credentials.isSome) = true := by
    decide +kernel
  obtain ⟨c, hc, hnamed⟩ := (Option.any_eq_true _ _).1 hany
  obtain ⟨made, hload⟩ := exists_of_isSome (Option.isSome_of_eq_some hc)
  rw [hload] at hc
  cases hc
  obtain ⟨document, hdocument, -⟩ := exists_of_bind ((load_eq ..).symm.trans hload)
  refine ⟨document, c, hdocument, hload, (load_put_iff hdocument hload password _).2 ⟨fun hnone => ?_, rfl⟩⟩
  rw [show c.baseline.credentials = none from hnone] at hnamed
  cases hnamed

/-- A document that states no account, but for its kind an integer of 4301 digits. -/
def longKind : Fields := [(.text "applications", .record [("baseline", .record [
  ("baseUrl", .text "http://a.test"),
  ("credentials", .record [("accountType", .int (Int.ofNat (Nat.pow 10 4300)))])])])]

/-- A configuration comes of the document, and with a name for its account neither one nor a report. -/
theorem longKind_breaks : (∃ c, ofDocument longKind [] = .ok c) ∧
    ofDocument longKind [("BASELINE_USERNAME", "ada")] = .error (.fault .integerTooLong) :=
  ⟨exists_of_isSome (by decide +kernel), eq_error_of_refusal? (by decide +kernel)⟩

end Config

end SiteTrial
