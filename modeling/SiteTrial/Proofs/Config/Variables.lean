import Mathlib.Logic.Function.Basic
import SiteTrial.Proofs.Config.Check

/-!
# The variables of each part of a configuration

Each part of the reading of a configuration looks at variables of its own. So a variable more changes
nothing in the parts that do not look at it, and in the part that does it is found.

* `EnvVariable` : the variables that there are; `AccountPart` : the parts of an account that have one;
* `Check.Agree` : two environments that say the same of some variables; `Check.agree_put` : with a variable
  more an environment says the same of the others;
* `Check.application_congr`, `Check.execution_congr`, `Check.stage_congr`, `Check.positiveSetting_congr` :
  the variables of each part;
* `Check.reads_stage_put`, `Check.reads_environment_put`, `Check.reads_execution_path`,
  `Check.reads_execution_headed` : what a part is read as with one of its variables.
-/

namespace SiteTrial

/-- The parts of an account that have a variable. -/
inductive AccountPart where
  | username
  | password
deriving DecidableEq

namespace AccountPart

def key : AccountPart → String
  | .username => "username"
  | .password => "password"

/-- What the names of the part's variables end with. -/
def settingEnd : AccountPart → String
  | .username => "_USERNAME"
  | .password => "_PASSWORD"

/-- One value for each part. -/
def pick {α : Type} (username password : α) : AccountPart → α
  | .username => username
  | .password => password

def get (account : Credentials) : AccountPart → String
  | .username => account.username
  | .password => account.password

def put (account : Credentials) (text : String) : AccountPart → Credentials
  | .username => { account with username := text }
  | .password => { account with password := text }

theorem forall_iff {p : AccountPart → Prop} : (∀ part, p part) ↔ p .username ∧ p .password :=
  ⟨fun h => ⟨h _, h _⟩, fun h part => by cases part <;> simp [h]⟩

theorem exists_iff {p : AccountPart → Prop} : (∃ part, p part) ↔ p .username ∨ p .password := by
  constructor
  · rintro ⟨_ | _, h⟩
    · exact .inl h
    · exact .inr h
  · exact fun h => h.elim (⟨_, ·⟩) (⟨_, ·⟩)

theorem get_put (account : Credentials) (text : String) (part other : AccountPart) :
    other.get (part.put account text) = if other = part then text else other.get account := by
  cases part <;> cases other <;> rfl

@[simp] theorem accountType_put (account : Credentials) (text : String) (part : AccountPart) :
    (part.put account text).accountType = account.accountType := by
  cases part <;> rfl

/-- Accounts are the same if their parts and their kinds are. -/
theorem eq_iff {a b : Credentials} : a = b ↔ (∀ part : AccountPart, part.get a = part.get b) ∧
    a.accountType = b.accountType := by
  obtain ⟨username, password, kind⟩ := a
  obtain ⟨username', password', kind'⟩ := b
  rw [forall_iff, Credentials.mk.injEq, and_assoc]
  rfl

end AccountPart

/-- The environment variables that a configuration is read with. -/
inductive EnvVariable where
  | stage
  | iterations
  | workers
  | address (side : Side)
  | account (side : Side) (part : AccountPart)
  | outputPath
  | headed
deriving DecidableEq

namespace EnvVariable

def name : EnvVariable → String
  | .stage => "TEST_ENVIRONMENT"
  | .iterations => "ITERATION_COUNT"
  | .workers => "WORKER_COUNT"
  | .address side => side.settingStem ++ "_BASE_URL"
  | .account side part => side.settingStem ++ part.settingEnd
  | .outputPath => "OUTPUT_PATH"
  | .headed => "HEADED"

theorem name_injective : Function.Injective name := by
  rintro (_ | _ | _ | (_ | _) | ⟨(_ | _), (_ | _)⟩ | _ | _) (_ | _ | _ | (_ | _) | ⟨(_ | _), (_ | _)⟩ | _ | _) <;> decide

/-- The variables of a side. -/
def ofSide (side : Side) : List EnvVariable :=
  [.address side, .account side .username, .account side .password]

end EnvVariable

namespace Check

variable {env env' : Table String}

theorem Reads.unique {α : Type} {x : Check α} {a b : α} (h : Reads x a) (h' : Reads x b) : a = b :=
  congrArg Prod.fst (Except.ok.inj (h.symm.trans h'))

/-! ## The variables of each part -/

/-- The environments say the same of some variables. -/
def Agree (env env' : Table String) (xs : List EnvVariable) : Prop :=
  ∀ x ∈ xs, env'.get? x.name = env.get? x.name

theorem agree_put {x : EnvVariable} {xs : List EnvVariable} (h : x ∉ xs) (env : Table String)
    (text : String) : Agree env (env.put x.name text) xs := by
  intro y hy
  rw [Table.get?_put, if_neg]
  intro hsame
  exact h (EnvVariable.name_injective hsame ▸ hy)

theorem Agree.setting?_eq {xs : List EnvVariable} (h : Agree env env' xs) {x : EnvVariable}
    (hx : x ∈ xs) : setting? env' x.name = setting? env x.name := by
  rw [setting?, h x hx]
  rfl

theorem setting?_put {name text : String} (h : text ≠ "") : setting? (env.put name text) name = some text := by
  rw [setting?, Table.get?_put, if_pos rfl]
  exact Option.filter_eq_some_iff.2 ⟨rfl, by simpa using h⟩

theorem settingOr_congr {x : EnvVariable} (h : Agree env env' [x]) (other : Except Fault Value) :
    settingOr env' x.name other = settingOr env x.name other := by
  rw [settingOr, h.setting?_eq (List.mem_singleton_self x)]
  rfl

theorem positiveSetting_congr {x : EnvVariable} (h : Agree env env' [x]) :
    positiveSetting env' x.name = positiveSetting env x.name := by
  rw [positiveSetting, h.setting?_eq (List.mem_singleton_self x)]
  rfl

theorem baseUrl_congr {side : Side} (h : Agree env env' [.address side]) (entry : Fields) :
    baseUrl env' side entry = baseUrl env side entry := by
  have hurl := settingOr_congr h
  rw [EnvVariable.name] at hurl
  rw [baseUrl_eq, baseUrl_eq, hurl]

theorem credentials_congr {side : Side}
    (h : Agree env env' [.account side .username, .account side .password]) (entry : Value) :
    credentials env' side entry = credentials env side entry := by
  obtain ⟨hname, hword⟩ := List.forall_mem_cons.1 h
  have husername := settingOr_congr (List.forall_mem_singleton.2 hname)
  have hpassword := settingOr_congr hword
  simp only [EnvVariable.name, AccountPart.settingEnd] at husername hpassword
  unfold credentials
  simp only [husername, hpassword]

theorem application_congr {side : Side} (h : Agree env env' (EnvVariable.ofSide side)) (document : Fields) :
    application document env' side = application document env side := by
  obtain ⟨hurl, haccount⟩ := List.forall_mem_cons.1 h
  unfold application
  simp only [baseUrl_congr (List.forall_mem_singleton.2 hurl), credentials_congr haccount]

theorem outputPath_congr (h : Agree env env' [.outputPath]) (entry : Fields) :
    outputPath entry env' = outputPath entry env := by
  have hpath := h.setting?_eq (List.mem_singleton_self _)
  rw [EnvVariable.name] at hpath
  rw [outputPath, hpath]
  rfl

theorem isHeaded_congr (h : Agree env env' [.headed]) : isHeaded env' = isHeaded env := by
  have hheaded := h _ (List.mem_singleton_self _)
  rw [EnvVariable.name] at hheaded
  rw [isHeaded, hheaded]
  rfl

theorem execution_congr (h : Agree env env' [.outputPath, .headed]) (document : Value) :
    execution document env' = execution document env := by
  obtain ⟨hpath, hheaded⟩ := List.forall_mem_cons.1 h
  simp only [execution_eq, outputPath_congr (List.forall_mem_singleton.2 hpath), isHeaded_congr hheaded]

theorem stage_congr (h : Agree env env' [.stage]) (document : Fields) :
    stage document env' = stage document env := by
  have hstage := h.setting?_eq (List.mem_singleton_self _)
  rw [EnvVariable.name] at hstage
  unfold stage
  rw [hstage]

/-! ## A part with one more variable -/

theorem reads_positiveSetting_put {name text : String} {n : Nat} (hn : 1 ≤ n)
    (htext : Decimal.readInt? text = some (n : Int)) :
    Reads (positiveSetting (env.put name text) name) (some n) := by
  have hfilled : text ≠ "" := by
    rintro rfl
    cases htext
  unfold positiveSetting
  rw [setting?_put hfilled]
  dsimp only
  rw [htext]
  dsimp only
  rw [if_pos (by omega)]
  exact reads_pure_iff.2 rfl

theorem reads_stage_put (s : Stage) (document : Fields) :
    Reads (stage document (env.put EnvVariable.stage.name s.key)) (some s) := by
  unfold stage
  rw [EnvVariable.name, setting?_put (by cases s <;> decide)]
  cases s <;> exact reads_pure_iff.2 rfl

theorem reads_environment_put {document : Fields} {iterations : Option Nat} {stage : Stage} {e : Environment}
    (n : Nat) (h : Reads (environment document iterations stage) (some e)) :
    Reads (environment document (some n) stage) (some { e with iterations := n }) := by
  unfold environment at h ⊢
  split at h
  · simp only [reads_bind_iff, reads_pure_iff] at h ⊢
    obtain ⟨instances, hinstances, own, hown, network, hnetwork, name, hname, hmade⟩ := h
    cases hmade
    exact ⟨instances, hinstances, own, hown, network, hnetwork, name, hname, rfl⟩
  · exact absurd h (not_reads_complain_pure _ _ _)

theorem reads_execution_path {document : Value} {e : Execution} {path : String} (hpath : path ≠ "")
    (h : Reads (execution document env) e) :
    Reads (execution document (env.put EnvVariable.outputPath.name path)) { e with outputPath := path } := by
  have hheaded : isHeaded (env.put EnvVariable.outputPath.name path) = isHeaded env :=
    isHeaded_congr (agree_put (by decide) env path)
  have hplace : ∀ entry, Reads (outputPath entry (env.put EnvVariable.outputPath.name path)) path := by
    intro entry
    rw [outputPath, EnvVariable.name, setting?_put hpath]
    exact reads_pure_iff.2 rfl
  simp only [execution_eq, reads_bind_iff, reads_pure_iff] at h ⊢
  obtain ⟨entry, hentry, scenarios, hscenarios, overrides, hoverrides, regression, hregression, delay, hdelay,
    _, -, thresholds, hthresholds, threshold, hthreshold, rfl⟩ := h
  exact ⟨entry, hentry, scenarios, hscenarios, overrides, hoverrides, regression, hregression, delay, hdelay,
    path, hplace entry, thresholds, hthresholds, threshold, hthreshold, by rw [hheaded]⟩

theorem reads_execution_headed {document : Value} {e : Execution} (h : Reads (execution document env) e) :
    Reads (execution document (env.put EnvVariable.headed.name "true")) { e with headless := false } := by
  have hheaded : isHeaded (env.put EnvVariable.headed.name "true") = true := by
    rw [isHeaded, EnvVariable.name, Table.get?_put, if_pos rfl]
    decide +kernel
  have hplace (entry : Fields) : outputPath entry (env.put EnvVariable.headed.name "true") = outputPath entry env :=
    outputPath_congr (agree_put (by decide) env "true") entry
  simp only [execution_eq, reads_bind_iff, reads_pure_iff, hplace] at h ⊢
  obtain ⟨entry, hentry, scenarios, hscenarios, overrides, hoverrides, regression, hregression, delay, hdelay,
    path, hpath, thresholds, hthresholds, threshold, hthreshold, rfl⟩ := h
  exact ⟨entry, hentry, scenarios, hscenarios, overrides, hoverrides, regression, hregression, delay, hdelay,
    path, hpath, thresholds, hthresholds, threshold, hthreshold, by rw [hheaded, Bool.not_true, Bool.and_false]⟩

end Check

end SiteTrial
