import SiteTrial.Scenario.Library
import SiteTrial.Run.Comparison
import SiteTrial.Proofs.Answers

/-!
# Notices never decide an answer

A computation that gives notices puts them behind those given before, and answers the same whatever
these are. Its outcome is then all that there is to it, and outcomes can be put together.

* `Told.IsSteady` : the computation has this property; it is kept by every way of putting computations
  together;
* `Told.outcome_bind` : the outcome of two computations one after another;
* `Told.answer` : the answer alone; `Told.answer_mapM` : the answers for the members of a list;
* `Scenario.IsReadFrom` : what the parts of a scenario are read from;
* `isSteady_libraryGet`, `name_of_libraryGet` : a library gives the scenario that it is asked for.
-/

namespace SiteTrial

namespace Told

variable {α β : Type}

/-- The answer without the notices. -/
def answer (t : Told β) : Except Failure β := t.outcome.1

/-- The notices stand behind those given before, and these do not count for the answer. -/
def IsSteady (t : Told β) : Prop :=
  ∀ before, t.run.run before = (t.outcome.1, before ++ t.outcome.2)

theorem isSteady_pure (b : β) : IsSteady (pure b) := by
  intro before
  exact congrArg (Prod.mk _) (List.append_nil before).symm

theorem isSteady_throw (f : Failure) : IsSteady (throw f : Told β) := by
  intro before
  exact congrArg (Prod.mk _) (List.append_nil before).symm

theorem isSteady_tell (n : Notice) : IsSteady (tell n) := fun _ => rfl

theorem isSteady_of (r : Except Failure β) : IsSteady (of r) := by
  cases r with
  | ok b => exact isSteady_pure b
  | error f => exact isSteady_throw f

theorem isSteady_ofFault (r : Except Fault β) : IsSteady (ofFault r) := isSteady_of _

theorem outcome_bind (t : Told α) {k : α → Told β} (hk : ∀ a, IsSteady (k a)) :
    (t >>= k).outcome = match t.outcome with
      | (.ok a, ns) => ((k a).outcome.1, ns ++ (k a).outcome.2)
      | (.error f, ns) => (.error f, ns) := by
  have h := run_bind t k []
  rcases ht : t.run.run [] with ⟨r, ns⟩
  rw [ht] at h
  have hout : t.outcome = (r, ns) := by
    unfold outcome
    rw [ht]
  have hboth : (t >>= k).outcome = (t >>= k).run.run [] := rfl
  rw [hout, hboth, h]
  cases r with
  | ok a => exact hk a ns
  | error f => rfl

theorem isSteady_bind {t : Told α} {k : α → Told β} (ht : IsSteady t) (hk : ∀ a, IsSteady (k a)) :
    IsSteady (t >>= k) := by
  intro before
  rw [run_bind, ht before, outcome_bind t hk]
  rcases t.outcome with ⟨r, ns⟩
  cases r with
  | ok a =>
      dsimp only
      rw [hk a (before ++ ns), List.append_assoc]
  | error f => rfl

theorem answer_bind (t : Told α) {k : α → Told β} (hk : ∀ a, IsSteady (k a)) :
    (t >>= k).answer = t.answer >>= fun a => (k a).answer := by
  rw [answer, answer, outcome_bind t hk]
  rcases t.outcome with ⟨r, ns⟩
  cases r <;> rfl

/-- What two computations one after another come to is what the second makes of the first. -/
theorem exists_of_answer_bind {t : Told α} {k : α → Told β} {b : β} (hk : ∀ a, IsSteady (k a))
    (h : (t >>= k).answer = .ok b) : ∃ a, t.answer = .ok a ∧ (k a).answer = .ok b := by
  rw [answer_bind t hk] at h
  exact exists_of_bind h

@[simp] theorem answer_pure (b : β) : (pure b : Told β).answer = .ok b := rfl

@[simp] theorem answer_throw (f : Failure) : (throw f : Told β).answer = .error f := rfl

@[simp] theorem answer_of (r : Except Failure β) : (of r).answer = r := by
  cases r <;> rfl

theorem isSteady_mapM {f : α → Told β} (hf : ∀ a, IsSteady (f a)) :
    ∀ l : List α, IsSteady (l.mapM f)
  | [] => by
      rw [List.mapM_nil]
      exact isSteady_pure []
  | a :: l => by
      rw [List.mapM_cons]
      exact isSteady_bind (hf a) fun _ => isSteady_bind (isSteady_mapM hf l) fun _ => isSteady_pure _

theorem isSteady_forIn {f : α → β → Told (ForInStep β)} (hf : ∀ a b, IsSteady (f a b)) :
    ∀ (l : List α) (b : β), IsSteady (forIn l b f)
  | [], b => by
      rw [List.forIn_nil]
      exact isSteady_pure b
  | a :: l, b => by
      rw [List.forIn_cons]
      refine isSteady_bind (hf a b) fun next => ?_
      cases next with
      | done b => exact isSteady_pure b
      | yield b => exact isSteady_forIn hf l b

/-- The answers for the members of a list are found one by one. -/
theorem answer_mapM {f : α → Told β} (hf : ∀ a, IsSteady (f a)) :
    ∀ l : List α, (l.mapM f).answer = l.mapM fun a => (f a).answer
  | [] => rfl
  | a :: l => by
      rw [List.mapM_cons, List.mapM_cons,
        answer_bind _ fun _ => isSteady_bind (isSteady_mapM hf l) fun _ => isSteady_pure _]
      congr 1
      funext b
      rw [answer_bind _ fun _ => isSteady_pure _, answer_mapM hf l]
      rfl

end Told

open Told

/-! ## Scenarios -/

theorem isSteady_stepsOf (name : String) (position : Nat) (vs : List Value) :
    IsSteady (Scenario.stepsOf name position vs) := by
  induction vs generalizing position with
  | nil => exact isSteady_pure []
  | cons v vs ih =>
      refine isSteady_bind (isSteady_of _) fun entry => ?_
      cases entry with
      | step s => exact isSteady_bind (ih _) fun _ => isSteady_pure _
      | unknownAction shown => exact isSteady_bind (isSteady_tell _) fun _ => ih _

/-- The answer to a script, entry by entry. -/
theorem answer_stepsOf_cons (name : String) (position : Nat) (v : Value) (vs : List Value) :
    (Scenario.stepsOf name position (v :: vs)).answer =
      ((Entry.ofValue v).mapError (Scenario.blame name position) >>= fun
        | .step s => (Scenario.stepsOf name (position + 1) vs).answer.map (s :: ·)
        | .unknownAction _ => (Scenario.stepsOf name (position + 1) vs).answer) := by
  have hrest := isSteady_stepsOf name (position + 1) vs
  rw [Scenario.stepsOf, answer_bind _ fun entry => by
    cases entry with
    | step s => exact isSteady_bind hrest fun _ => isSteady_pure _
    | unknownAction shown => exact isSteady_bind (isSteady_tell _) fun _ => hrest, answer_of]
  congr 1
  funext entry
  cases entry with
  | step s =>
      dsimp only
      rw [answer_bind _ fun _ => isSteady_pure _]
      cases (Scenario.stepsOf name (position + 1) vs).answer <;> rfl
  | unknownAction shown =>
      dsimp only
      rw [answer_bind _ fun _ => hrest]
      rfl

theorem isSteady_refuse {α : Type} (e : ConfigurationError) :
    IsSteady (Scenario.refuse e : Told α) := isSteady_throw _

/-- What a scenario says about signing in. -/
def loginOf (fs : Fields) (name : String) : Told (Option Bool) :=
  match fs.get "requiresLogin" with
  | .null => pure none
  | .bool b => pure (some b)
  | _ => Scenario.refuse (.badRequiresLogin name)

/-- The end of the reading of a scenario, behind its steps. -/
def completed (fs : Fields) (name : String) (steps : List Step) : Told Scenario :=
  match ((fs.get "expectedMetrics").orElse (.mapping [])).fields? with
  | none => Scenario.refuse (.expectedMetricsNotAMapping name)
  | some expected => do
    let requiresLogin ← loginOf fs name
    let description ← ofFault (fs.getD "description" (.text "")).toText?
    return { name := name, description := description, steps := steps
             expectedMetrics := expected, requiresLogin := requiresLogin }

/-- The parts of the reading of a scenario. -/
theorem ofFields_eq (fs : Fields) : Scenario.ofFields fs =
    match Scenario.nameOf? (fs.get "name") with
    | none => Scenario.refuse .scenarioWithoutName
    | some name =>
      match (fs.getD "steps" (.list [])).items? with
      | none => Scenario.refuse (.stepsNotAList name)
      | some entries => Scenario.stepsOf name 1 entries >>= completed fs name := by
  unfold Scenario.ofFields
  split
  · next name hname =>
      rw [hname]
      dsimp only
      split
      · next entries hentries =>
          rw [hentries]
          dsimp only
          congr 1
          funext steps
          unfold completed loginOf
          split
          · next expected hexpected =>
              rw [hexpected]
              dsimp only
              generalize fs.get "requiresLogin" = v
              cases v with
              | scalar s => cases s <;> rfl
              | _ => rfl
          · next hexpected => rw [Option.eq_none_iff_forall_ne_some.2 hexpected]
      · next hentries => rw [Option.eq_none_iff_forall_ne_some.2 hentries]
  · next hname => rw [Option.eq_none_iff_forall_ne_some.2 hname]

theorem isSteady_loginOf (fs : Fields) (name : String) : IsSteady (loginOf fs name) := by
  unfold loginOf
  split
  · exact isSteady_pure _
  · exact isSteady_pure _
  · exact isSteady_refuse _

theorem isSteady_completed (fs : Fields) (name : String) (steps : List Step) :
    IsSteady (completed fs name steps) := by
  unfold completed
  split
  · exact isSteady_refuse _
  · exact isSteady_bind (isSteady_loginOf fs name) fun _ =>
      isSteady_bind (isSteady_ofFault _) fun _ => isSteady_pure _

theorem isSteady_ofFields (fs : Fields) : IsSteady (Scenario.ofFields fs) := by
  rw [ofFields_eq]
  split
  · exact isSteady_refuse _
  · split
    · exact isSteady_refuse _
    · exact isSteady_bind (isSteady_stepsOf _ _ _) fun _ => isSteady_completed _ _ _

theorem isSteady_libraryGet (l : Library) (name : String) : IsSteady (l.get name) := by
  unfold Library.get
  split
  · exact isSteady_throw _
  · exact isSteady_ofFields _

/-- A scenario has the parts that the mapping states. -/
structure Scenario.IsReadFrom (fs : Fields) (s : Scenario) : Prop where
  name : Scenario.nameOf? (fs.get "name") = some s.name
  steps : ∃ vs, (fs.getD "steps" (.list [])).items? = some vs ∧
    (Scenario.stepsOf s.name 1 vs).answer = .ok s.steps
  expectedMetrics : ((fs.get "expectedMetrics").orElse (.mapping [])).fields? = some s.expectedMetrics

theorem eq_of_completed {fs : Fields} {name : String} {steps : List Step} {s : Scenario}
    (h : (completed fs name steps).answer = .ok s) : s.name = name ∧ s.steps = steps ∧
      ((fs.get "expectedMetrics").orElse (.mapping [])).fields? = some s.expectedMetrics := by
  unfold completed at h
  split at h
  · cases h
  · next expected hexpected =>
      obtain ⟨b, -, h⟩ := exists_of_answer_bind
        (fun _ => isSteady_bind (isSteady_ofFault _) fun _ => isSteady_pure _) h
      obtain ⟨d, -, h⟩ := exists_of_answer_bind (fun _ => isSteady_pure _) h
      cases h
      exact ⟨rfl, rfl, hexpected⟩

theorem isReadFrom_of_ofFields {fs : Fields} {s : Scenario} (h : (Scenario.ofFields fs).answer = .ok s) :
    s.IsReadFrom fs := by
  rw [ofFields_eq] at h
  split at h
  · cases h
  · next name hname =>
      split at h
      · cases h
      · next vs hvs =>
          obtain ⟨steps, hsteps, h⟩ := exists_of_answer_bind (fun _ => isSteady_completed _ _ _) h
          obtain ⟨rfl, rfl, hexpected⟩ := eq_of_completed h
          exact ⟨hname, ⟨vs, hvs, hsteps⟩, hexpected⟩

/-- A scenario bears the name that its entry states. -/
theorem name_of_ofFields {fs : Fields} {name : String} {s : Scenario}
    (hname : fs.get "name" = .text name) (h : (Scenario.ofFields fs).answer = .ok s) :
    s.name = name := by
  have hsame : Value.text name = .text s.name :=
    hname.symm.trans (Scenario.eq_text_of_nameOf? (isReadFrom_of_ofFields h).name)
  cases hsame
  rfl

theorem name_of_libraryGet {l : Library} {name : String} {s : Scenario}
    (h : (l.get name).answer = .ok s) : s.name = name := by
  unfold Library.get at h
  split at h
  · cases h
  · rename_i fs hfs
    obtain ⟨before, after, hentries, -⟩ := List.lookup_eq_some_iff.1 hfs
    have hmem : (name, fs) ∈ l.entries := hentries ▸ by simp
    exact name_of_ofFields (l.named _ hmem) h

end SiteTrial
