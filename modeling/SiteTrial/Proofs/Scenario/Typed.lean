import SiteTrial.Proofs.Run.Script
import SiteTrial.Proofs.Told
import SiteTrial.Proofs.Value.Kind
import SiteTrial.Run.Visit

/-!
# Which scenarios are of the right types

Of an address, a selector and the name of a function it is looked at whether they are there, and not what they
are. So a scenario that is read has steps of the right types exactly if its script has them already; then no
page brings its steps to fail at the type of a field, and otherwise an address or a name of a function that is
no text fails on every page.

* `Entry.IsTyped` : the fields of an entry are of their types, as far as its action looks at them;
* `Fault.isMistyped` : the faults of a field that is of another type than it should be;
* `Step.IsUnfit` : a step that cannot be carried out;
* `Scenario.ofFields_typed_iff` : the scenarios that are read, step by step.
-/

namespace SiteTrial

open Told
open Browse (Ends)

/-! ## Entries and their steps -/

namespace Entry

/-- The fields that an action looks at are texts, or absent where they may be. -/
def FieldsTyped (fs : Fields) : Prop :=
  match (fs.get "action").text? with
  | some "navigate" => (fs.get "url").isTruthy = true → ∃ s, fs.get "url" = .text s
  | some "click" | some "fill" => ∃ s, fs.get "selector" = .text s
  | some "wait" => fs.get "selector" = .null ∨ ∃ s, fs.get "selector" = .text s
  | some "custom" => ∃ s, fs.get "customFunction" = .text s
  | _ => True

def IsTyped (v : Value) : Prop := ∀ fs, v.fields? = some fs → FieldsTyped fs

theorem exists_of_ofValue {v : Value} {e : Entry} (h : ofValue v = .ok e) : ∃ fs timeout,
    v.fields? = some fs ∧ ((∃ action st, (fs.get "action").text? = some action ∧
      stepOf fs timeout action = some (.ok st) ∧ e = .step st) ∨
      ((fs.get "action").text?.bind (stepOf fs timeout) = none ∧ ∃ shown, e = .unknownAction shown)) := by
  unfold ofValue at h
  split at h
  · next fs hfs =>
      obtain ⟨timeout, -, h⟩ := exists_of_bind h
      refine ⟨fs, timeout, hfs, ?_⟩
      split at h
      · next parsed hparsed =>
          obtain ⟨action, haction, hstep⟩ := Option.bind_eq_some_iff.1 hparsed
          obtain ⟨st, rfl, rfl⟩ := exists_of_map h
          exact .inl ⟨action, st, haction, hstep, rfl⟩
      · next hnone =>
          cases h
          exact .inr ⟨hnone, _, rfl⟩
  · cases h

theorem exists_text_iff_of_truthy {v : Value} (h : v.isTruthy = true) :
    (∃ s, v = .text s ∧ s ≠ "") ↔ ∃ s, v = .text s := by
  constructor
  · rintro ⟨s, hs, -⟩
    exact ⟨s, hs⟩
  · rintro ⟨s, rfl⟩
    refine ⟨s, rfl, ?_⟩
    rintro rfl
    cases h

/-- The step of a known action is of the right types exactly if the fields that it was made of are. -/
theorem isTyped_iff_of_stepOf {fs : Fields} {timeout : Option Int} {action : String} {st : Step}
    (haction : (fs.get "action").text? = some action) (h : stepOf fs timeout action = some (.ok st)) :
    st.IsTyped ↔ FieldsTyped fs := by
  unfold FieldsTyped
  rw [haction]
  unfold stepOf at h
  split at h
  · cases h
    unfold Value.orElse
    split
    · next htruthy => exact ⟨fun h _ => h, fun h => h htruthy⟩
    · next hfalsy => exact iff_of_true ⟨"", rfl⟩ fun htruthy => absurd htruthy hfalsy
  · dsimp only at h
    split at h
    · next htruthy =>
        cases h
        exact exists_text_iff_of_truthy htruthy
    · cases h
  · obtain ⟨text, -, h⟩ := exists_of_bind (Option.some.inj h)
    split at h
    · next hgiven =>
        cases h
        exact exists_text_iff_of_truthy (Bool.and_eq_true_iff.1 hgiven).1
    · cases h
  · cases h
    exact Iff.rfl
  · dsimp only at h
    split at h
    · next htruthy =>
        cases h
        exact exists_text_iff_of_truthy htruthy
    · cases h
  · cases h

theorem isTyped_iff_of_step {v : Value} {st : Step} (h : ofValue v = .ok (.step st)) :
    st.IsTyped ↔ IsTyped v := by
  obtain ⟨fs, timeout, hfs, ⟨action, st', haction, hstep, he⟩ | ⟨-, shown, he⟩⟩ := exists_of_ofValue h
  · cases he
    rw [isTyped_iff_of_stepOf haction hstep]
    refine ⟨fun h fs' hfs' => ?_, fun h => h fs hfs⟩
    rw [hfs] at hfs'
    cases hfs'
    exact h
  · cases he

theorem isTyped_of_unknown {v : Value} {shown : String} (h : ofValue v = .ok (.unknownAction shown)) :
    IsTyped v := by
  obtain ⟨fs, timeout, hfs, ⟨action, st', -, -, he⟩ | ⟨hnone, -⟩⟩ := exists_of_ofValue h
  · cases he
  · intro fs' hfs'
    rw [hfs] at hfs'
    cases hfs'
    unfold FieldsTyped
    cases haction : (fs.get "action").text? with
    | none => trivial
    | some action =>
        rw [haction, Option.bind_some] at hnone
        split <;> first | trivial | (next hsame => cases hsame; cases hnone)

end Entry

namespace Scenario

/-- The steps of a script are of the right types exactly if its entries are. -/
theorem steps_typed_iff {name : String} {position : Nat} {vs : List Value} {steps : List Step}
    (h : (stepsOf name position vs).answer = .ok steps) :
    (∀ st ∈ steps, st.IsTyped) ↔ ∀ v ∈ vs, Entry.IsTyped v := by
  induction vs generalizing position steps with
  | nil =>
      cases h
      exact ⟨nofun, nofun⟩
  | cons v vs ih =>
      rw [answer_stepsOf_cons] at h
      obtain ⟨entry, hentry, h⟩ := exists_of_bind h
      have hvalue := eq_of_mapError hentry
      cases entry with
      | step st =>
          obtain ⟨rest, hrest, rfl⟩ := exists_of_map h
          rw [List.forall_mem_cons, List.forall_mem_cons, ih hrest, Entry.isTyped_iff_of_step hvalue]
      | unknownAction shown =>
          rw [List.forall_mem_cons, ih h]
          exact (and_iff_right (Entry.isTyped_of_unknown hvalue)).symm

theorem exists_script {fs : Fields} {s : Scenario} (h : (ofFields fs).answer = .ok s) : ∃ name vs,
    (fs.getD "steps" (.list [])).items? = some vs ∧ (stepsOf name 1 vs).answer = .ok s.steps :=
  ⟨s.name, (isReadFrom_of_ofFields h).steps⟩

end Scenario

/-! ## Carrying steps out -/

/-- A field of a step is handled as if it were a text, and is none. -/
def Fault.isMistyped : Fault → Bool
  | .noMember .. | .startOfBytes | .patternInBytes => true
  | _ => false

/-- A failure that is not about the type of a field. -/
def Failure.IsDecent (f : Failure) : Prop := ∀ g, f = .fault g → g.isMistyped = false

/-- The page may answer anything and fail in any way, but does not break as if a field were mistyped. -/
def Reply.IsDecent (r : Reply) : Prop := ∀ f, r = .broke f → f.isMistyped = false

namespace Value

theorem isMistyped_of_exceeds {v : Value} {n : Int} {f : Fault} (h : v.exceeds n = .error f) :
    f.isMistyped = false := by
  unfold exceeds at h
  split at h <;> cases h
  rfl

theorem isMistyped_of_integerOf {r : Decimal.Binary.Rounding} {x : Float} {f : Fault}
    (h : integerOf r x = .error f) : f.isMistyped = false := by
  unfold integerOf at h
  split at h <;> cases h <;> rfl

theorem isMistyped_of_toInteger {v : Value} {f : Fault} (h : v.toInteger = .error f) :
    f.isMistyped = false := by
  unfold toInteger at h
  split at h
  · cases h
  · cases h
  · exact isMistyped_of_integerOf h
  · split at h <;> cases h
    rfl
  · split at h <;> cases h
    rfl
  · cases h
    rfl

theorem isMistyped_of_numeric? {v : Value} {f : Fault} (h : v.numeric? = .error f) :
    f.isMistyped = false := by
  unfold numeric? at h
  split at h
  · cases h
  · next n =>
      unfold doubleOfInt at h
      dsimp only at h
      split at h <;> cases h
      rfl
  · cases h
  · cases h

theorem isMistyped_of_toDouble {v : Value} {f : Fault} (h : v.toDouble = .error f) :
    f.isMistyped = false := by
  unfold toDouble at h
  split at h
  · split at h <;> cases h
    rfl
  · split at h <;> cases h
    rfl
  · cases hnumeric : v.numeric? with
    | error g =>
        rw [hnumeric] at h
        cases h
        exact isMistyped_of_numeric? hnumeric
    | ok x =>
        rw [hnumeric] at h
        cases x with
        | none =>
            cases h
            rfl
        | some x => cases h

end Value

theorem actionTerms_decent : Page.ActionTerms (fun _ r => r.IsDecent) Failure.IsDecent where
  automation e g h := by cases h
  broke c f h g hg := by
    cases hg
    exact h f rfl
  count s v _ f hf g hg := by
    cases hg
    exact hf.elim Value.isMistyped_of_exceeds Value.isMistyped_of_toInteger
  height v _ _ n f hf g hg := by
    cases hg
    exact Value.isMistyped_of_exceeds hf
  time url v _ _ f hf g hg := by
    cases hg
    exact Value.isMistyped_of_toDouble hf

/-- A step that cannot be carried out: its address or the name of its function is no text. -/
def Step.IsUnfit : Step → Prop
  | .navigate url _ => ∀ s, url ≠ .text s
  | .custom function _ => ∀ s, function ≠ .text s
  | _ => False

section

variable {σ : Type} [Page σ] {application : Application} {data : TestData} {scenario : String} {v : Visit σ}

/-- An unfit step fails on every page, before it asks it for anything. -/
theorem Step.exists_fault_of_isUnfit {st : Step} (h : st.IsUnfit) : ∃ f, f.isMistyped = true ∧
    (st.perform application data scenario).run.run v = (.error (.fault f), v) := by
  cases st with
  | navigate url timeout =>
      have hfault : ∃ f, f.isMistyped = true ∧ resolveValue application.baseUrl url = .error f := by
        unfold resolveValue
        split
        · next s => exact absurd rfl (h s)
        · exact ⟨_, rfl, rfl⟩
        · exact ⟨_, rfl, rfl⟩
      obtain ⟨f, hf, hresolve⟩ := hfault
      refine ⟨f, hf, ?_⟩
      show (navigateTo application url timeout).run.run v = _
      unfold navigateTo
      rw [hresolve]
      rfl
  | custom function timeout =>
      show ∃ f : Fault, f.isMistyped = true ∧ (call application scenario function).run.run v = _
      unfold call
      split
      · next s => exact absurd rfl (h s)
      · exact ⟨_, rfl, rfl⟩
      · exact ⟨_, rfl, rfl⟩
  | click | fill | wait => exact h.elim

/-- Steps of the right types do not fail at the type of a field. -/
theorem isMistyped_of_performSteps {s : Scenario} (htyped : ∀ st ∈ s.steps, st.IsTyped)
    (hpage : Page.Replies (fun _ r => r.IsDecent) v.page) {f : Fault}
    (h : ((performSteps application data s).run.run v).1 = .error (.fault f)) : f.isMistyped = false := by
  have hends : Ends (fun _ r => r.IsDecent) Failure.IsDecent
      (performSteps application data s : Browse σ Unit) fun _ => True :=
    Ends.forM fun st hst => Step.ends_perform actionTerms_decent application data s.name (htyped st hst)
  obtain ⟨-, -, hfailure⟩ := hends v _ _ hpage rfl
  exact hfailure _ h f rfl

end

namespace Scenario

/-- A scenario that is read has steps of the right types exactly if the entries of its script are. If they
are, carrying them out fails at the type of a field on no page, and a step whose address or function is no
text fails so on every page. -/
theorem ofFields_typed_iff {fs : Fields} {s : Scenario} (hread : (ofFields fs).answer = .ok s) :
    ((∀ st ∈ s.steps, st.IsTyped) ↔ ∃ vs, (fs.getD "steps" (.list [])).items? = some vs ∧
      ∀ v ∈ vs, Entry.IsTyped v) ∧
    ((∀ st ∈ s.steps, st.IsTyped) → ∀ {σ : Type} [Page σ] (application : Application) (data : TestData)
      (v : Visit σ), Page.Replies (fun _ r => r.IsDecent) v.page → ∀ f,
        ((performSteps application data s).run.run v).1 = .error (.fault f) → f.isMistyped = false) ∧
    (∀ st ∈ s.steps, st.IsUnfit → ∀ {σ : Type} [Page σ] (application : Application) (data : TestData)
      (v : Visit σ), ∃ f, f.isMistyped = true ∧
        (st.perform application data s.name).run.run v = (.error (.fault f), v)) := by
  refine ⟨?_, ?_, ?_⟩
  · obtain ⟨name, vs, hvs, hsteps⟩ := exists_script hread
    rw [steps_typed_iff hsteps, hvs]
    simp
  · intro htyped σ _ application data v hpage f hf
    exact isMistyped_of_performSteps htyped hpage hf
  · intro st _ hunfit σ _ application data v
    exact Step.exists_fault_of_isUnfit hunfit

/-- A scenario that opens a page and clicks. -/
def clicking : Fields := [(.text "name", .text "x"), (.text "steps", .list [
  .record [("action", .text "navigate"), ("url", .text "/start")],
  .record [("action", .text "click"), ("selector", .text "#go"), ("timeout", .double 2.5)]])]

def portal : Application := { name := "Portal", baseUrl := "http://portal.test" }

/-- A page that has what is asked for, but is not found. -/
def lost : FixedPage where
  reply
    | .goto .. => .refused "no such host"
    | _ => .answer .null

theorem ofFields_typed_iff_clicking : ∃ s, (ofFields clicking).answer = .ok s ∧
    (∀ st ∈ s.steps, st.IsTyped) ∧ ∀ f,
      ((performSteps portal {} s).run.run lost.visit).1 = .error (.fault f) → f.isMistyped = false := by
  obtain ⟨s, hs⟩ := exists_of_isSome (x := (ofFields clicking).answer) (by decide +kernel)
  obtain ⟨htyped, hfails, -⟩ := ofFields_typed_iff hs
  have hsteps : ∀ st ∈ s.steps, st.IsTyped := by
    refine htyped.2 ⟨_, rfl, ?_⟩
    simp only [List.forall_mem_cons]
    refine ⟨?_, ?_, nofun⟩
    · rintro fs hfs
      cases hfs
      exact fun _ => ⟨_, rfl⟩
    · rintro fs hfs
      cases hfs
      exact ⟨_, rfl⟩
  refine ⟨s, hs, hsteps, hfails hsteps portal {} lost.visit (FixedPage.replies fun c f hbroke => ?_)⟩
  cases c <;> cases hbroke

/-- A scenario with a number for an address. -/
def numberedAddress : Fields := [(.text "name", .text "x"), (.text "steps", .list [
  .record [("action", .text "navigate"), ("url", .int 5)]])]

/-- The scenario is read, but its address is no text, and no page is asked for it. -/
theorem numberedAddress_read_untyped : ∃ s, (ofFields numberedAddress).answer = .ok s ∧
    s.steps = [.navigate (.int 5) none] ∧ (¬ ∀ st ∈ s.steps, st.IsTyped) ∧
      ((performSteps portal {} s).run.run lost.visit).1 = .error (.fault (.noMember "int" "startswith")) := by
  refine ⟨{ name := "x", steps := [.navigate (.int 5) none] }, rfl, rfl, fun h => ?_, rfl⟩
  obtain ⟨s, hs⟩ := h _ (List.mem_singleton.2 rfl)
  cases hs

end Scenario

end SiteTrial
