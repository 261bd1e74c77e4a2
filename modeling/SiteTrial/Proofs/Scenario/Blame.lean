import SiteTrial.Proofs.Scenario.Malformed
import SiteTrial.Proofs.Scenario.Typed

/-!
# Which entry of a script is blamed

The entries of a script are read from the first one on. Each of a known action gives one step, and of those
that are not as they should be the first one is blamed, under its place in the script.

* `Entry.IsProper` : an entry as it should be; `Entry.isSound_iff` : such an entry is read, unless it breaks
  the reading off;
* `Entry.Gives` : the step that an entry gives, field by field; `Scenario.gives_stepsOf` : the steps of a
  script are those of its entries of known actions, in their order;
* `Scenario.answer_stepsOf_refused` : the place that is blamed;
* `Scenario.ofFields_blames` : what comes of a scenario that has a name and no endless limits of time.
-/

namespace SiteTrial

namespace Comes

variable {α : Type} {x : Except Failure α} {sound breaks : Prop}

theorem answered_iff (h : Comes x sound breaks) : (∃ a, x = .ok a) ↔ sound := by
  cases h with
  | answer a hsound hbreaks => exact iff_of_true ⟨a, rfl⟩ hsound
  | report e hsound hbreaks => exact iff_of_false nofun hsound
  | fault f hsound hbreaks => exact iff_of_false nofun hsound

theorem reported_iff (h : Comes x sound breaks) :
    (∃ e, x = .error (.configuration e)) ↔ ¬ sound ∧ ¬ breaks := by
  cases h with
  | answer a hsound hbreaks => exact iff_of_false nofun fun h => h.1 hsound
  | report e hsound hbreaks => exact iff_of_true ⟨e, rfl⟩ ⟨hsound, hbreaks⟩
  | fault f hsound hbreaks => exact iff_of_false nofun fun h => h.2 hbreaks

theorem not_breaks (h : Comes x sound breaks) (hsound : sound) : ¬ breaks := by
  obtain ⟨a, ha⟩ := h.answered_iff.2 hsound
  exact h.contained_iff.1 (.inl ⟨a, ha⟩)

end Comes

/-! ## One entry -/

instance (v : Value) (s : String) : Decidable (v = .text s) :=
  decidable_of_iff (v.text? = some s) ⟨Value.eq_text_of_text?, fun h => h ▸ rfl⟩

namespace Entry

/-- The limit of time is absent or a number, and what the action needs is there. -/
structure IsComplete (fs : Fields) : Prop where
  limit : (fs.get "timeout").isNull = true ∨ (fs.get "timeout").isNumeric = true
  click : fs.get "action" = .text "click" → (fs.get "selector").isTruthy = true
  fill : fs.get "action" = .text "fill" →
    (fs.get "selector").isTruthy = true ∧ (fs.get "value").isNull = false
  custom : fs.get "action" = .text "custom" → (fs.get "customFunction").isTruthy = true

/-- An entry as it should be. -/
def IsProper (v : Value) : Prop := ∃ fs, v.fields? = some fs ∧ IsComplete fs

/-- The limit of time is a number without an integer. -/
def IsEndless (v : Value) : Prop := ∃ fs, v.fields? = some fs ∧ (fs.get "timeout").IsEndless

def knownActions : List String := ["navigate", "click", "fill", "wait", "custom"]

def isKnown (v : Value) : Bool :=
  v.fields?.any fun fs => (fs.get "action").text?.any fun action => knownActions.contains action

/-- A limit of time, its fraction cut off. -/
def IsLimit (v : Value) : Option Int → Prop
  | none => v = .null
  | some n => v.isNumeric = true ∧ v.toInteger = .ok n

/-- The step that a mapping gives. -/
inductive FieldsGive (fs : Fields) : Step → Prop
  | navigate {limit : Option Int} (haction : fs.get "action" = .text "navigate")
      (hlimit : IsLimit (fs.get "timeout") limit) :
      FieldsGive fs (.navigate ((fs.get "url").orElse (.text "")) limit)
  | click {limit : Option Int} (haction : fs.get "action" = .text "click")
      (hlimit : IsLimit (fs.get "timeout") limit) : FieldsGive fs (.click (fs.get "selector") limit)
  | fill {limit : Option Int} {text : String} (haction : fs.get "action" = .text "fill")
      (hlimit : IsLimit (fs.get "timeout") limit) (hvalue : (fs.get "value").toText? = .ok text) :
      FieldsGive fs (.fill (fs.get "selector") text limit)
  | wait {limit : Option Int} (haction : fs.get "action" = .text "wait")
      (hlimit : IsLimit (fs.get "timeout") limit) : FieldsGive fs (.wait (fs.get "selector") limit)
  | custom {limit : Option Int} (haction : fs.get "action" = .text "custom")
      (hlimit : IsLimit (fs.get "timeout") limit) :
      FieldsGive fs (.custom (fs.get "customFunction") limit)

/-- The step that an entry gives. -/
def Gives (v : Value) (st : Step) : Prop := ∃ fs, v.fields? = some fs ∧ FieldsGive fs st

/-- Apart from endless limits of time, an entry is read exactly if it is as it should be and does not break
the reading off. -/
theorem isSound_iff {v : Value} (hended : ¬ IsEndless v) : IsSound v ↔ IsProper v ∧ ¬ Breaks v := by
  constructor
  · intro hsound
    refine ⟨?_, (comes_ofValue v).not_breaks hsound⟩
    obtain ⟨fs, hfs, hlimit, hparts⟩ := hsound
    exact ⟨fs, hfs, hlimit.imp_right And.left, hparts.click, fun h => (hparts.fill h).2, hparts.custom⟩
  · rintro ⟨⟨fs, hfs, hcomplete⟩, hbreaks⟩
    have hlimit : HasLimit fs := hcomplete.limit.imp_right fun h => ⟨h, fun hend => hended ⟨fs, hfs, hend⟩⟩
    refine ⟨fs, hfs, hlimit, hcomplete.click, fun hfill => ⟨?_, hcomplete.fill hfill⟩, hcomplete.custom⟩
    by_contra hvalue
    exact hbreaks ⟨fs, hfs, .inr ⟨hlimit, hfill, Bool.eq_false_iff.2 hvalue⟩⟩

theorem isLimit_of_timeoutOf {action : Value} {fs : Fields} {limit : Option Int}
    (h : timeoutOf action fs = .ok limit) : IsLimit (fs.get "timeout") limit := by
  unfold timeoutOf at h
  split at h
  · next hnull =>
      cases h
      exact hnull
  · split at h
    · next hnumeric =>
        obtain ⟨n, hn, rfl⟩ := exists_of_map (eq_of_mapError h)
        exact ⟨hnumeric, hn⟩
    · obtain ⟨shown, -, h⟩ := exists_of_bind h
      cases h

theorem stepOf_eq_none_iff {fs : Fields} {limit : Option Int} {action : String} :
    stepOf fs limit action = none ↔ action ∉ knownActions := by
  unfold stepOf
  split
  · exact iff_of_false nofun (by decide)
  · exact iff_of_false nofun (by decide)
  · exact iff_of_false nofun (by decide)
  · exact iff_of_false nofun (by decide)
  · exact iff_of_false nofun (by decide)
  · next hnavigate hclick hfill hwait hcustom =>
      refine iff_of_true rfl ?_
      simp only [knownActions, List.mem_cons, List.not_mem_nil, or_false, not_or]
      exact ⟨hnavigate, hclick, hfill, hwait, hcustom⟩

theorem fieldsGive_of_stepOf {fs : Fields} {limit : Option Int} {action : String} {st : Step}
    (haction : fs.get "action" = .text action) (hlimit : IsLimit (fs.get "timeout") limit)
    (h : stepOf fs limit action = some (.ok st)) : FieldsGive fs st := by
  unfold stepOf at h
  split at h
  · cases h
    exact .navigate haction hlimit
  · dsimp only at h
    split at h <;> cases h
    exact .click haction hlimit
  · obtain ⟨text, htext, h⟩ := exists_of_bind (Option.some.inj h)
    split at h <;> cases h
    exact .fill haction hlimit (eq_of_mapError htext)
  · cases h
    exact .wait haction hlimit
  · dsimp only at h
    split at h <;> cases h
    exact .custom haction hlimit
  · cases h

/-- An entry of a known action gives its step, and no other entry gives one. -/
theorem gives_of_ofValue {v : Value} {e : Entry} (h : ofValue v = .ok e) :
    (∃ st, e = .step st ∧ isKnown v = true ∧ Gives v st) ∨
      ((∃ shown, e = .unknownAction shown) ∧ isKnown v = false) := by
  unfold ofValue at h
  split at h
  · next fs hfs =>
      obtain ⟨limit, hlimit, h⟩ := exists_of_bind h
      have hlimit := isLimit_of_timeoutOf hlimit
      unfold isKnown
      rw [hfs, Option.any_some]
      split at h
      · next parsed hparsed =>
          obtain ⟨action, haction, hstep⟩ := Option.bind_eq_some_iff.1 hparsed
          obtain ⟨st, rfl, rfl⟩ := exists_of_map h
          have hknown : action ∈ knownActions := by
            by_contra hunknown
            rw [stepOf_eq_none_iff.2 hunknown] at hstep
            cases hstep
          refine .inl ⟨st, rfl, ?_, fs, hfs,
            fieldsGive_of_stepOf (Value.eq_text_of_text? haction) hlimit hstep⟩
          rw [haction, Option.any_some]
          exact List.contains_iff_mem.2 hknown
      · next hnone =>
          cases h
          refine .inr ⟨⟨_, rfl⟩, ?_⟩
          cases haction : (fs.get "action").text? with
          | none => rfl
          | some action =>
              rw [haction, Option.bind_some, stepOf_eq_none_iff, ← List.contains_iff_mem] at hnone
              exact Bool.eq_false_iff.2 hnone
  · cases h

/-! ## What is reported -/

/-- Whatever is reported is reported of a step. -/
def ReportsSteps {α : Type} (x : Except Failure α) : Prop :=
  ∀ e, x = .error (.configuration e) → ∃ s, e = .step s

theorem reportsSteps_ok {α : Type} (a : α) : ReportsSteps (.ok a) := nofun

theorem reportsSteps_refuse {α : Type} (s : StepError) : ReportsSteps (refuse s : Except Failure α) := by
  intro e h
  cases h
  exact ⟨s, rfl⟩

theorem reportsSteps_ofFault {α : Type} (x : Except Fault α) : ReportsSteps (x.mapError .fault) := by
  intro e h
  cases x <;> cases h

theorem ReportsSteps.bind {α β : Type} {x : Except Failure α} {k : α → Except Failure β}
    (h : ReportsSteps x) (hk : ∀ a, ReportsSteps (k a)) : ReportsSteps (x >>= k) := by
  cases x with
  | error f =>
      intro e he
      cases he
      exact h e rfl
  | ok a => exact hk a

theorem reportsSteps_timeoutOf (action : Value) (fs : Fields) : ReportsSteps (timeoutOf action fs) := by
  unfold timeoutOf
  split
  · exact reportsSteps_ok _
  · split
    · exact reportsSteps_ofFault _
    · exact (reportsSteps_ofFault _).bind fun _ => reportsSteps_refuse _

theorem reportsSteps_of_stepOf {fs : Fields} {limit : Option Int} {action : String}
    {parsed : Except Failure Step} (h : stepOf fs limit action = some parsed) : ReportsSteps parsed := by
  unfold stepOf at h
  split at h <;> cases h
  · exact reportsSteps_ok _
  · split
    · exact reportsSteps_ok _
    · exact reportsSteps_refuse _
  · refine (reportsSteps_ofFault _).bind fun _ => ?_
    split
    · exact reportsSteps_ok _
    · exact reportsSteps_refuse _
  · exact reportsSteps_ok _
  · split
    · exact reportsSteps_ok _
    · exact reportsSteps_refuse _

theorem reportsSteps_ofValue (v : Value) : ReportsSteps (ofValue v) := by
  unfold ofValue
  split
  · refine (reportsSteps_timeoutOf _ _).bind fun limit => ?_
    split
    · next parsed hparsed =>
        obtain ⟨action, -, hstep⟩ := Option.bind_eq_some_iff.1 hparsed
        have hmap : parsed.map Entry.step = parsed >>= fun st => .ok (.step st) := by cases parsed <;> rfl
        rw [hmap]
        exact (reportsSteps_of_stepOf hstep).bind fun _ => reportsSteps_ok _
    · exact reportsSteps_ok _
  · exact reportsSteps_refuse _

end Entry

/-! ## A script -/

namespace Scenario

open Told

/-- The steps of a script are those of its entries of known actions, in their order. -/
theorem gives_stepsOf {name : String} {position : Nat} {vs : List Value} {steps : List Step}
    (h : (stepsOf name position vs).answer = .ok steps) :
    List.Forall₂ Entry.Gives (vs.filter Entry.isKnown) steps := by
  induction vs generalizing position steps with
  | nil =>
      cases h
      exact .nil
  | cons v vs ih =>
      rw [answer_stepsOf_cons] at h
      obtain ⟨entry, hentry, h⟩ := exists_of_bind h
      rcases Entry.gives_of_ofValue (eq_of_mapError hentry) with
        ⟨st, rfl, hknown, hgives⟩ | ⟨⟨shown, rfl⟩, hunknown⟩
      · obtain ⟨rest, hrest, rfl⟩ := exists_of_map h
        rw [List.filter_cons_of_pos hknown]
        exact .cons hgives (ih hrest)
      · rw [List.filter_cons_of_neg (by rw [hunknown]; exact Bool.false_ne_true)]
        exact ih h

/-- The first entry that is refused is blamed, under its place. -/
theorem answer_stepsOf_refused {name : String} {position : Nat} {before after : List Value} {v : Value}
    {e : StepError} (hbefore : ∀ w ∈ before, Entry.IsSound w)
    (hv : Entry.ofValue v = .error (.configuration (.step e))) :
    (stepsOf name position (before ++ v :: after)).answer =
      .error (.configuration (.badStep name (position + before.length) e)) := by
  induction before generalizing position with
  | nil =>
      rw [List.nil_append, answer_stepsOf_cons, hv]
      rfl
  | cons w before ih =>
      obtain ⟨hw, hbefore⟩ := List.forall_mem_cons.1 hbefore
      obtain ⟨entry, hentry⟩ := (Entry.comes_ofValue w).answered_iff.2 hw
      have hplace : position + 1 + before.length = position + (w :: before).length := by
        rw [List.length_cons]
        omega
      have hrest : (stepsOf name (position + 1) (before ++ v :: after)).answer =
          .error (.configuration (.badStep name (position + (w :: before).length) e)) :=
        hplace ▸ ih hbefore
      rw [List.cons_append, answer_stepsOf_cons, hentry]
      cases entry with
      | step s =>
          show Except.map (s :: ·) (stepsOf name (position + 1) (before ++ v :: after)).answer = _
          rw [hrest]
          rfl
      | unknownAction shown => exact hrest

/-- Where each entry is read or breaks the reading off, the first one that does breaks it off. -/
theorem scriptBreaks_of_exists {before after : List Value} {v : Value}
    (hbefore : ∀ w ∈ before, Entry.IsSound w ∨ Entry.Breaks w)
    (h : ∃ w ∈ before ++ [v], Entry.Breaks w) : ScriptBreaks (before ++ v :: after) := by
  induction before with
  | nil =>
      obtain ⟨w, hw, hbreaks⟩ := h
      obtain rfl := List.mem_singleton.1 hw
      exact scriptBreaks_cons.2 (.inl hbreaks)
  | cons u before ih =>
      obtain ⟨hu, hbefore⟩ := List.forall_mem_cons.1 hbefore
      refine scriptBreaks_cons.2 (hu.symm.imp_right fun hsound => ⟨hsound, ih hbefore ?_⟩)
      obtain ⟨w, hw, hbreaks⟩ := h
      rcases List.mem_cons.1 hw with rfl | hw
      · exact absurd hbreaks ((Entry.comes_ofValue w).not_breaks hsound)
      · exact ⟨w, hw, hbreaks⟩

/-! ## A scenario -/

/-- The script of a scenario, which is empty where nothing is said. -/
def script? (fs : Fields) : Option (List Value) := (fs.getD "steps" (.list [])).items?

/-- A scenario as it should be, apart from its name. -/
def IsProper (fs : Fields) : Prop :=
  (∃ vs, script? fs = some vs ∧ ∀ v ∈ vs, Entry.IsProper v) ∧ HasTerms fs

/-- Whatever is to be shown of a scenario can be written. -/
def IsWritten (fs : Fields) : Prop :=
  (∀ vs, script? fs = some vs → ∀ v ∈ vs, ¬ Entry.Breaks v) ∧ isDescribed fs = true

theorem answer_ofFields_refused {fs : Fields} {name : String} {vs : List Value} {f : Failure}
    (hname : fs.get "name" = .text name) (hne : name ≠ "") (hvs : script? fs = some vs)
    (h : (stepsOf name 1 vs).answer = .error f) : (ofFields fs).answer = .error f := by
  have hnamed : nameOf? (fs.get "name") = some name := Library.nameOf?_eq_some_iff.2 ⟨hname, hne⟩
  rw [script?] at hvs
  rw [ofFields_eq, hnamed]
  dsimp only
  rw [hvs]
  dsimp only
  rw [answer_bind _ fun _ => isSteady_completed _ _ _, h]
  rfl

/-- A scenario with a name and no endless limits of time is read exactly if it is as it should be, and what is
shown of it can be written. Its steps are then those of the entries of known actions, in their order; and the
first entry that is not as it should be is blamed under its place in the script, unless one up to it breaks
the reading off. -/
theorem ofFields_blames {fs : Fields} {name : String} (hname : fs.get "name" = .text name)
    (hne : name ≠ "") (hended : ∀ vs, script? fs = some vs → ∀ v ∈ vs, ¬ Entry.IsEndless v) :
    ((∃ s, (ofFields fs).answer = .ok s) ↔ IsProper fs ∧ IsWritten fs) ∧
    (∀ s vs, (ofFields fs).answer = .ok s → script? fs = some vs →
      List.Forall₂ Entry.Gives (vs.filter Entry.isKnown) s.steps) ∧
    (∀ before v after, script? fs = some (before ++ v :: after) → (∀ w ∈ before, Entry.IsProper w) →
      ¬ Entry.IsProper v →
        ((∃ e, (ofFields fs).answer = .error (.configuration (.badStep name (before.length + 1) e))) ↔
          ∀ w ∈ before ++ [v], ¬ Entry.Breaks w)) := by
  have hscript : ∀ vs, HasScript fs vs ↔ script? fs = some vs :=
    fun vs => and_iff_right ⟨name, hname, hne⟩
  refine ⟨?_, ?_, ?_⟩
  · rw [(comes_ofFields fs).answered_iff]
    constructor
    · rintro ⟨vs, hvs, hsound, hterms, hdescribed⟩
      have hvs := (hscript vs).1 hvs
      have hentries : ∀ v ∈ vs, Entry.IsProper v ∧ ¬ Entry.Breaks v :=
        fun v hv => (Entry.isSound_iff (hended vs hvs v hv)).1 (hsound v hv)
      refine ⟨⟨⟨vs, hvs, fun v hv => (hentries v hv).1⟩, hterms⟩, fun vs' hvs' v hv => ?_, hdescribed⟩
      cases hvs.symm.trans hvs'
      exact (hentries v hv).2
    · rintro ⟨⟨⟨vs, hvs, hproper⟩, hterms⟩, hwritten, hdescribed⟩
      refine ⟨vs, (hscript vs).2 hvs, fun v hv => ?_, hterms, hdescribed⟩
      exact (Entry.isSound_iff (hended vs hvs v hv)).2 ⟨hproper v hv, hwritten vs hvs v hv⟩
  · intro s vs hread hvs
    obtain ⟨_, vs', hvs', hsteps⟩ := exists_script hread
    cases hvs.symm.trans hvs'
    exact gives_stepsOf hsteps
  · intro before v after hvs hbefore hv
    have hended : ∀ w ∈ before ++ v :: after, ¬ Entry.IsEndless w := hended _ hvs
    have hsound : ∀ w ∈ before, Entry.IsSound w ↔ ¬ Entry.Breaks w := fun w hw =>
      (Entry.isSound_iff (hended w (List.mem_append_left _ hw))).trans (and_iff_right (hbefore w hw))
    constructor
    · rintro ⟨e, he⟩ w hw hbreaks
      have hscriptBreaks : ScriptBreaks (before ++ v :: after) :=
        scriptBreaks_of_exists (fun u hu => by rw [hsound u hu]; exact (em _).symm) ⟨w, hw, hbreaks⟩
      obtain ⟨f, hf⟩ := (comes_ofFields fs).isFault_iff.2 ⟨_, (hscript _).2 hvs, .inl hscriptBreaks⟩
      rw [hf] at he
      cases he
    · intro hunbroken
      have hunsound : ¬ Entry.IsSound v := fun h =>
        hv ((Entry.isSound_iff (hended v (by simp))).1 h).1
      obtain ⟨e, he⟩ := (Entry.comes_ofValue v).reported_iff.2 ⟨hunsound, hunbroken v (by simp)⟩
      obtain ⟨e, rfl⟩ := Entry.reportsSteps_ofValue v e he
      refine ⟨e, answer_ofFields_refused hname hne hvs ?_⟩
      rw [answer_stepsOf_refused (fun w hw => (hsound w hw).2 (hunbroken w (List.mem_append_left _ hw))) he,
        Nat.add_comm]

/-- A scenario that hovers, which nobody knows, opens a page, and clicks. -/
def hovering (selector : Value) : Fields := [(.text "name", .text "x"), (.text "steps", .list [
  .record [("action", .text "hover")], .record [("action", .text "navigate"), ("url", .text "/start")],
  .record [("action", .text "click"), ("selector", selector)]])]

theorem ended_hovering {selector : Value} :
    ∀ vs, script? (hovering selector) = some vs → ∀ v ∈ vs, ¬ Entry.IsEndless v := by
  rintro vs hvs
  cases hvs
  simp only [List.forall_mem_cons]
  refine ⟨?_, ?_, ?_, nofun⟩ <;> rintro ⟨fs, hfs, x, hx, -⟩ <;> cases hfs <;> cases hx

theorem ofFields_blames_hovering :
    (∃ s, (ofFields (hovering (.text "#go"))).answer = .ok s ∧ s.steps.length = 2) ∧
      ∃ e, (ofFields (hovering .null)).answer = .error (.configuration (.badStep "x" 3 e)) := by
  constructor
  · obtain ⟨s, hs⟩ := exists_of_isSome (x := (ofFields (hovering (.text "#go"))).answer) (by decide +kernel)
    obtain ⟨-, hsteps, -⟩ := ofFields_blames rfl (by decide) (@ended_hovering (.text "#go"))
    exact ⟨s, hs, (hsteps s _ hs rfl).length_eq.symm⟩
  · obtain ⟨-, -, hblames⟩ := ofFields_blames rfl (by decide) (@ended_hovering .null)
    refine (hblames [_, _] _ [] rfl ?_ ?_).2 ?_
    · simp only [List.forall_mem_cons]
      exact ⟨⟨_, rfl, .inl rfl, by decide, by decide, by decide⟩,
        ⟨_, rfl, .inl rfl, by decide, by decide, by decide⟩, nofun⟩
    · rintro ⟨fs, hfs, hcomplete⟩
      cases hfs
      exact absurd (hcomplete.click (by decide)) (by decide)
    · intro w hw hbreaks
      obtain ⟨f, hf⟩ := (Entry.comes_ofValue w).isFault_iff.2 hbreaks
      simp only [List.cons_append, List.nil_append, List.mem_cons, List.not_mem_nil, or_false] at hw
      rcases hw with rfl | rfl | rfl <;> cases hf

/-- A fill step with an integer of 4301 digits. -/
def longValue : Fields := [(.text "name", .text "x"), (.text "steps", .list [.record
  [("action", .text "fill"), ("selector", .text "#code"), ("value", .int (Int.ofNat (Nat.pow 10 4300)))]])]

/-- The scenario is as it should be, and neither a scenario nor a report comes of it. -/
theorem longValue_breaks : IsProper longValue ∧
    (ofFields longValue).answer = .error (.fault .integerTooLong) := by
  refine ⟨⟨⟨_, rfl, List.forall_mem_singleton.2 ⟨_, rfl, .inl rfl, by decide, fun _ => ⟨rfl, rfl⟩, by decide⟩⟩,
    rfl, .inl rfl⟩, eq_error_of_refusal? (by decide +kernel)⟩

end Scenario

end SiteTrial
