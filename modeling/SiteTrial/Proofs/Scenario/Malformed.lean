import SiteTrial.CommandLine.Outcome
import SiteTrial.Proofs.Run.Accounts
import SiteTrial.Proofs.Scenario.Library
import SiteTrial.Proofs.Value.Kind
import SiteTrial.Proofs.Value.Range
import SiteTrial.Proofs.Value.Writable

/-!
# Which scenarios break their reading off

A scenario is read, or it is refused with a report, or its reading breaks off at a value that nobody has
looked at. The three are told apart for one entry of a script, then for a script, then for a scenario; what
breaks its reading off breaks the workers that ask for it and the list of scenarios, and nothing else does.

* `Comes` : what comes of a reading, as two conditions; `Comes.bind` : of two readings one after another;
* `Entry.IsSound`, `Entry.Breaks` : an entry that is read, and one that breaks the reading off;
* `Scenario.IsSound`, `Scenario.Breaks`, `Library.BreaksAt` : the same for a scenario;
* `Library.get_breaks_iff` : these are all there are, with what they do to a run and to the list.
-/

namespace SiteTrial

/-- What comes of a reading: an answer if a first condition holds, a fault if a second one does, and
otherwise a report. -/
inductive Comes {α : Type} : Except Failure α → Prop → Prop → Prop
  | answer (a : α) {sound breaks : Prop} (hsound : sound) (hbreaks : ¬ breaks) : Comes (.ok a) sound breaks
  | report (e : ConfigurationError) {sound breaks : Prop} (hsound : ¬ sound) (hbreaks : ¬ breaks) :
      Comes (.error (.configuration e)) sound breaks
  | fault (f : Fault) {sound breaks : Prop} (hsound : ¬ sound) (hbreaks : breaks) :
      Comes (.error (.fault f)) sound breaks

namespace Comes

variable {α β : Type} {x : Except Failure α} {sound breaks sound' breaks' : Prop}

theorem congr (h : Comes x sound breaks) (hsound : sound ↔ sound') (hbreaks : breaks ↔ breaks') :
    Comes x sound' breaks' := by
  rw [← propext hsound, ← propext hbreaks]
  exact h

theorem bind {k : α → Except Failure β} (h : Comes x sound breaks)
    (hk : ∀ a, x = .ok a → Comes (k a) sound' breaks') :
    Comes (x >>= k) (sound ∧ sound') (breaks ∨ sound ∧ breaks') := by
  cases h with
  | answer a hsound hbreaks =>
      refine (hk a rfl).congr ?_ ?_
      · exact (and_iff_right hsound).symm
      · exact ((or_iff_right hbreaks).trans (and_iff_right hsound)).symm
  | report e hsound hbreaks =>
      exact .report e (fun h => hsound h.1) fun h => h.elim hbreaks fun h => hsound h.1
  | fault f hsound hbreaks => exact .fault f (fun h => hsound h.1) (.inl hbreaks)

theorem map {f : α → β} (h : Comes x sound breaks) : Comes (x.map f) sound breaks := by
  cases h with
  | answer a hsound hbreaks => exact .answer (f a) hsound hbreaks
  | report e hsound hbreaks => exact .report e hsound hbreaks
  | fault g hsound hbreaks => exact .fault g hsound hbreaks

theorem isFault_iff (h : Comes x sound breaks) : (∃ f, x = .error (.fault f)) ↔ breaks := by
  cases h with
  | answer a hsound hbreaks => exact iff_of_false nofun hbreaks
  | report e hsound hbreaks => exact iff_of_false nofun hbreaks
  | fault f hsound hbreaks => exact iff_of_true ⟨f, rfl⟩ hbreaks

/-- What is neither an answer nor a report is a fault. -/
theorem contained_iff (h : Comes x sound breaks) :
    ((∃ a, x = .ok a) ∨ ∃ e, x = .error (.configuration e)) ↔ ¬ breaks := by
  cases h with
  | answer a hsound hbreaks => exact iff_of_true (.inl ⟨a, rfl⟩) hbreaks
  | report e hsound hbreaks => exact iff_of_true (.inr ⟨e, rfl⟩) hbreaks
  | fault f hsound hbreaks => exact iff_of_false (by rintro (⟨a, h⟩ | ⟨e, h⟩) <;> cases h) (not_not.2 hbreaks)

/-- A fault is the only failure that a run does not survive. -/
theorem isOwn_iff (h : Comes x sound breaks) {f : Failure} (hf : x = .error f) :
    f.isOwn = true ↔ ¬ breaks := by
  cases h with
  | answer a hsound hbreaks => cases hf
  | report e hsound hbreaks =>
      cases hf
      exact iff_of_true rfl hbreaks
  | fault g hsound hbreaks =>
      cases hf
      exact iff_of_false Bool.false_ne_true (not_not.2 hbreaks)

end Comes

namespace Value

theorem not_isEndless_of_null {v : Value} (h : v = .null) : ¬ v.IsEndless := by
  rintro ⟨x, hx, -⟩
  rw [h] at hx
  cases hx

theorem comes_toText? (v : Value) :
    Comes (v.toText?.mapError .fault) (v.isWritable = true) (v.isWritable = false) := by
  unfold toText?
  split
  · next h => exact .answer _ h (by rw [h]; decide)
  · next h => exact .fault _ h (Bool.eq_false_iff.2 h)

theorem comes_toInteger {v : Value} (h : v.isNumeric = true) :
    Comes (v.toInteger.mapError .fault) (¬ v.IsEndless) v.IsEndless := by
  rw [← toInteger_eq_error_iff h]
  cases v.toInteger with
  | ok n => exact .answer n nofun nofun
  | error f => exact .fault f (not_not.2 ⟨f, rfl⟩) ⟨f, rfl⟩

end Value

/-! ## Entries of a script -/

namespace Entry

section

variable (fs : Fields)

/-- There is no limit of time, or it is a number that has an integer. -/
def HasLimit : Prop :=
  (fs.get "timeout").isNull = true ∨ ((fs.get "timeout").isNumeric = true ∧ ¬ (fs.get "timeout").IsEndless)

/-- The limit of time has no integer, or it is no number and the action in its report cannot be written. -/
def LimitBreaks : Prop :=
  (fs.get "timeout").IsEndless ∨ ((fs.get "timeout").isNull = false ∧
    (fs.get "timeout").isNumeric = false ∧ (fs.get "action").isWritable = false)

/-- What the action needs is there, and a value to be filled in can be written. -/
structure HasParts : Prop where
  click : fs.get "action" = .text "click" → (fs.get "selector").isTruthy = true
  fill : fs.get "action" = .text "fill" → (fs.get "value").isWritable = true ∧
    (fs.get "selector").isTruthy = true ∧ (fs.get "value").isNull = false
  custom : fs.get "action" = .text "custom" → (fs.get "customFunction").isTruthy = true

/-- The value to be filled in cannot be written. -/
def ValueBreaks : Prop := fs.get "action" = .text "fill" ∧ (fs.get "value").isWritable = false

end

/-- An entry that is a step, or an action nobody knows. -/
def IsSound (v : Value) : Prop := ∃ fs, v.fields? = some fs ∧ HasLimit fs ∧ HasParts fs

/-- An entry that is neither, and is not reported. -/
def Breaks (v : Value) : Prop :=
  ∃ fs, v.fields? = some fs ∧ (LimitBreaks fs ∨ HasLimit fs ∧ ValueBreaks fs)

variable {fs : Fields}

theorem comes_refuse {α : Type} {e : StepError} {sound breaks : Prop} (hsound : ¬ sound)
    (hbreaks : ¬ breaks) : Comes (refuse e : Except Failure α) sound breaks := .report _ hsound hbreaks

theorem comes_timeoutOf : Comes (timeoutOf (fs.get "action") fs) (HasLimit fs) (LimitBreaks fs) := by
  unfold timeoutOf HasLimit LimitBreaks
  split
  · next hnull =>
      rw [hnull]
      refine .answer none (.inl rfl) ?_
      rintro (h | ⟨h, -⟩)
      · exact Value.not_isEndless_of_null rfl h
      · cases h
  · next v hgiven =>
      have hnull : (fs.get "timeout").isNull = false := Value.isNull_of_ne hgiven
      rw [hnull]
      by_cases hnumeric : (fs.get "timeout").isNumeric = true
      · rw [if_pos hnumeric, hnumeric]
        have h := (Value.comes_toInteger hnumeric).map (f := some)
        rw [show ((fs.get "timeout").toInteger.mapError Failure.fault).map some =
          ((fs.get "timeout").toInteger.map some).mapError Failure.fault by
            cases (fs.get "timeout").toInteger <;> rfl] at h
        exact h.congr (by simp) (by simp)
      · rw [if_neg hnumeric]
        rw [Bool.not_eq_true] at hnumeric
        have hended : ¬ (fs.get "timeout").IsEndless := by
          rintro ⟨x, hx, -⟩
          rw [hx] at hnumeric
          cases hnumeric
        have hreport : ∀ shown, Comes (refuse (.badTimeout shown) : Except Failure (Option Int)) False False :=
          fun _ => comes_refuse not_false not_false
        exact ((Value.comes_toText? (fs.get "action")).bind fun shown _ => hreport shown).congr
          (by simp [hnumeric]) (by simp [hnumeric, hended])

theorem comes_fillStep {timeout : Option Int} : Comes (fillStep fs timeout)
    ((fs.get "value").isWritable = true ∧ (fs.get "selector").isTruthy = true ∧ (fs.get "value").isNull = false)
    ((fs.get "value").isWritable = false) := by
  unfold fillStep
  have hparts : ∀ text, Comes (if (fs.get "selector").isTruthy && !(fs.get "value").isNull then
      pure (.fill (fs.get "selector") text timeout) else refuse .fillIncomplete : Except Failure Step)
      ((fs.get "selector").isTruthy = true ∧ (fs.get "value").isNull = false) False := by
    intro text
    split
    · next h => exact .answer _ (by simpa using h) not_false
    · next h => exact comes_refuse (by simpa using h) not_false
  exact ((Value.comes_toText? (fs.get "value")).bind fun text _ => hparts text).congr Iff.rfl (by simp)

theorem hasParts_iff {action : String} (haction : fs.get "action" = .text action) : HasParts fs ↔
    (action = "click" → (fs.get "selector").isTruthy = true) ∧
    (action = "fill" → (fs.get "value").isWritable = true ∧
      (fs.get "selector").isTruthy = true ∧ (fs.get "value").isNull = false) ∧
    (action = "custom" → (fs.get "customFunction").isTruthy = true) := by
  have hsame : ∀ known, fs.get "action" = .text known ↔ action = known := by
    intro known
    rw [haction]
    simp
  constructor
  · rintro ⟨hclick, hfill, hcustom⟩
    exact ⟨fun h => hclick ((hsame _).2 h), fun h => hfill ((hsame _).2 h), fun h => hcustom ((hsame _).2 h)⟩
  · rintro ⟨hclick, hfill, hcustom⟩
    exact ⟨fun h => hclick ((hsame _).1 h), fun h => hfill ((hsame _).1 h), fun h => hcustom ((hsame _).1 h)⟩

theorem valueBreaks_iff {action : String} (haction : fs.get "action" = .text action) :
    ValueBreaks fs ↔ action = "fill" ∧ (fs.get "value").isWritable = false := by
  unfold ValueBreaks
  rw [haction]
  simp

/-- What an action that is a text comes to, behind the limit of time. -/
theorem comes_stepOf {timeout : Option Int} {action shown : String}
    (haction : fs.get "action" = .text action) :
    Comes (match stepOf fs timeout action with
      | some parsed => parsed.map Entry.step
      | none => pure (.unknownAction shown)) (HasParts fs) (ValueBreaks fs) := by
  refine Comes.congr ?_ (hasParts_iff haction).symm (valueBreaks_iff haction).symm
  cases hparsed : stepOf fs timeout action with
  | none =>
      unfold stepOf at hparsed
      split at hparsed <;> try cases hparsed
      next hnavigate hclick hfill hwait hcustom =>
        exact .answer _ ⟨fun h => (hclick h).elim, fun h => (hfill h).elim, fun h => (hcustom h).elim⟩
          fun h => hfill h.1
  | some parsed =>
      refine Comes.map ?_
      unfold stepOf at hparsed
      split at hparsed <;> cases hparsed
      · exact .answer _ (by simp) (by simp)
      · split
        · next h => exact .answer _ (by simpa using h) (by simp)
        · next h => exact comes_refuse (by simpa using h) (by simp)
      · exact comes_fillStep.congr (by simp) (by simp)
      · exact .answer _ (by simp) (by simp)
      · split
        · next h => exact .answer _ (by simpa using h) (by simp)
        · next h => exact comes_refuse (by simpa using h) (by simp)

theorem comes_ofValue (v : Value) : Comes (ofValue v) (IsSound v) (Breaks v) := by
  unfold ofValue
  cases hfs : v.fields? with
  | none =>
      refine comes_refuse ?_ ?_
      · rintro ⟨fs, h, -⟩
        rw [hfs] at h
        cases h
      · rintro ⟨fs, h, -⟩
        rw [hfs] at h
        cases h
  | some fs =>
      have h : Comes (timeoutOf (fs.get "action") fs >>= fun timeout =>
          match (fs.get "action").text?.bind (stepOf fs timeout) with
          | some parsed => parsed.map Entry.step
          | none => pure (.unknownAction (fs.get "action").shown))
          (HasLimit fs ∧ HasParts fs) (LimitBreaks fs ∨ HasLimit fs ∧ ValueBreaks fs) := by
        refine comes_timeoutOf.bind fun timeout _ => ?_
        cases haction : (fs.get "action").text? with
        | none =>
            have hother : ∀ known, fs.get "action" ≠ .text known := by
              intro known h
              rw [h] at haction
              cases haction
            exact .answer _ ⟨fun h => absurd h (hother _), fun h => absurd h (hother _),
              fun h => absurd h (hother _)⟩ fun h => hother _ h.1
        | some action => exact comes_stepOf (Value.eq_text_of_text? haction)
      refine h.congr ?_ ?_
      · simp [IsSound, hfs]
      · simp [Breaks, hfs]

end Entry

/-! ## Scenarios -/

namespace Scenario

open Told

/-- An entry breaks the reading of a script off, and those before it are sound. -/
def ScriptBreaks (vs : List Value) : Prop :=
  ∃ before v after, vs = before ++ v :: after ∧ (∀ w ∈ before, Entry.IsSound w) ∧ Entry.Breaks v

theorem scriptBreaks_cons {v : Value} {vs : List Value} :
    ScriptBreaks (v :: vs) ↔ Entry.Breaks v ∨ Entry.IsSound v ∧ ScriptBreaks vs := by
  constructor
  · rintro ⟨before, w, after, hvs, hbefore, hw⟩
    cases before with
    | nil =>
        cases hvs
        exact .inl hw
    | cons u before =>
        cases hvs
        refine .inr ⟨hbefore _ (List.mem_cons_self ..), before, w, after, rfl, fun x hx => ?_, hw⟩
        exact hbefore x (List.mem_cons_of_mem _ hx)
  · rintro (hv | ⟨hv, before, w, after, rfl, hbefore, hw⟩)
    · exact ⟨[], v, vs, rfl, nofun, hv⟩
    · refine ⟨v :: before, w, after, rfl, fun x hx => ?_, hw⟩
      rcases List.mem_cons.1 hx with rfl | hx
      · exact hv
      · exact hbefore x hx

/-- The place of an entry stands in its report, and changes nothing else. -/
theorem comes_blame {α : Type} {x : Except Failure α} {sound breaks : Prop} (name : String)
    (position : Nat) (h : Comes x sound breaks) : Comes (x.mapError (blame name position)) sound breaks := by
  cases h with
  | answer a hsound hbreaks => exact .answer a hsound hbreaks
  | report e hsound hbreaks =>
      show Comes (.error (blame name position (.configuration e))) _ _
      unfold blame
      split
      · exact .report _ hsound hbreaks
      · exact .report e hsound hbreaks
  | fault f hsound hbreaks => exact .fault f hsound hbreaks

theorem comes_stepsOf (name : String) (position : Nat) (vs : List Value) :
    Comes (stepsOf name position vs).answer (∀ v ∈ vs, Entry.IsSound v) (ScriptBreaks vs) := by
  induction vs generalizing position with
  | nil =>
      refine .answer [] nofun ?_
      rintro ⟨before, v, after, h, -⟩
      simp at h
  | cons v vs ih =>
      have hentry := comes_blame name position (Entry.comes_ofValue v)
      rw [answer_stepsOf_cons]
      refine (hentry.bind fun entry _ => ?_).congr List.forall_mem_cons.symm scriptBreaks_cons.symm
      cases entry with
      | step s => exact (ih (position + 1)).map
      | unknownAction shown => exact ih (position + 1)

section

variable (fs : Fields)

/-- The scenario states a name, and a list for its script. -/
def HasScript (vs : List Value) : Prop :=
  (∃ name, fs.get "name" = .text name ∧ name ≠ "") ∧ (fs.getD "steps" (.list [])).items? = some vs

/-- What is expected of the scenario is a mapping or empty, and it says whether to sign in or nothing. -/
def HasTerms : Prop :=
  ((fs.get "expectedMetrics").orElse (.mapping [])).fields?.isSome = true ∧
    (fs.get "requiresLogin" = .null ∨ ∃ b, fs.get "requiresLogin" = .bool b)

/-- Whether its description can be written. -/
def isDescribed : Bool := (fs.getD "description" (.text "")).isWritable

/-- A scenario that is read. -/
def IsSound : Prop :=
  ∃ vs, HasScript fs vs ∧ (∀ v ∈ vs, Entry.IsSound v) ∧ HasTerms fs ∧ isDescribed fs = true

/-- A scenario whose reading breaks off: an entry of its script breaks it off behind sound ones, or all is
sound but the description, which cannot be written. -/
def Breaks : Prop :=
  ∃ vs, HasScript fs vs ∧ (ScriptBreaks vs ∨
    (∀ v ∈ vs, Entry.IsSound v) ∧ HasTerms fs ∧ isDescribed fs = false)

end

variable {fs : Fields}

theorem comes_loginOf (name : String) : Comes (loginOf fs name).answer
    (fs.get "requiresLogin" = .null ∨ ∃ b, fs.get "requiresLogin" = .bool b) False := by
  unfold loginOf
  split
  · next h => exact .answer none (.inl h) not_false
  · next b h => exact .answer (some b) (.inr ⟨b, h⟩) not_false
  · next hnull hbool =>
      refine .report _ ?_ not_false
      rintro (h | ⟨b, h⟩)
      · exact hnull h
      · exact hbool b h

theorem comes_completed (fs : Fields) (name : String) (steps : List Step) :
    Comes (completed fs name steps).answer (HasTerms fs ∧ isDescribed fs = true)
      (HasTerms fs ∧ isDescribed fs = false) := by
  unfold completed HasTerms
  split
  · next hexpected =>
      rw [hexpected]
      exact .report _ (fun h => Bool.false_ne_true h.1.1) fun h => Bool.false_ne_true h.1.1
  · next expected hexpected =>
      rw [hexpected, answer_bind _ fun _ => isSteady_bind (isSteady_ofFault _) fun _ => isSteady_pure _]
      have hdescription : ∀ login, Comes
          (ofFault (fs.getD "description" (.text "")).toText? >>= fun description =>
            (pure { name := name, description := description, steps := steps
                    expectedMetrics := expected, requiresLogin := login } : Told Scenario)).answer
          (isDescribed fs = true) (isDescribed fs = false) := by
        intro login
        rw [answer_bind _ fun _ => isSteady_pure _, ofFault, answer_of]
        exact (Value.comes_toText? _).map
      exact ((comes_loginOf name).bind fun login _ => hdescription login).congr (by simp) (by simp)

theorem comes_ofFields (fs : Fields) : Comes (ofFields fs).answer (IsSound fs) (Breaks fs) := by
  rw [ofFields_eq]
  split
  · next hname =>
      have hunnamed : ∀ vs, ¬ HasScript fs vs := by
        rintro vs ⟨⟨name, h⟩, -⟩
        rw [Library.nameOf?_eq_some_iff.2 h] at hname
        cases hname
      refine .report _ ?_ ?_
      · rintro ⟨vs, h, -⟩
        exact hunnamed vs h
      · rintro ⟨vs, h, -⟩
        exact hunnamed vs h
  · next name hname =>
      have hnamed : ∃ name, fs.get "name" = .text name ∧ name ≠ "" :=
        ⟨name, Library.nameOf?_eq_some_iff.1 hname⟩
      split
      · next hsteps =>
          have hunscripted : ∀ vs, ¬ HasScript fs vs := by
            rintro vs ⟨-, h⟩
            rw [hsteps] at h
            cases h
          refine .report _ ?_ ?_
          · rintro ⟨vs, h, -⟩
            exact hunscripted vs h
          · rintro ⟨vs, h, -⟩
            exact hunscripted vs h
      · next vs hvs =>
          have h := (comes_stepsOf name 1 vs).bind fun steps _ => comes_completed fs name steps
          rw [answer_bind _ fun _ => isSteady_completed _ _ _]
          refine h.congr ?_ ?_
          · simp [IsSound, HasScript, hnamed, hvs]
          · simp [Breaks, HasScript, hnamed, hvs]

end Scenario

namespace Library

open Told

/-- The library has a scenario of the name, and the reading of it breaks off. -/
def BreaksAt (l : Library) (name : String) : Prop :=
  ∃ fs, l.entries.get? name = some fs ∧ Scenario.Breaks fs

theorem comes_get (l : Library) (name : String) : Comes (l.get name).answer
    (∃ fs, l.entries.get? name = some fs ∧ Scenario.IsSound fs) (l.BreaksAt name) := by
  unfold get BreaksAt
  split
  · next h =>
      rw [h]
      exact .report _ (by simp) (by simp)
  · next fs h =>
      rw [h]
      exact (Scenario.comes_ofFields fs).congr (by simp) (by simp)

/-! ## Runs and lists -/

section

variable {η : Type} [Host η] {p : Plan} {w : Worker} {es : List Event}

/-- A worker breaks at the scenario that it asks for, or at an event of its own. -/
theorem breaksAt_or_breaks (h : w.Broke p es) : p.library.BreaksAt w.name ∨ ∃ e ∈ es, e.Breaks := by
  cases h with
  | astray hget hown hes =>
      by_contra hneither
      have hsurvived := ((comes_get p.library w.name).isOwn_iff hget).2 fun h => hneither (.inl h)
      rw [hown] at hsurvived
      cases hsurvived
  | unopened hget hes hown =>
      rw [hes]
      exact .inr ⟨_, List.mem_singleton.2 rfl, Event.breaks_of_sessionFailure rfl hown⟩
  | running hran hbreaks => exact .inr hbreaks

/-- A worker whose scenario breaks off has not acted, or is broken. -/
theorem waiting_or_broken (hbreaks : p.library.BreaksAt w.name) (h : w.Accounts p es) :
    w.phase = .waiting ∨ ∃ f, w.phase = .broken f := by
  obtain ⟨fault, hfault⟩ := (comes_get p.library w.name).isFault_iff.2 hbreaks
  have hunread : ∀ scenario, (p.library.get w.name).answer ≠ .ok scenario := by
    intro scenario hread
    rw [hfault] at hread
    cases hread
  unfold Worker.Accounts at h
  cases hphase : w.phase with
  | waiting => exact .inl rfl
  | broken f => exact .inr ⟨f, rfl⟩
  | queued scenario =>
      rw [hphase] at h
      exact absurd h.2 (hunread scenario)
  | admitted scenario =>
      rw [hphase] at h
      exact absurd h.2 (hunread scenario)
  | iterating scenario session iteration failed =>
      rw [hphase] at h
      obtain ⟨k, -, -, hran, -⟩ := h
      exact absurd hran.found (hunread scenario)
  | resting scenario session iteration failed =>
      rw [hphase] at h
      exact absurd h.2.1.found (hunread scenario)
  | closing session outcome =>
      rw [hphase] at h
      cases outcome with
      | ok failed =>
          obtain ⟨⟨scenario, hran⟩, -⟩ := h
          exact absurd hran.found (hunread scenario)
      | error f =>
          obtain ⟨⟨scenario, k, hran⟩, -⟩ := h
          exact absurd hran.found (hunread scenario)
  | finished failed =>
      rw [hphase] at h
      cases h with
      | refused hget hown hes =>
          rw [hfault] at hget
          cases hget
          cases hown
      | unopened hget hes => exact absurd hget (hunread _)
      | done hran => exact absurd hran.found (hunread _)
      | masked hran hbreaks hunclosed => exact absurd hran.found (hunread _)

end

/-- Every line of the list that there is can be printed. -/
def HasPrintableLines (l : Library) (names : List String) : Prop :=
  ∀ name ∈ names, ∀ line, scenarioLine name (l.get name).answer = .ok line → Text.isWhole line = true

theorem exists_scenarioLine_iff (l : Library) (name : String) :
    (∃ line, scenarioLine name (l.get name).answer = .ok line) ↔ ¬ l.BreaksAt name := by
  have h := comes_get l name
  cases hget : (l.get name).answer with
  | ok s =>
      rw [hget] at h
      exact iff_of_true ⟨_, rfl⟩ (h.contained_iff.1 (.inl ⟨s, rfl⟩))
  | error f =>
      rw [← h.isOwn_iff hget]
      unfold scenarioLine
      dsimp only
      split
      · next hown => exact iff_of_true ⟨_, rfl⟩ hown
      · next hown => exact iff_of_false nofun hown

theorem ending_listNames_cons (files : Files) (l : Library) {name line : String} {names : List String}
    (hline : scenarioLine name (l.get name).answer = .ok line) (hwhole : Text.isWhole line = true) :
    (listNames files l (name :: names)).ending = (listNames files l names).ending := by
  rw [listNames]
  change scenarioLine name (l.get name).outcome.1 = .ok line at hline
  rcases hfound : (l.get name).outcome with ⟨found, notices⟩
  rw [hfound] at hline
  simp only [hline, hwhole, if_true]

theorem ending_listNames_broken (files : Files) (l : Library) {name : String} {f : Failure}
    {names : List String} (hline : scenarioLine name (l.get name).answer = .error f) :
    (listNames files l (name :: names)).ending = .broken f := by
  rw [listNames]
  change scenarioLine name (l.get name).outcome.1 = .error f at hline
  rcases hfound : (l.get name).outcome with ⟨found, notices⟩
  rw [hfound] at hline
  simp only [hline]

theorem ending_listNames (files : Files) (l : Library) {names : List String}
    (hlines : l.HasPrintableLines names) :
    (listNames files l names).ending = .status 0 ↔ ∀ name ∈ names, ¬ l.BreaksAt name := by
  induction names with
  | nil => exact iff_of_true rfl nofun
  | cons name names ih =>
      have hrest := ih fun other hother => hlines other (List.mem_cons_of_mem _ hother)
      rw [List.forall_mem_cons, ← exists_scenarioLine_iff, ← hrest]
      cases hfound : scenarioLine name (l.get name).answer with
      | error f =>
          rw [ending_listNames_broken files l hfound]
          exact iff_of_false nofun fun ⟨⟨_, h⟩, _⟩ => by cases h
      | ok line =>
          rw [ending_listNames_cons files l hfound (hlines name (List.mem_cons_self ..) line hfound)]
          have hread : ∃ listed, (Except.ok line : Except Failure String) = .ok listed := ⟨line, rfl⟩
          exact (and_iff_right hread).symm

/-- Whatever stands in a library, asking for a scenario gives it or a report, unless its reading breaks off.
A worker that asks for one of those is broken as soon as it has acted, and no other worker is broken but by
an event of its own; the list ends well exactly if none of them is in the library. -/
theorem get_breaks_iff (l : Library) :
    (∀ name, ((∃ s, (l.get name).answer = .ok s) ∨
      ∃ e, (l.get name).answer = .error (.configuration e)) ↔ ¬ l.BreaksAt name) ∧
    (∀ {η : Type} [Host η] (p : Plan) (permits : Nat) (files : Files) (host : η) (schedule : List Nat)
      (n : Nat) (w : Worker), p.library = l →
      ((Run.start p permits files host).follow p schedule).workers[n]? = some w →
        (l.BreaksAt w.name → w.phase = .waiting ∨ ∃ f, w.phase = .broken f) ∧
        (∀ f, w.phase = .broken f → l.BreaksAt w.name ∨
          ∃ e ∈ Log.of ((Run.start p permits files host).log p schedule) n, e.Breaks)) ∧
    (∀ files, l.HasPrintableLines l.names →
      ((listNames files l l.names).ending = .status 0 ↔ ∀ name ∈ l.names, ¬ l.BreaksAt name)) := by
  refine ⟨fun name => (comes_get l name).contained_iff, ?_, fun files h => ending_listNames files l h⟩
  rintro η _ p permits files host schedule n w rfl hw
  have hacc := Run.accounts schedule hw
  refine ⟨fun hbreaks => waiting_or_broken hbreaks hacc, fun f hphase => ?_⟩
  rw [Worker.Accounts, hphase] at hacc
  exact breaksAt_or_breaks hacc

/-- A file with a scenario that waits without an end, and one that clicks on nothing. -/
def endlessWait : Files :=
  ⟨[(["s.json"], .file ("\x7b\"scenarios\": [\x7b\"name\": \"x\", \"steps\": "
    ++ "[\x7b\"action\": \"wait\", \"timeout\": Infinity\x7d]\x7d, "
    ++ "\x7b\"name\": \"y\", \"steps\": [\x7b\"action\": \"click\"\x7d]\x7d]\x7d"))]⟩

theorem load_endlessWait : ∃ l, load endlessWait "s.json" = .ok l ∧ l.names = ["x", "y"] ∧
    (l.get "x").answer = .error (.fault .infiniteInteger) ∧
    (l.get "y").answer = .error (.configuration (.badStep "y" 1 .clickWithoutSelector)) := by
  have hload : (load endlessWait "s.json").map (fun l => (l.names, refusal? (l.get "x").answer,
      refusal? (l.get "y").answer)) =
      .ok (["x", "y"], some (.fault .infiniteInteger),
        some (.configuration (.badStep "y" 1 .clickWithoutSelector))) := by decide +kernel
  obtain ⟨l, hl, hparts⟩ := exists_of_map hload
  simp only [Prod.mk.injEq] at hparts
  obtain ⟨hnames, hx, hy⟩ := hparts
  exact ⟨l, hl, hnames, eq_error_of_refusal? hx, eq_error_of_refusal? hy⟩

theorem get_breaks_iff_endlessWait : ∃ l, load endlessWait "s.json" = .ok l ∧ l.BreaksAt "x" ∧
    ¬ l.BreaksAt "y" ∧ (listNames {} l l.names).ending ≠ .status 0 := by
  obtain ⟨l, hl, hnames, hx, hy⟩ := load_endlessWait
  obtain ⟨hget, -, hlist⟩ := get_breaks_iff l
  have hbreaks : l.BreaksAt "x" := by
    by_contra hsound
    rcases (hget "x").2 hsound with ⟨s, h⟩ | ⟨e, h⟩ <;> rw [hx] at h <;> cases h
  have hlines : l.HasPrintableLines l.names := by
    rw [hnames]
    intro name hname line hline
    rcases List.mem_pair.1 hname with rfl | rfl
    · rw [hx] at hline
      cases hline
    · rw [hy] at hline
      cases hline
      decide +kernel
  refine ⟨l, hl, hbreaks, (hget "y").1 (.inr ⟨_, hy⟩), fun hending => ?_⟩
  exact (hlist {} hlines).1 hending "x" (by rw [hnames]; simp) hbreaks

/-- The file is a library, but of the scenario that waits comes neither a scenario nor a report. -/
theorem endlessWait_neither_read_nor_reported : ∃ l, load endlessWait "s.json" = .ok l ∧
    (l.get "x").answer = .error (.fault .infiniteInteger) := by
  obtain ⟨l, hl, -, hx, -⟩ := load_endlessWait
  exact ⟨l, hl, hx⟩

end Library

end SiteTrial
