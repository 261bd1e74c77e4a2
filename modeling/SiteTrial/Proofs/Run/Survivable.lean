import SiteTrial.Proofs.Run.Script
import SiteTrial.Proofs.Value.Range
import SiteTrial.Run.Visit

/-!
# Runs of a scenario that a worker survives

A page may refuse any call and let any wait expire. As long as it answers the others with what the scripts in
it make, a run of a scenario ends with a sample or with a failure of the browser's kind, which a worker
survives.

* `Value.IsOrdinary`, `Value.IsEntry`, `Value.IsLoad`, `Value.IsMarks` : the shapes of what is read off an
  answer;
* `Call.Expects`, `Reply.IsExpected` : the answers that a call should have, and the replies that it can have;
* `Browse.IsSurvivable` : a computation that ends so on such a page;
* `Sampling.isSurvivable_measure` : measuring on such a page;
* `runScenario_survivable` : the whole run.
-/

namespace SiteTrial

open Browse (Ends)

/-! ## The shapes of answers -/

namespace Value

/-- No number, or a finite one that a double can hold. -/
def IsOrdinary (v : Value) : Prop := ¬ v.IsBeyondDoubles ∧ ¬ v.IsEndless

/-- A mapping that holds no number out of range. -/
def IsEntry (v : Value) : Prop := ∃ fs, v.fields? = some fs ∧ ∀ e ∈ fs, e.2.IsOrdinary

/-- The entry of a resource, whose name is an address that can be taken apart. -/
def IsLoad (v : Value) : Prop :=
  ∃ fs, v.fields? = some fs ∧ (∀ e ∈ fs, e.2.IsOrdinary) ∧
    ∃ a, Address.ofText (fs.getD "name" (.text "")).toText = .ok a

/-- A list with members of a shape. -/
def IsListOf (p : Value → Prop) (v : Value) : Prop := ∃ vs, v.items? = some vs ∧ ∀ w ∈ vs, p w

/-- Timing marks: a number under each label. -/
def IsMarks (v : Value) : Prop :=
  ∃ marks, v = .mapping marks ∧ ∀ e ∈ marks, e.2.isNumeric = true ∧ e.2.IsOrdinary

/-- Absent, or of a shape. -/
def IsAbsentOr (p : Value → Prop) (v : Value) : Prop := v.isTruthy = false ∨ p v

/-- The entries of a page's timings. -/
def IsTimings (v : Value) : Prop :=
  ∃ fs, v.fields? = some fs ∧ (fs.get "navigation").IsAbsentOr IsEntry ∧
    (fs.get "paint").IsAbsentOr (IsListOf IsEntry) ∧ (fs.get "resources").IsAbsentOr (IsListOf IsLoad)

/-- What a page keeps. -/
def IsState (v : Value) : Prop := ∃ fs, v.fields? = some fs ∧ (fs.get "customTimings").IsAbsentOr IsMarks

end Value

/-- What a call should be answered. -/
def Call.Expects : Call → Value → Prop
  | .count _, v => ∃ n, v = .int n
  | .evaluate .scrollHeight, v => v.isTruthy = false ∨ v.isNumeric = true
  | .evaluate (.apiTiming _), v => v.isNull = true ∨ (v.isNumeric = true ∧ v.IsOrdinary)
  | .evaluate (.webVitals _), v => v.IsAbsentOr Value.IsEntry
  | .evaluate .timingEntries, v => v.IsAbsentOr Value.IsTimings
  | .evaluate .readState, v => v.IsAbsentOr Value.IsState
  | _, _ => True

/-- The page answers as it should, or the browser fails the call. -/
def Reply.IsExpected (c : Call) : Reply → Prop
  | .answer v => c.Expects v
  | .timedOut | .refused _ => True
  | .broke _ => False

/-- A failure of the browser's kind. -/
def Failure.IsAutomation (f : Failure) : Prop := ∃ e, f = .automation e

/-- On a page that answers as it should where the browser does not fail, a computation comes to an answer or
to a failure of the browser's kind. -/
abbrev Browse.IsSurvivable {σ α : Type} [Page σ] (b : Browse σ α) : Prop :=
  Ends (fun c r => r.IsExpected c) Failure.IsAutomation b fun _ => True

/-! ## What is made of them -/

namespace Value

variable {v : Value} {fs : Fields}

theorem isOrdinary_get (h : ∀ e ∈ fs, e.2.IsOrdinary) (key : String) : (fs.get key).IsOrdinary := by
  have hnull : (Value.null).IsOrdinary := ⟨nofun, nofun⟩
  have hfind : ∀ k w, Fields.find? fs k = some w → w.IsOrdinary := by
    intro k w hw
    induction fs with
    | nil => cases hw
    | cons e fs ih =>
        obtain ⟨k', u⟩ := e
        unfold Fields.find? at hw
        split at hw
        · cases hw
          exact h _ (List.mem_cons_self ..)
        · exact ih (fun e he => h e (List.mem_cons_of_mem _ he)) hw
  unfold Fields.get Fields.getD Fields.get?
  cases hw : Fields.find? fs (.text key) with
  | none => exact hnull
  | some w => exact hfind _ w hw

/-- The double of an ordinary value, which is finite. -/
theorem IsOrdinary.exists_numericOrZero (h : v.IsOrdinary) :
    ∃ x, v.numericOrZero = .ok x ∧ x.isFinite = true := by
  have hread : ∃ o, v.numeric? = .ok o := by
    cases hnumeric : v.numeric? with
    | ok o => exact ⟨o, rfl⟩
    | error f => exact absurd (numeric?_eq_error_iff.1 ⟨f, hnumeric⟩) h.1
  obtain ⟨o, ho⟩ := hread
  unfold numericOrZero
  rw [ho]
  refine ⟨_, rfl, ?_⟩
  unfold numeric? at ho
  split at ho
  · next b =>
      cases ho
      cases b <;> rfl
  · next n =>
      obtain ⟨x, hx, rfl⟩ := exists_of_map ho
      unfold doubleOfInt at hx
      dsimp only at hx
      split at hx
      · next hfinite =>
          cases hx
          exact hfinite
      · cases hx
  · next x =>
      cases ho
      cases hx : x.isFinite with
      | true => exact hx
      | false => exact absurd ⟨x, rfl, hx⟩ h.2
  · cases ho
    rfl

theorem IsOrdinary.exists_nonNegative (h : v.IsOrdinary) : ∃ x, v.nonNegative = .ok x := by
  unfold nonNegative
  split
  · next n =>
      split
      · exact ⟨_, rfl⟩
      · cases hx : doubleOfInt n with
        | ok x => exact ⟨x, rfl⟩
        | error f => exact absurd ⟨n, rfl, doubleOfInt_eq_error_iff.1 ⟨f, hx⟩⟩ h.1
  · obtain ⟨x, hx, -⟩ := h.exists_numericOrZero
    rw [hx]
    exact ⟨_, rfl⟩

theorem IsOrdinary.exists_toDouble (h : v.IsOrdinary) (hnumeric : v.isNumeric = true) :
    ∃ x, v.toDouble = .ok x := by
  obtain ⟨x, -, hx⟩ | ⟨hvast, -⟩ := numeric_cases hnumeric
  · exact ⟨x, hx⟩
  · exact absurd hvast h.1

theorem exists_exceeds (hnumeric : v.isNumeric = true) (n : Int) : ∃ b, v.exceeds n = .ok b := by
  unfold isNumeric at hnumeric
  split at hnumeric <;> first | exact ⟨_, rfl⟩ | cases hnumeric

theorem member_of_fields (hfs : v.fields? = some fs) (key : String) : v.member key = .ok (fs.get key) := by
  simp only [member, hfs]

/-- The number under a key of an entry, which is finite. -/
theorem IsEntry.exists_entryNumber (h : v.IsEntry) (key : String) :
    ∃ x, entryNumber v key = .ok x ∧ x.isFinite = true := by
  obtain ⟨fs, hfs, hordinary⟩ := h
  unfold entryNumber
  rw [member_of_fields hfs]
  exact (isOrdinary_get hordinary key).exists_numericOrZero

theorem IsEntry.exists_entrySpan (h : v.IsEntry) (first last : String) :
    ∃ x, entrySpan v first last = .ok x := by
  obtain ⟨finish, hfinish, -⟩ := h.exists_entryNumber last
  obtain ⟨start, hstart, -⟩ := h.exists_entryNumber first
  unfold entrySpan
  rw [hfinish, ok_bind, hstart]
  exact ⟨_, rfl⟩

theorem IsLoad.isEntry (h : v.IsLoad) : v.IsEntry := by
  obtain ⟨fs, hfs, hordinary, -⟩ := h
  exact ⟨fs, hfs, hordinary⟩

theorem exists_integerOf {x : Float} (h : x.isFinite = true) : ∃ n, integerOf .towardsZero x = .ok n := by
  cases hn : integerOf .towardsZero x with
  | ok n => exact ⟨n, rfl⟩
  | error f =>
      rw [integerOf_eq_error_iff.1 ⟨f, hn⟩] at h
      cases h

theorem IsAbsentOr.orElse {p : Value → Prop} {other : Value} (h : v.IsAbsentOr p) (hother : p other) :
    p (v.orElse other) := by
  unfold Value.orElse
  split
  · next htruthy =>
      rcases h with h | h
      · rw [htruthy] at h
        cases h
      · exact h
  · exact hother

end Value

open Value

theorem Vitals.exists_ofEntry {v : Value} (h : v.IsEntry) : ∃ r, Vitals.ofEntry v = .ok r := by
  obtain ⟨fs, hfs, hordinary⟩ := h
  have hread := fun key => (isOrdinary_get hordinary key).exists_nonNegative
  obtain ⟨lcp, hlcp⟩ := hread "lcp"
  obtain ⟨cls, hcls⟩ := hread "cls"
  obtain ⟨fid, hfid⟩ := hread "fid"
  obtain ⟨inp, hinp⟩ := hread "inp"
  unfold ofEntry
  simp only [member_of_fields hfs, ok_bind, hlcp, hcls, hfid, hinp]
  exact ⟨_, rfl⟩

theorem ResourceTiming.exists_ofEntry {v : Value} (h : v.IsLoad) :
    ∃ r, ResourceTiming.ofEntry v = .ok r := by
  obtain ⟨duration, hduration⟩ := h.isEntry.exists_entrySpan "startTime" "responseEnd"
  obtain ⟨decoded, hdecoded, hfinite⟩ := h.isEntry.exists_entryNumber "decodedBodySize"
  obtain ⟨transferred, htransferred, hfinite'⟩ := h.isEntry.exists_entryNumber "transferSize"
  obtain ⟨size, hsize⟩ := exists_integerOf hfinite
  obtain ⟨transferSize, htransferSize⟩ := exists_integerOf hfinite'
  obtain ⟨fs, hfs, -, address, haddress⟩ := h
  have hname : v.memberD "name" (.text "") = .ok (fs.getD "name" (.text "")) := by
    simp only [memberD, hfs]
  unfold ofEntry ResourceKind.ofAddress
  simp only [hname, haddress, hduration, hdecoded, htransferred, hsize, htransferSize, ok_bind]
  exact ⟨_, rfl⟩

theorem exists_firstPaint {vs : List Value} (h : ∀ v ∈ vs, v.IsEntry) : ∃ x, firstPaint vs = .ok x := by
  induction vs with
  | nil => exact ⟨_, rfl⟩
  | cons v vs ih =>
      obtain ⟨fs, hfs, hordinary⟩ := h v (List.mem_cons_self ..)
      unfold firstPaint
      simp only [member_of_fields hfs, ok_bind]
      split
      · exact (isOrdinary_get hordinary _).exists_nonNegative
      · exact ih fun w hw => h w (List.mem_cons_of_mem _ hw)

theorem Timings.exists_ofNavigation {v : Value} (h : v.IsEntry) (fcp : Float)
    (resources : List ResourceTiming) : ∃ t, ofNavigation v fcp resources = .ok t := by
  have hspan := h.exists_entrySpan
  obtain ⟨secure, hsecure, -⟩ := h.exists_entryNumber "secureConnectionStart"
  obtain ⟨sslTime, hssl⟩ := hspan "secureConnectionStart" "connectEnd"
  obtain ⟨loadComplete, hload⟩ := hspan "fetchStart" "loadEventEnd"
  obtain ⟨ttfb, httfb⟩ := hspan "fetchStart" "responseStart"
  obtain ⟨tti, htti⟩ := hspan "fetchStart" "domInteractive"
  obtain ⟨dnsTime, hdns⟩ := hspan "domainLookupStart" "domainLookupEnd"
  obtain ⟨content, hcontent⟩ := hspan "fetchStart" "domContentLoadedEventEnd"
  unfold ofNavigation
  simp only [hsecure, hssl, hload, httfb, htti, hdns, hcontent, ok_bind]
  split <;> exact ⟨_, rfl⟩

theorem Value.walk_of_isListOf {p : Value → Prop} {v : Value} (h : v.IsListOf p) :
    ∃ vs, v.walk = .ok vs ∧ ∀ w ∈ vs, p w := by
  obtain ⟨vs, hvs, hp⟩ := h
  unfold items? at hvs
  split at hvs
  · next hopened =>
      cases hvs
      refine ⟨vs, ?_, hp⟩
      simp only [walk, hopened]
  · cases hvs

theorem Timings.exists_ofEntries {navigation paint resources : Value}
    (hnavigation : navigation.IsAbsentOr IsEntry) (hpaint : paint.IsListOf IsEntry)
    (hresources : resources.IsListOf IsLoad) : ∃ t, ofEntries navigation paint resources = .ok t := by
  obtain ⟨entries, hentries, hentry⟩ := walk_of_isListOf hpaint
  obtain ⟨loads, hloads, hload⟩ := walk_of_isListOf hresources
  obtain ⟨fcp, hfcp⟩ := exists_firstPaint hentry
  have hmade := mapM_of_all_ok fun v hv => ResourceTiming.exists_ofEntry (hload v hv)
  unfold ofEntries
  simp only [hloads, hentries, hmade, hfcp, ok_bind]
  split
  · next htruthy =>
      rcases hnavigation with h | h
      · rw [htruthy] at h
        cases h
      · exact exists_ofNavigation h _ _
  · exact ⟨_, rfl⟩

theorem exists_mergeMarks {marks : Fields} (h : ∀ e ∈ marks, e.2.isNumeric = true ∧ e.2.IsOrdinary)
    (times : Table Float) : ∃ t, mergeMarks times marks = .ok t := by
  induction marks generalizing times with
  | nil => exact ⟨_, rfl⟩
  | cons e marks ih =>
      obtain ⟨label, v⟩ := e
      obtain ⟨hnumeric, hordinary⟩ := h (label, v) (List.mem_cons_self ..)
      obtain ⟨x, hx⟩ := hordinary.exists_toDouble hnumeric
      unfold mergeMarks
      rw [hx]
      exact ih (fun e he => h e (List.mem_cons_of_mem _ he)) _

theorem ApplicationMetrics.exists_ofRecorder {state : Value} (h : state.IsAbsentOr IsState)
    (r : Recorder) : ∃ m, ofRecorder r state = .ok m := by
  have hempty : (Value.mapping []).IsState := ⟨[], rfl, .inl rfl⟩
  obtain ⟨fs, hfs, hcustom⟩ := h.orElse hempty
  obtain ⟨marks, hmarks, hnumbers⟩ := hcustom.orElse ⟨[], rfl, nofun⟩
  have hread : marksOf state = .ok marks := by
    unfold marksOf
    simp only [member_of_fields hfs, ok_bind, hmarks]
    rfl
  obtain ⟨t, ht⟩ := exists_mergeMarks hnumbers (recordedTimes r.navigation)
  unfold ofRecorder
  simp only [hread, ok_bind, ht]
  exact ⟨_, rfl⟩

/-! ## On such a page -/

variable {σ : Type} [Page σ]

theorem actionTerms_automation :
    Page.ActionTerms (fun c r => r.IsExpected c) Failure.IsAutomation where
  automation e := ⟨e, rfl⟩
  broke c f h := h.elim
  count s v h f hf := by
    obtain ⟨n, rfl⟩ := h
    rcases hf with hf | hf <;> cases hf
  height v h htruthy n f hf := by
    rcases h with h | h
    · rw [htruthy] at h
      cases h
    · obtain ⟨b, hb⟩ := exists_exceeds h n
      rw [hb] at hf
      cases hf
  time url v h hnull f hf := by
    rcases h with h | ⟨hnumeric, hordinary⟩
    · rw [hnull] at h
      cases h
    · obtain ⟨x, hx⟩ := hordinary.exists_toDouble hnumeric
      rw [hx] at hf
      cases hf

theorem Browse.ends_of_ok {R : Call → Reply → Prop} {E : Failure → Prop} {α : Type} {x : Except Fault α}
    (h : ∃ a, x = .ok a) : Ends R E (Browse.ofFault x : Browse σ α) fun _ => True := by
  obtain ⟨a, rfl⟩ := h
  exact .pure trivial

namespace Sampling

theorem isSurvivable_vitals (settle : Int) : (vitals settle : Browse σ Vitals).IsSurvivable := by
  refine (Session.ends_ask actionTerms_automation.toTerms fun v hv => hv).bind fun raw hraw => ?_
  have hempty : (Value.mapping []).IsEntry := ⟨[], rfl, nofun⟩
  exact Browse.ends_of_ok (Vitals.exists_ofEntry (IsAbsentOr.orElse hraw hempty))

theorem ends_member {v : Value} {fs : Fields} (hfs : v.fields? = some fs) (key : String) :
    Ends (fun c r => r.IsExpected c) Failure.IsAutomation
      (Browse.ofFault (v.member key) : Browse σ Value) fun w => w = fs.get key := by
  rw [member_of_fields hfs]
  exact .pure rfl

theorem isSurvivable_timings : (timings : Browse σ Timings).IsSurvivable := by
  refine (Session.ends_ask actionTerms_automation.toTerms fun v hv => hv).bind fun raw hraw => ?_
  have hempty : (Value.mapping []).IsTimings := ⟨[], rfl, .inl rfl, .inl rfl, .inl rfl⟩
  have hnone : ∀ p, (Value.list []).IsListOf p := fun p => ⟨[], rfl, nofun⟩
  obtain ⟨fs, hfs, hnavigation, hpaint, hresources⟩ := IsAbsentOr.orElse hraw hempty
  refine (ends_member hfs _).bind fun navigation hequal => ?_
  have hrest : (do
      let paint ← Browse.ofFault ((raw.orElse (.mapping [])).member "paint")
      let resources ← Browse.ofFault ((raw.orElse (.mapping [])).member "resources")
      Browse.ofFault (Timings.ofEntries navigation (paint.orElse (.list [])) (resources.orElse (.list []))) :
        Browse σ Timings).IsSurvivable := by
    refine (ends_member hfs _).bind fun paint hp => (ends_member hfs _).bind fun resources hr => ?_
    subst hequal hp hr
    exact Browse.ends_of_ok (Timings.exists_ofEntries hnavigation (hpaint.orElse (hnone _))
      (hresources.orElse (hnone _)))
  dsimp only
  split
  · exact Session.ends_url.bind fun _ _ => (Ends.tell _).andThen hrest
  · exact hrest

theorem isSurvivable_metrics (r : Recorder) :
    (metrics r : Browse σ ApplicationMetrics).IsSurvivable := by
  refine (Session.ends_ask actionTerms_automation.toTerms fun v hv => hv).bind fun state hstate => ?_
  exact Browse.ends_of_ok (ApplicationMetrics.exists_ofRecorder hstate r)

/-- Three computations that all end as they are meant to do so together. -/
theorem ends_allThree {R : Call → Reply → Prop} {E : Failure → Prop} {α β γ : Type} {a : Browse σ α}
    {b : Browse σ β} {c : Browse σ γ} (ha : Ends R E a fun _ => True) (hb : Ends R E b fun _ => True)
    (hc : Ends R E c fun _ => True) : Ends R E (allThree a b c) fun _ => True := by
  refine ha.attempt.bind fun x hx => hb.attempt.bind fun y hy => hc.attempt.bind fun z hz => ?_
  refine (Ends.of (fun _ _ => trivial) hx.2).bind fun _ _ => ?_
  refine (Ends.of (fun _ _ => trivial) hy.2).bind fun _ _ => ?_
  exact (Ends.of (fun _ _ => trivial) hz.2).bind fun _ _ => .pure trivial

theorem isSurvivable_measure (settle : Int) (url : String) (r : Recorder) :
    (measure settle url r : Browse σ Measured).IsSurvivable := by
  refine Ends.get.bind fun v _ => ?_
  refine (Session.ends_ask actionTerms_automation.toTerms fun _ _ => trivial).bind fun userAgent _ => ?_
  have hread := ends_allThree (isSurvivable_vitals settle) isSurvivable_timings
    (isSurvivable_metrics r (σ := σ))
  exact hread.bind fun _ _ => .pure trivial

end Sampling

theorem isSurvivable_approach (application : Application) (data : TestData) {s : Scenario}
    (htyped : ∀ st ∈ s.steps, st.IsTyped) :
    (approach application data s : Browse σ Unit).IsSurvivable := by
  have hterms := actionTerms_automation
  have hsignIn : (signInFirst application s : Browse σ Unit).IsSurvivable := by
    unfold signInFirst
    split
    · exact ends_signIn hterms application
    · exact .pure trivial
  refine (Session.ends_installInstrumentation hterms.toTerms).andThen (hsignIn.andThen ?_)
  exact Ends.forM fun st hst => Step.ends_perform hterms application data s.name (htyped st hst)

theorem isSurvivable_runScenario (application : Application) (data : TestData) (settle : Int)
    {s : Scenario} (htyped : ∀ st ∈ s.steps, st.IsTyped) :
    (runScenario application data settle s : Browse σ Measured).IsSurvivable := by
  have hcall := fun what c => Session.ends_order actionTerms_automation.toTerms what c (σ := σ)
  refine Ends.andThen (Ends.modify ?_) ?_
  · exact fun _ => rfl
  refine (isSurvivable_approach application data htyped).andThen ?_
  refine Session.ends_url.bind fun url _ => ?_
  refine ((hcall _ _).andThen ((hcall _ _).andThen (hcall _ _))).andThen ?_
  exact Ends.get.bind fun v _ => Sampling.isSurvivable_measure settle url v.recorder

/-- A run of a scenario whose steps are of the right types, on a page that answers as it should where the
browser does not fail the call, ends with what was measured or with a failure of the browser's kind. -/
theorem runScenario_survivable (application : Application) (data : TestData) (settle : Int) {s : Scenario}
    (htyped : ∀ st ∈ s.steps, st.IsTyped) {v : Visit σ}
    (hpage : Page.Replies (fun c r => r.IsExpected c) v.page) :
    (∃ m v', (runScenario application data settle s).run.run v = (.ok m, v')) ∨
      ∃ e v', (runScenario application data settle s).run.run v = (.error (.automation e), v') := by
  rcases hrun : (runScenario application data settle s).run.run v with ⟨r, v'⟩
  obtain ⟨-, -, hfailure⟩ := isSurvivable_runScenario application data settle htyped v v' r hpage hrun
  cases r with
  | ok m => exact .inl ⟨m, v', rfl⟩
  | error f =>
      obtain ⟨e, rfl⟩ := hfailure f rfl
      exact .inr ⟨e, v', rfl⟩

/-- A page that never comes to rest, on which nothing can be clicked. -/
def restless : FixedPage where
  reply
    | .waitForNetworkIdle _ => .timedOut
    | .click _ => .refused "another element is in front"
    | .count _ => .answer (.int 1)
    | .evaluate .scrollHeight => .answer (.int 3000)
    | .evaluate (.webVitals _) => .answer (.record [("lcp", .double 812.5)])
    | _ => .answer .null

theorem runScenario_survivable_restless :
    let s : Scenario := { name := "browse", steps := [.navigate (.text "/start") none,
      .custom (.text "simulateUserInteraction") none, .click (.text "#go") (some 500)] }
    let app : Application := { name := "Portal", baseUrl := "http://portal.test" }
    (∃ m v', (runScenario app {} 1000 s).run.run restless.visit = (.ok m, v')) ∨
      ∃ e v', (runScenario app {} 1000 s).run.run restless.visit = (.error (.automation e), v') := by
  refine runScenario_survivable _ _ _ (v := restless.visit) ?_ (FixedPage.replies fun c => ?_)
  · simp only [List.forall_mem_cons]
    exact ⟨⟨_, rfl⟩, ⟨_, rfl, by decide⟩, ⟨_, rfl, by decide⟩, nofun⟩
  · have hlcp : (Value.double 812.5).IsOrdinary := by
      refine ⟨nofun, ?_⟩
      rintro ⟨x, hx, hendless⟩
      cases hx
      revert hendless
      decide
    have hentry : (Value.record [("lcp", .double 812.5)]).IsEntry := by
      refine ⟨_, rfl, fun e he => ?_⟩
      rw [List.mem_singleton.1 he]
      exact hlcp
    cases c with
    | count => exact ⟨1, rfl⟩
    | evaluate script =>
        cases script with
        | webVitals => exact .inr hentry
        | scrollHeight => exact .inr rfl
        | apiTiming | timingEntries | readState => exact .inl rfl
        | _ => trivial
    | _ => trivial

end SiteTrial
