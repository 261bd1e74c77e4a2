import SiteTrial.Proofs.Page.Heard
import SiteTrial.Proofs.Run.Along
import SiteTrial.Rehearsal.Page

/-!
# A slash at the end of an application's address

Signing in, the fetches and the wait for an application's response drop the slashes at the end of its address. The
address of a navigate step is put behind it as it stands. So with one more slash at the end a run is the run of the
script that begins each such step with a slash: the pages that it opens are others, unless it never comes to such a
step.

* `Application.slashed`, `signIn_slashed`, `BuiltIn.perform_slashed` : where one more slash makes no difference;
* `Step.isRelative`, `Step.slashed`, `approach_slashed` : where it does;
* `Step.Reached`, `Scenario.Reaches` : the steps that a run comes to;
* `Visit.Parted` : two visits that asked for different things at some point;
* `runScenario_slashed` : a run with one more slash, and when it makes the same calls; `runScenario_slashed_tour` :
  a scenario that never leaves the built-in actions; `runScenario_doubleSlash` : one that navigates.
-/

namespace SiteTrial

open Browse (Along)

/-! ## One more slash -/

/-- The application with one more slash at the end of its address. -/
def Application.slashed (a : Application) : Application := { a with baseUrl := a.baseUrl ++ "/" }

namespace Step

/-- Whether the step goes to an address below that of the application. -/
def isRelative : Step → Bool
  | navigate (.text url) _ => !"http".toList.isPrefixOf url.toList
  | _ => false

/-- The step with one more slash at the beginning of such an address. -/
def slashed : Step → Step
  | navigate (.text url) timeout =>
    navigate (.text (if "http".toList.isPrefixOf url.toList then url else "/" ++ url)) timeout
  | st => st

end Step

def Scenario.slashed (s : Scenario) : Scenario := { s with steps := s.steps.map Step.slashed }

theorem withoutEndSlashes_append (url : String) : withoutEndSlashes (url ++ "/") = withoutEndSlashes url := by
  have hslash : (url ++ "/").toList.reverse = '/' :: url.toList.reverse := by
    rw [String.toList_append, List.reverse_append]
    rfl
  rw [withoutEndSlashes, hslash, List.dropWhile_cons_of_pos (by decide), withoutEndSlashes]

theorem resolve_slashed (base url : String) :
    resolve (base ++ "/") url = resolve base (if "http".toList.isPrefixOf url.toList then url else "/" ++ url) := by
  unfold resolve
  by_cases h : "http".toList.isPrefixOf url.toList = true
  · rw [if_pos h, if_pos h, if_pos h]
  · have hslash : ¬ "http".toList.isPrefixOf ("/" ++ url).toList = true := by
      rw [String.toList_append]
      exact Bool.false_ne_true
    rw [if_neg h, if_neg h, if_neg hslash, String.append_assoc]

variable {σ : Type} [Page σ]

theorem signIn_slashed (a : Application) : (signIn a.slashed : Browse σ Unit) = signIn a := by
  have hcredentials : a.slashed.credentials = a.credentials := rfl
  rw [signIn, signIn, hcredentials]
  cases a.credentials with
  | none => rfl
  | some account =>
      dsimp only
      rw [signInAs, signInAs, Application.slashed, withoutEndSlashes_append]

theorem BuiltIn.perform_slashed (a : Application) (scenario : String) (action : BuiltIn) :
    (action.perform a.slashed scenario : Browse σ Unit) = action.perform a scenario := by
  cases action with
  | dashboard | upload | interaction => rfl
  | apiTiming =>
      show ApiTiming.measure a.slashed = ApiTiming.measure a
      rw [ApiTiming.measure, ApiTiming.measure, Application.slashed, withoutEndSlashes_append]
  | submission =>
      have hsame : Submission.responseOf a.slashed = Submission.responseOf a :=
        congrArg UrlTest.startsWith (withoutEndSlashes_append a.baseUrl)
      show Submission.measure a.slashed scenario = Submission.measure a scenario
      rw [Submission.measure, Submission.measure, Submission.submit, Submission.submit, hsame]
  | login =>
      show signInIfPossible a.slashed = signInIfPossible a
      unfold signInIfPossible
      rw [signIn_slashed]
      rfl

namespace Step

variable {a : Application} {data : TestData} {scenario : String}

theorem navigateTo_text (a : Application) (url : String) (timeout : Option Int) :
    (navigateTo a (.text url) timeout : Browse σ Unit) =
      Session.goto (resolve a.baseUrl url) (limitOr navigateLimit timeout) := rfl

theorem call_slashed (a : Application) (scenario : String) (function : Value) :
    (call a.slashed scenario function : Browse σ Unit) = call a scenario function := by
  unfold call
  split
  · -- the registry need not be known
    generalize BuiltIn.registry.get? _ = found
    cases found with
    | some action => exact BuiltIn.perform_slashed a scenario action
    | none => rfl
  · rfl
  · rfl

/-- With one more slash at the end of the application's address a step is the step with one more at the beginning of
its own. -/
theorem perform_slashed (st : Step) :
    (st.perform a.slashed data scenario : Browse σ Unit) = st.slashed.perform a data scenario := by
  cases st with
  | navigate url timeout =>
      by_cases htext : ∃ s, url = .text s
      · obtain ⟨s, rfl⟩ := htext
        rw [perform, slashed, perform, navigateTo_text, navigateTo_text, Application.slashed, resolve_slashed]
      · have hsame : slashed (navigate url timeout) = navigate url timeout := by
          rw [slashed]
          exact fun s _ h => htext ⟨s, (navigate.inj h).1⟩
        have hvalue : resolveValue a.slashed.baseUrl url = resolveValue a.baseUrl url := by
          unfold resolveValue
          split
          · next s => exact absurd ⟨s, rfl⟩ htext
          · rfl
          · rfl
        rw [hsame, perform, perform, navigateTo, navigateTo, hvalue]
  | click selector timeout | fill selector value timeout | wait selector timeout => rfl
  | custom function timeout =>
      rw [slashed, perform, perform, call_slashed]
      exact nofun

theorem slashed_of_isRelative_eq_false {st : Step} (h : st.isRelative = false) : st.slashed = st := by
  unfold slashed
  split
  · next url timeout =>
      rw [isRelative, Bool.not_eq_false'] at h
      rw [if_pos h]
  · rfl

end Step

theorem approach_slashed (a : Application) (data : TestData) (s : Scenario) :
    (approach a.slashed data s : Browse σ Unit) = approach a data s.slashed := by
  have hsteps : (performSteps a.slashed data s : Browse σ Unit) = performSteps a data s.slashed := by
    have hall : Step.perform a.slashed data s.name = fun st => (st.slashed.perform a data s.name : Browse σ Unit) :=
      funext Step.perform_slashed
    exact (congrArg s.steps.forM hall).trans List.forM_map.symm
  have hfirst : (signInFirst a.slashed s : Browse σ Unit) = signInFirst a s.slashed := by
    rw [signInFirst, signIn_slashed]
    rfl
  rw [approach, approach, hsteps, hfirst]

/-! ## Steps that a run comes to -/

/-- Steps one after another come to this one: what is done before it ends well. -/
inductive Step.Reached (perform : Step → Browse σ Unit) : Visit σ → List Step → Step → Prop
  | here {v : Visit σ} {st : Step} {after : List Step} : Reached perform v (st :: after) st
  | next {v w : Visit σ} {first st : Step} {after : List Step} (hfirst : (perform first).run.run v = (.ok (), w))
      (h : Reached perform w after st) : Reached perform v (first :: after) st

omit [Page σ] in
theorem Step.mem_of_reached {perform : Step → Browse σ Unit} {v : Visit σ} {steps : List Step} {st : Step}
    (h : Reached perform v steps st) : st ∈ steps := by
  induction h with
  | here => exact List.mem_cons_self ..
  | next _ _ ih => exact List.mem_cons_of_mem _ ih

/-- What is done before the first step of a scenario. -/
def opening (a : Application) (s : Scenario) : Browse σ Unit := do
  modify fun v => { v with recorder := {} }
  Sampling.prepare
  signInFirst a s

/-- What is done behind the last one. -/
def closing (settle : Int) : Browse σ Measured := do
  let url ← Session.url
  Sampling.waitForPageLoad Sampling.defaultLoadLimit
  Sampling.measure settle url (← get).recorder

/-- A run of the scenario comes to this step. -/
def Scenario.Reaches (s : Scenario) (a : Application) (data : TestData) (v : Visit σ) (st : Step) : Prop :=
  ∃ w, (opening a s).run.run v = (.ok (), w) ∧ Step.Reached (Step.perform a data s.name) w s.steps st

theorem runScenario_eq_opening (a : Application) (data : TestData) (settle : Int) (s : Scenario) :
    (runScenario a data settle s : Browse σ Measured) =
      opening a s >>= fun _ => performSteps a data s >>= fun _ => closing settle := by
  simp only [runScenario, approach, opening, closing, bind_assoc]

/-! ## Where two runs part -/

namespace Visit

/-- What was asked for before is not forgotten. -/
def Grows (v w : Visit σ) : Prop := v.calls <+: w.calls

theorem fullTrack_grows : FullTrack (Grows : Visit σ → Visit σ → Prop) where
  refl _ := List.prefix_rfl
  trans _ _ _ := List.IsPrefix.trans
  call _ _ := List.prefix_append ..
  tell _ _ := List.prefix_rfl
  draw _ _ := List.prefix_rfl
  instrument _ := List.prefix_rfl
  record _ _ _ _ := List.prefix_rfl

/-- Two visits asked for the same things up to some point, and then for different ones. -/
def Parted (v w : Visit σ) : Prop :=
  ∃ (before : List Call) (c d : Call), c ≠ d ∧ before ++ [c] <+: v.calls ∧ before ++ [d] <+: w.calls

omit [Page σ] in
/-- They stay parted. -/
theorem Parted.mono {v w v' w' : Visit σ} (h : Parted v w) (hv : Grows v v') (hw : Grows w w') : Parted v' w' := by
  obtain ⟨before, c, d, hne, hc, hd⟩ := h
  exact ⟨before, c, d, hne, hc.trans hv, hd.trans hw⟩

omit [Page σ] in
theorem Parted.ne {v w : Visit σ} (h : Parted v w) : v.calls ≠ w.calls := by
  obtain ⟨before, c, d, hne, hc, hd⟩ := h
  intro hsame
  rw [hsame] at hc
  have hlength : (before ++ [c]).length = (before ++ [d]).length := by
    rw [List.length_append, List.length_append]
    rfl
  have hlist : before ++ [c] = before ++ [d] :=
    (List.prefix_of_prefix_length_le hc hd (Nat.le_of_eq hlength)).eq_of_length hlength
  exact hne (List.singleton_inj.1 (List.append_cancel_left hlist))

omit [Page σ] in
/-- Two computations part whatever follows them. -/
theorem Parted.bind {α β : Type} {b b' : Browse σ α} {k k' : α → Browse σ β} {v : Visit σ}
    (h : Parted (b.run.run v).2 (b'.run.run v).2) (hk : ∀ x, Along Grows (k x)) (hk' : ∀ x, Along Grows (k' x)) :
    Parted ((b >>= k).run.run v).2 ((b' >>= k').run.run v).2 := by
  have hgrows {c : Browse σ α} {l : α → Browse σ β} (hl : ∀ x, Along Grows (l x)) :
      Grows (c.run.run v).2 ((c >>= l).run.run v).2 := by
    rw [run_bind]
    rcases c.run.run v with ⟨r, w⟩
    cases r with
    | ok x => exact hl x w
    | error f => exact List.prefix_rfl
  exact h.mono (hgrows hk) (hgrows hk')

end Visit

namespace Step

variable {a : Application} {data : TestData} {scenario : String}

/-- A step below the application's address goes elsewhere with one more slash at its end. -/
theorem parted_of_isRelative {st : Step} (h : st.isRelative = true) (v : Visit σ) :
    Visit.Parted ((st.perform a.slashed data scenario).run.run v).2 ((st.perform a data scenario).run.run v).2 := by
  unfold isRelative at h
  split at h
  · next url timeout =>
      have hrelative : ¬ "http".toList.isPrefixOf url.toList = true := by
        rwa [Bool.not_eq_true', ← Bool.not_eq_true] at h
      have hrun (b : Application) : ((navigate (.text url) timeout).perform b data scenario : Browse σ Unit) =
          Session.goto (b.baseUrl ++ url) (limitOr navigateLimit timeout) := by
        rw [perform, navigateTo_text, resolve, if_neg hrelative]
      have hgoes (b : Application) :
          v.calls ++ [.goto (b.baseUrl ++ url) "domcontentloaded" (limitOr navigateLimit timeout)] <+:
            (((navigate (.text url) timeout).perform b data scenario).run.run v).2.calls := by
        rw [hrun b, Session.goto, Session.gotoStage, Session.run_order]
        exact List.prefix_rfl
      refine ⟨v.calls, _, _, ?_, hgoes a.slashed, hgoes a⟩
      intro hsame
      have hlength := congrArg String.length (Call.goto.inj hsame).1
      simp only [Application.slashed, String.length_append] at hlength
      have hslash : "/".length = 1 := rfl
      omega
  · cases h

omit [Page σ] in
theorem forM_cons (f : Step → Browse σ Unit) (first : Step) (after : List Step) :
    (first :: after).forM f = f first >>= fun _ => after.forM f := rfl

/-- Steps that come to such a step part there, if not before. -/
theorem parted_of_reached {v : Visit σ} {steps : List Step} {st : Step}
    (h : Reached (perform a data scenario) v steps st) (hst : st.isRelative = true) :
    Visit.Parted ((steps.forM (perform a.slashed data scenario)).run.run v).2
      ((steps.forM (perform a data scenario)).run.run v).2 := by
  have hgrows (b : Application) (after : List Step) :
      ∀ _ : Unit, Along Visit.Grows (after.forM (perform b data scenario) : Browse σ Unit) :=
    fun _ => Visit.fullTrack_grows.forM fun st _ => Visit.fullTrack_grows.anyStep b data scenario st
  induction h with
  | @here v st after =>
      rw [forM_cons, forM_cons]
      exact (parted_of_isRelative hst v).bind (hgrows _ after) (hgrows _ after)
  | @next v w first st after hfirst _ ih =>
      rw [forM_cons, forM_cons]
      cases hrelative : first.isRelative with
      | true => exact (parted_of_isRelative hrelative v).bind (hgrows _ after) (hgrows _ after)
      | false =>
          rw [perform_slashed, slashed_of_isRelative_eq_false hrelative, run_bind, run_bind, hfirst]
          exact ih hst

/-- Steps that come to no such step are the same steps with one more slash. -/
theorem run_of_not_reached {v : Visit σ} {steps : List Step}
    (h : ∀ st, Reached (perform a data scenario) v steps st → st.isRelative = false) :
    (steps.forM (perform a.slashed data scenario)).run.run v = (steps.forM (perform a data scenario)).run.run v := by
  induction steps generalizing v with
  | nil => rfl
  | cons first after ih =>
      rw [forM_cons, forM_cons, perform_slashed, slashed_of_isRelative_eq_false (h first .here), run_bind,
        run_bind]
      rcases hfirst : (first.perform a data scenario).run.run v with ⟨r, w⟩
      cases r with
      | ok _ => exact ih fun st hst => h st (.next hfirst hst)
      | error f => rfl

end Step

theorem opening_slashed (a : Application) (s : Scenario) : (opening a.slashed s : Browse σ Unit) = opening a s := by
  rw [opening, opening, signInFirst, signInFirst, signIn_slashed]
  rfl

theorem along_closing (settle : Int) : Along Visit.Grows (closing settle : Browse σ Measured) := by
  have t := Visit.fullTrack_grows (σ := σ).toTrack
  refine t.bind t.url fun url => t.andThen (t.waitForPageLoad _) (t.bind t.get fun v => ?_)
  exact t.measure settle url v.recorder

/-- One more slash at the end of the application's address makes no difference to signing in and to the built-in
actions, and in a script it is one more at the beginning of each address below that of the application. So it makes no
difference at all to a run that comes to no such step, and else the run asks the page for something else. -/
theorem runScenario_slashed (a : Application) (data : TestData) (settle : Int) (s : Scenario) :
    (signIn a.slashed : Browse σ Unit) = signIn a ∧
    (∀ (action : BuiltIn) (scenario : String),
      (action.perform a.slashed scenario : Browse σ Unit) = action.perform a scenario) ∧
    (runScenario a.slashed data settle s : Browse σ Measured) = runScenario a data settle s.slashed ∧
    ∀ v : Visit σ,
      ((runScenario a.slashed data settle s).run.run v = (runScenario a data settle s).run.run v ↔
        ∀ st, s.Reaches a data v st → st.isRelative = false) ∧
      (((runScenario a.slashed data settle s).run.run v).2.calls = ((runScenario a data settle s).run.run v).2.calls ↔
        ∀ st, s.Reaches a data v st → st.isRelative = false) := by
  refine ⟨signIn_slashed a, fun action scenario => BuiltIn.perform_slashed a scenario action, ?_, fun v => ?_⟩
  · rw [runScenario, approach_slashed, runScenario]
  have hsame (h : ∀ st, s.Reaches a data v st → st.isRelative = false) :
      (runScenario a.slashed data settle s).run.run v = (runScenario a data settle s).run.run v := by
    rw [runScenario_eq_opening, runScenario_eq_opening, opening_slashed, run_bind, run_bind]
    rcases hopening : (opening a s).run.run v with ⟨r, w⟩
    cases r with
    | error f => rfl
    | ok _ =>
        have hsteps : (performSteps a.slashed data s).run.run w = (performSteps a data s).run.run w :=
          Step.run_of_not_reached fun st hst => h st ⟨w, hopening, hst⟩
        dsimp only
        rw [run_bind, run_bind, hsteps]
  have hparted (hcalls : ((runScenario a.slashed data settle s).run.run v).2.calls =
      ((runScenario a data settle s).run.run v).2.calls) : ∀ st, s.Reaches a data v st → st.isRelative = false := by
    rintro st ⟨w, hopening, hst⟩
    refine Bool.eq_false_iff.2 fun hrelative => Visit.Parted.ne ?_ hcalls
    rw [runScenario_eq_opening, runScenario_eq_opening, opening_slashed, run_bind, run_bind, hopening]
    exact (Step.parted_of_reached hst hrelative).bind (fun _ => along_closing settle) fun _ => along_closing settle
  exact ⟨⟨fun hrun => hparted (by rw [hrun]), hsame⟩, hparted, fun h => by rw [hsame h]⟩

/-- A shop with an account, below an address of its own on its host. -/
def shop : Application where
  name := "Shop"
  baseUrl := "http://shop.test/app"
  credentials := some ⟨"user", "secret", ""⟩

/-- A page on which everything succeeds and that has nothing to count. -/
def obliging : FixedPage where
  reply
    | .count _ => .answer (.int 0)
    | _ => .answer .null

/-- A walk through the built-in actions that need an address, and to another site. -/
def tour : Scenario where
  name := "tour"
  steps := [.custom (.text "login") none, .custom (.text "measure-api-response-time") none,
    .custom (.text "measure-form-submission") none, .navigate (.text "http://other.test/") none]

/-- The tour ends well, and is the same with a slash at the end of the shop's address. -/
theorem runScenario_slashed_tour :
    (runScenario shop.slashed {} 1000 tour).run.run obliging.visit =
      (runScenario shop {} 1000 tour).run.run obliging.visit ∧
    ((runScenario shop {} 1000 tour).run.run obliging.visit).1.toOption.isSome = true := by
  have hplain : ∀ st ∈ tour.steps, st.isRelative = false := by decide
  have hsame := (runScenario_slashed shop {} 1000 tour).2.2.2 obliging.visit
  refine ⟨hsame.1.2 ?_, by decide +kernel⟩
  rintro st ⟨_, _, hst⟩
  exact hplain st (Step.mem_of_reached hst)

/-- The second slash of such an address stays. -/
theorem runScenario_doubleSlash :
    let home : Scenario := { name := "home", steps := [.navigate (.text "/start") none], requiresLogin := some false }
    let addresses (a : Application) : List String :=
      ((runScenario a {} 1000 home).run.run obliging.visit).2.calls.filterMap fun
        | .goto url _ _ => some url
        | _ => none
    addresses shop = ["http://shop.test/app/start"] ∧ addresses shop.slashed = ["http://shop.test/app//start"] := by
  decide +kernel

end SiteTrial
