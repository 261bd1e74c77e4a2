import SiteTrial.Proofs.Page.Ends
import SiteTrial.Proofs.Page.Failing
import SiteTrial.Proofs.Run.Along
import SiteTrial.Proofs.Sample.Asked

/-!
# A run that a failing call stops

Signing in and the steps that only drive the page make something of a failure of the browser in one place, where
the login page is not left in time, and there they throw it again. So a run whose page fails a call ends with this
call, and nothing is measured.

* `stops_signIn`, `Step.stops_perform` : signing in, and a step;
* `arrive`, `stops_arrive` : everything before the page is measured;
* `runScenario_stops` : a run that would have succeeded.
-/

namespace SiteTrial

open Browse (Stops)

variable {σ τ : Type} [Page σ] [Page τ]

/-! ## Signing in -/

namespace SignIn

theorem stops_fillField (field : Value) (text : String) :
    Stops (fillField field text : Browse σ Unit) (fillField field text : Browse τ Unit) :=
  (Session.stops_orderAbout _ _ _).andThen (Session.stops_orderAbout _ _ _)

/-- That the login page is not left in time is said in other words, but it is said. -/
theorem stops_leave (application : String) :
    Stops (leave application : Browse σ Unit) (leave application : Browse τ Unit) := by
  refine Stops.judge (Session.stops_order _ _) (fun r => ?_) fun e w => ?_
  · cases r with
    | ok _ => exact .pure ()
    | error f =>
        cases f with
        | automation e => exact .ite (.throw _) (.throw _)
        | _ => exact .throw _
  · dsimp only
    split
    · exact ⟨.stillOnLoginPage application, rfl⟩
    · exact ⟨e, rfl⟩

theorem stops_checkAccepted (application : String) :
    Stops (checkAccepted application : Browse σ Unit) (checkAccepted application : Browse τ Unit) :=
  (Session.stops_askAbout _ _ _).bind fun _ => (Stops.ofFault _).bind fun _ => .ite (.throw _) (.pure ())

end SignIn

theorem stops_signInAs (application : Application) (account : Credentials) :
    Stops (signInAs application account : Browse σ SignInTimes)
      (signInAs application account : Browse τ SignInTimes) := by
  have hfill := fun field text => (SignIn.stops_fillField (σ := σ) (τ := τ) field text).timed
  refine Stops.now.bind fun start => (Session.stops_order _ _).andThen ?_
  refine (hfill _ _).bind fun username => (hfill _ _).bind fun password => ?_
  refine (Session.stops_orderAbout _ _ _).timed.bind fun submit => ?_
  refine (SignIn.stops_leave _).timed.bind fun redirect => ?_
  exact (SignIn.stops_checkAccepted _).andThen (Stops.now.bind fun _ => .pure _)

theorem stops_signIn (application : Application) :
    Stops (signIn application : Browse σ Unit) (signIn application : Browse τ Unit) := by
  unfold signIn
  split
  · exact .throw _
  · exact (stops_signInAs _ _).bind fun _ => .forM fun _ _ => .record _ _ _

theorem stops_signInFirst (application : Application) (s : Scenario) :
    Stops (signInFirst application s : Browse σ Unit) (signInFirst application s : Browse τ Unit) :=
  .ite (stops_signIn application) (.pure ())

/-! ## Steps -/

namespace Step

theorem stops_valueOf (data : TestData) (value : String) :
    Stops (valueOf data value : Browse σ String) (valueOf data value : Browse τ String) := by
  refine Stops.of_each fun v => ?_
  let filled := fillIn data v.draws value
  have hdraws : Stops (modify fun v => { v with draws := filled.draws } : Browse σ Unit)
      (modify fun v => { v with draws := filled.draws } : Browse τ Unit) :=
    .modify (fun _ => rfl) (fun _ => rfl) fun _ _ => rfl
  have htold : Stops (filled.unresolved.forM fun p => Browse.tell (.unresolvedPlaceholder (String.ofList p)) :
      Browse σ Unit) (filled.unresolved.forM fun p => Browse.tell (.unresolvedPlaceholder (String.ofList p)) :
      Browse τ Unit) := .forM fun _ _ => .tell _
  exact ⟨_, _, hdraws.bind fun _ => htold.bind fun _ => .pure (String.ofList filled.text), rfl, fun _ => rfl⟩

theorem stops_perform (application : Application) (data : TestData) (scenario : String) {st : Step}
    (hst : st.IsPlain) : Stops (st.perform application data scenario : Browse σ Unit)
      (st.perform application data scenario : Browse τ Unit) := by
  have hcall := Session.stops_order (σ := σ) (τ := τ)
  have hcallAbout := Session.stops_orderAbout (σ := σ) (τ := τ)
  cases st with
  | navigate url timeout => exact (Stops.ofFault _).bind fun _ => hcall _ _
  | click selector timeout => exact (hcallAbout _ _ _).andThen ((hcallAbout _ _ _).andThen (hcall _ _))
  | fill selector value timeout =>
      refine (hcallAbout _ _ _).andThen ((stops_valueOf data value).bind fun text => ?_)
      exact (hcallAbout _ _ _).andThen (hcallAbout _ _ _)
  | wait selector timeout => exact .ite (hcallAbout _ _ _) (hcall _ _)
  | custom function timeout => exact absurd hst (not_isPlain_custom function timeout)

end Step

/-! ## The whole run -/

/-- Everything before the page is measured; the answer is the address that was reached. -/
def arrive (application : Application) (data : TestData) (s : Scenario) : Browse σ String := do
  modify fun v => { v with recorder := {} }
  approach application data s
  let url ← Session.url
  Sampling.waitForPageLoad Sampling.defaultLoadLimit
  return url

theorem runScenario_eq (application : Application) (data : TestData) (settle : Int) (s : Scenario) :
    (runScenario application data settle s : Browse σ Measured) =
      arrive application data s >>= fun url => get >>= fun v => Sampling.measure settle url v.recorder := by
  simp only [runScenario, arrive, bind_assoc, pure_bind]

theorem stops_arrive (application : Application) (data : TestData) {s : Scenario}
    (hsteps : ∀ st ∈ s.steps, st.IsPlain) :
    Stops (arrive application data s : Browse σ String) (arrive application data s : Browse τ String) := by
  have hsteps := Stops.forM (σ := σ) (τ := τ) fun st hst =>
    Step.stops_perform application data s.name (hsteps st hst)
  have hload (limit : Int) : Stops (Sampling.waitForPageLoad limit : Browse σ Unit)
      (Sampling.waitForPageLoad limit : Browse τ Unit) :=
    (Session.stops_order _ _).andThen ((Session.stops_order _ _).andThen (Session.stops_order _ _))
  have hfresh : Stops (modify fun v => { v with recorder := {} } : Browse σ Unit)
      (modify fun v => { v with recorder := {} } : Browse τ Unit) :=
    .modify (fun _ => rfl) (fun _ => rfl) fun _ _ => rfl
  refine hfresh.andThen ?_
  refine Stops.andThen (Session.stops_installInstrumentation.andThen ((stops_signInFirst _ s).andThen hsteps)) ?_
  exact Session.stops_url.bind fun url => (hload _).andThen (.pure url)

/-- A run that would have succeeded stops at a call of which the browser fails: instrumentation, sign-in, the steps
that drive the page and the wait for it to load make nothing good again. It makes the calls up to this one and no
other, neither for a later step nor to measure the page, and has no sample to give. -/
theorem runScenario_stops (application : Application) (data : TestData) (settle : Int) {s : Scenario}
    (hsteps : ∀ st ∈ s.steps, st.IsPlain) {v v' : Visit σ} {m : Measured}
    (hrun : (runScenario application data settle s).run.run v = (.ok m, v')) :
    ∃ before, v'.calls = v.calls ++ before ++ Sampling.questions settle ∧ ∀ n < before.length,
      ∀ {τ : Type} [Page τ] (q : τ), Page.FailsAfter n v.page q →
        ∃ e w, (runScenario application data settle s).run.run (v.on q) = (.error (.automation e), w) ∧
          w.calls = v.calls ++ before.take (n + 1) := by
  rw [runScenario_eq] at hrun
  obtain ⟨url, w, harrive, hrun⟩ := exists_of_run_bind hrun
  obtain ⟨_, _, hget, hmeasure⟩ := exists_of_run_bind hrun
  cases hget
  obtain ⟨before, hbefore, -⟩ := stops_arrive (τ := σ) application data hsteps v w _ harrive
  refine ⟨before, ?_, fun n hn τ _ q hq => ?_⟩
  · rw [Sampling.makes_measure settle url _ _ v' m hmeasure, hbefore]
  · obtain ⟨log, hlog, hends⟩ := stops_arrive (τ := τ) application data hsteps v w _ harrive
    have hsame : log = before := List.append_cancel_left (hlog.symm.trans hbefore)
    rw [hsame] at hends
    rcases hends n q hq with ⟨hle, -⟩ | ⟨-, e, u, hfail, hcalls⟩
    · omega
    · refine ⟨e, u, ?_, hcalls⟩
      rw [runScenario_eq, run_bind, hfail]

/-- A page that has something to say to nothing but a question for a number. -/
def willing : FixedPage where
  reply
    | .count _ => .answer (.int 0)
    | _ => .answer .null

/-- A sign-in and one step of each kind. -/
def errand : Scenario where
  name := "errand"
  steps := [.navigate (.text "/start") none, .fill (.text "#q") "shoes" none, .click (.text "#go") (some 500),
    .wait .null none]

def portal : Application where
  name := "Portal"
  baseUrl := "http://portal.test"
  credentials := some ⟨"user", "secret", ""⟩

/-- On such a page the errand takes twenty-one calls until it is measured, and the run ends with whichever of them
takes too long. -/
theorem runScenario_stops_errand :
    (∀ st ∈ errand.steps, st.IsPlain) ∧ ∃ before : List Call, before.length = 21 ∧ ∀ n < 21,
      ∃ e w, (runScenario portal {} 1000 errand).run.run
          (willing.visit.on (⟨willing, n, .timedOut⟩ : Failing FixedPage)) = (.error (.automation e), w) ∧
        w.calls = before.take (n + 1) := by
  have hplain : ∀ st ∈ errand.steps, st.IsPlain := by decide
  have hsuccess : ((runScenario portal {} 1000 errand).run.run willing.visit).1.toOption.isSome = true := by
    decide +kernel
  have hlength : ((runScenario portal {} 1000 errand).run.run willing.visit).2.calls.length = 25 := by
    decide +kernel
  rcases hrun : (runScenario portal {} 1000 errand).run.run willing.visit with ⟨r, after⟩
  rw [hrun] at hsuccess hlength
  change after.calls.length = 25 at hlength
  obtain ⟨m, rfl⟩ := exists_of_isSome hsuccess
  obtain ⟨before, hcalls, hstops⟩ := runScenario_stops portal {} 1000 hplain hrun
  have hbefore : before.length = 21 := by
    have hall : after.calls.length = before.length + 4 := by
      rw [hcalls, List.length_append]
      rfl
    omega
  refine ⟨hplain, before, hbefore, fun n hn => ?_⟩
  have hpage : Page.FailsAfter n willing (⟨willing, n, .timedOut⟩ : Failing FixedPage) :=
    Failing.failsAfter willing n trivial
  exact hstops n (by omega) _ hpage

end SiteTrial
