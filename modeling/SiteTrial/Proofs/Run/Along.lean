import SiteTrial.Proofs.Page.Along
import SiteTrial.Run.Visit

/-!
# What holds across a script

Signing in, the built-in actions and the steps are put together from calls, notices, draws and recordings. So a
relation that holds across each of these holds across all of them; across a step that only drives the page, which
records nothing, it need not hold across recordings.

* `Visit.Track.signInAs`, `Visit.Track.watch` and others : what is done until times are filed;
* `Visit.FullTrack.signIn`, `Visit.FullTrack.builtIn`, `Visit.FullTrack.custom` : signing in, a built-in action, and
  a custom step;
* `Visit.Track.measure` : the measurement of the page;
* `Step.IsPlain`, `Visit.Track.plainStep`, `Visit.FullTrack.anyStep` : a step that only drives the page, and any step.
-/

namespace SiteTrial

open Browse (Along)

variable {σ : Type} [Page σ] {ρ : Visit σ → Visit σ → Prop}

namespace Visit.Track

theorem fillField (t : Track ρ) (field : Value) (text : String) :
    Along ρ (SignIn.fillField field text : Browse σ Unit) :=
  t.andThen (t.orderAbout _ _ _) (t.orderAbout _ _ _)

theorem leave (t : Track ρ) (application : String) : Along ρ (SignIn.leave application : Browse σ Unit) := by
  refine t.judge (t.order _ _) fun r => ?_
  cases r with
  | ok _ => exact t.pure ()
  | error f =>
      cases f with
      | automation e => exact Along.ite (t.throw _) (t.throw _)
      | _ => exact t.throw _

theorem checkAccepted (t : Track ρ) (application : String) :
    Along ρ (SignIn.checkAccepted application : Browse σ Unit) :=
  t.bind (t.askAbout _ _ _) fun _ => t.bind (t.ofFault _) fun _ => Along.ite (t.throw _) (t.pure ())

/-- Until the times are filed, signing in records nothing. -/
theorem signInAs (t : Track ρ) (application : Application) (account : Credentials) :
    Along ρ (SiteTrial.signInAs application account : Browse σ SignInTimes) := by
  refine t.bind t.now fun start => t.andThen (t.order _ _) ?_
  refine t.bind (t.timed (t.fillField _ _)) fun username => ?_
  refine t.bind (t.timed (t.fillField _ _)) fun password => ?_
  refine t.bind (t.timed (t.orderAbout _ _ _)) fun submit => ?_
  refine t.bind (t.timed (t.leave _)) fun redirect => ?_
  exact t.andThen (t.checkAccepted _) (t.bind t.now fun _ => t.pure _)

/-! ## Built-in actions -/

theorem awaitWidgets (t : Track ρ) : Along ρ (Dashboard.awaitWidgets : Browse σ Unit) := by
  refine t.bind (t.mapM fun w _ => t.bind (t.attempt (t.orderAbout _ _ _)) fun r => t.pure _) fun outcomes => ?_
  refine t.forM fun o _ => ?_
  show Along ρ (Dashboard.judgeGroup o.1 o.2)
  rcases o with ⟨group, r⟩
  cases r with
  | ok _ => exact t.pure ()
  | error f =>
      cases f with
      | automation e => exact t.notice _
      | _ => exact t.throw _

theorem settle (t : Track ρ) : Along ρ (Dashboard.settle : Browse σ Unit) := by
  refine t.bind (t.askAbout _ _ _) fun spinners => t.bind (t.ofFault _) fun any => ?_
  dsimp only
  split
  · exact t.andThen (t.orderAbout _ _ _) (t.order _ _)
  · exact t.order _ _

theorem awaitData (t : Track ρ) : Along ρ (Dashboard.awaitData : Browse σ Unit) := by
  refine t.judge t.settle fun r => ?_
  cases r with
  | ok _ => exact t.pure ()
  | error f =>
      cases f with
      | automation e => exact Along.ite (t.notice _) (t.throw _)
      | _ => exact t.throw _

theorem watch (t : Track ρ) : Along ρ (Dashboard.watch : Browse σ Dashboard.Times) := by
  refine t.bind t.now fun start => ?_
  refine t.bind (t.timed (t.orderAbout _ _ _)) fun container => ?_
  refine t.bind (t.timed (t.orderAbout _ _ _)) fun navigation => ?_
  refine t.bind (t.timed t.awaitWidgets) fun widgets => ?_
  exact t.bind (t.timed t.awaitData) fun data => t.bind t.now fun _ => t.pure _

theorem upload (t : Track ρ) : Along ρ (Upload.perform : Browse σ Unit) := by
  refine t.judge (t.orderAbout _ _ _) fun r => ?_
  cases r with
  | ok _ => exact t.pure ()
  | error f =>
      cases f with
      | automation e => exact t.notice _
      | _ => exact t.throw _

theorem scroll (t : Track ρ) : Along ρ (Interaction.scroll : Browse σ Unit) := by
  refine t.bind (t.ask _ _) fun height => Along.ite ?_ (t.pure ())
  refine t.bind (t.ofFault _) fun tall => Along.ite ?_ (t.pure ())
  exact t.andThen (t.order _ _) (t.andThen (t.order _ _) (t.order _ _))

theorem visitField (t : Track ρ) : Along ρ (Interaction.visitField : Browse σ Unit) := by
  refine t.bind (t.askAbout _ _ _) fun fields => t.bind (t.ofFault _) fun any => Along.ite ?_ (t.pure ())
  refine t.bind (t.ofFault _) fun bound => t.bind (t.drawBelow bound) fun index => ?_
  exact t.andThen (t.orderAbout _ _ _) (t.andThen (t.order _ _) (t.andThen (t.order _ _) (t.orderAbout _ _ _)))

theorem simulate (t : Track ρ) : Along ρ (Interaction.simulate : Browse σ Unit) := by
  refine t.bind t.drawFraction fun part => t.andThen (t.order _ _) ?_
  refine t.andThen (t.order _ _) (t.andThen (t.order _ _) (t.andThen (t.order _ _) ?_))
  exact t.andThen t.scroll t.visitField

theorem submit (t : Track ρ) (application : Application) :
    Along ρ (Submission.submit application : Browse σ Nat) :=
  t.andThen (t.orderAbout _ _ _) (t.andThen (t.orderAbout _ _ _) (t.timed (t.order _ _)))

theorem prepare (t : Track ρ) : Along ρ (Sampling.prepare : Browse σ Unit) := t.installInstrumentation

theorem waitForPageLoad (t : Track ρ) (limit : Int) :
    Along ρ (Sampling.waitForPageLoad limit : Browse σ Unit) :=
  t.andThen (t.order _ _) (t.andThen (t.order _ _) (t.order _ _))

theorem measure (t : Track ρ) (settle : Int) (url : String) (r : Recorder) :
    Along ρ (Sampling.measure settle url r : Browse σ Measured) := by
  have hvitals : Along ρ (Sampling.vitals settle : Browse σ Vitals) := t.bind (t.ask _ _) fun _ => t.ofFault _
  have htimings : Along ρ (Sampling.timings : Browse σ Timings) := by
    refine t.bind (t.ask _ _) fun raw => t.bind (t.ofFault _) fun navigation => ?_
    have hrest : Along ρ (do
        let paint ← Browse.ofFault (Value.member (raw.orElse (.mapping [])) "paint")
        let resources ← Browse.ofFault (Value.member (raw.orElse (.mapping [])) "resources")
        Browse.ofFault (Timings.ofEntries navigation (paint.orElse (.list [])) (resources.orElse (.list []))) :
          Browse σ Timings) := t.bind (t.ofFault _) fun _ => t.bind (t.ofFault _) fun _ => t.ofFault _
    exact .ite (t.bind t.url fun url => t.andThen (t.notice _) hrest) hrest
  have hmetrics : Along ρ (Sampling.metrics r : Browse σ ApplicationMetrics) :=
    t.bind (t.ask _ _) fun _ => t.ofFault _
  refine t.bind t.get fun v => t.bind (t.ask _ _) fun userAgent => ?_
  refine t.bind ?_ fun _ => t.pure _
  refine t.bind (t.attempt hvitals) fun x => t.bind (t.attempt htimings) fun y => ?_
  refine t.bind (t.attempt hmetrics) fun z => ?_
  exact t.bind (t.of x) fun _ => t.bind (t.of y) fun _ => t.bind (t.of z) fun _ => t.pure _

end Visit.Track

/-! ## What is recorded -/

namespace Visit.FullTrack

theorem file (t : FullTrack ρ) (c : Category) (key : String) (m : Measurement) :
    Along ρ (Browse.record c key m : Browse σ Unit) := fun v => t.record v c key m

theorem signIn (t : FullTrack ρ) (application : Application) :
    Along ρ (SiteTrial.signIn application : Browse σ Unit) := by
  unfold SiteTrial.signIn
  split
  · exact t.throw _
  · exact t.bind (t.signInAs _ _) fun times => t.forM fun _ _ => t.file _ _ _

theorem signInFirst (t : FullTrack ρ) (application : Application) (s : Scenario) :
    Along ρ (SiteTrial.signInFirst application s : Browse σ Unit) := .ite (t.signIn application) (t.pure ())

theorem fetch (t : FullTrack ρ) (application : Application) :
    Along ρ (ApiTiming.measure application : Browse σ Unit) := by
  refine t.forM fun endpoint _ => t.bind (t.bind (t.ask _ _) fun v => ?_) fun time => ?_
  · exact .ite (t.pure _) (t.ofFault _)
  · exact .ite (t.file _ _ _) (t.pure ())

theorem builtIn (t : FullTrack ρ) (application : Application) (scenario : String) (action : BuiltIn) :
    Along ρ (action.perform application scenario : Browse σ Unit) := by
  cases action with
  | dashboard => exact t.bind t.watch fun times => t.forM fun _ _ => t.file _ _ _
  | upload => exact t.upload
  | apiTiming => exact t.fetch application
  | interaction => exact t.simulate
  | submission => exact t.bind (t.submit application) fun _ => t.andThen (t.file _ _ _) (t.order _ _)
  | login =>
      show Along ρ (BuiltIn.signInIfPossible application)
      unfold BuiltIn.signInIfPossible
      split
      · exact t.notice _
      · exact t.signIn application

theorem custom (t : FullTrack ρ) (application : Application) (scenario : String) (function : Value) :
    Along ρ (Step.call application scenario function : Browse σ Unit) := by
  unfold Step.call
  split
  · -- the registry need not be known
    generalize BuiltIn.registry.get? _ = found
    cases found with
    | some action => exact t.builtIn application scenario action
    | none => exact t.notice _
  · exact t.throw _
  · exact t.throw _

end Visit.FullTrack

/-! ## Steps -/

namespace Step

/-- A step that only drives the page, without an action of its own. -/
def IsPlain (st : Step) : Prop := st.action ∈ ["navigate", "click", "fill", "wait"]

instance (st : Step) : Decidable st.IsPlain :=
  inferInstanceAs (Decidable (st.action ∈ ["navigate", "click", "fill", "wait"]))

theorem isPlain_or_custom (st : Step) : st.IsPlain ∨ ∃ function timeout, st = custom function timeout := by
  cases st <;> simp [IsPlain, action]

theorem not_isPlain_custom (function : Value) (timeout : Option Int) : ¬ (custom function timeout).IsPlain := by
  simp [IsPlain, action]

end Step

theorem Visit.Track.valueOf (t : Track ρ) (data : TestData) (value : String) :
    Along ρ (Step.valueOf data value : Browse σ String) := by
  refine t.bind t.get fun v => t.andThen (fun w => t.draw w _) ?_
  exact t.andThen (t.forM fun _ _ => t.notice _) (t.pure _)

theorem Visit.Track.plainStep (t : Track ρ) (application : Application) (data : TestData) (scenario : String)
    {st : Step} (hst : st.IsPlain) : Along ρ (st.perform application data scenario : Browse σ Unit) := by
  cases st with
  | navigate url timeout => exact t.bind (t.ofFault _) fun _ => t.order _ _
  | click selector timeout => exact t.andThen (t.orderAbout _ _ _) (t.andThen (t.orderAbout _ _ _) (t.order _ _))
  | fill selector value timeout =>
      refine t.andThen (t.orderAbout _ _ _) (t.bind (t.valueOf data value) fun text => ?_)
      exact t.andThen (t.orderAbout _ _ _) (t.orderAbout _ _ _)
  | wait selector timeout => exact .ite (t.orderAbout _ _ _) (t.order _ _)
  | custom function timeout => exact absurd hst (Step.not_isPlain_custom function timeout)

theorem Visit.FullTrack.anyStep (t : FullTrack ρ) (application : Application) (data : TestData) (scenario : String)
    (st : Step) : Along ρ (st.perform application data scenario : Browse σ Unit) := by
  rcases st.isPlain_or_custom with hplain | ⟨function, timeout, rfl⟩
  · exact t.plainStep application data scenario hplain
  · exact t.custom application scenario function

end SiteTrial
