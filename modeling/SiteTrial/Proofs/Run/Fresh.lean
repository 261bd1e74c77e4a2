import SiteTrial.Proofs.Page.Ends
import SiteTrial.Proofs.Run.Along
import SiteTrial.Proofs.Sample.Recordings

/-!
# Runs that share a recorder

All runs of a session put their recordings into one recorder, whether they end well or fail on the way. Each run
begins by emptying it, so what is measured at the end of one is what was recorded in it.

* `Visit.Adds`, `Visit.Keeps` : what can have happened to the recorder;
* `Interpreter` : what runs one scenario after another; the actions of custom steps are left open;
  `Interpreter.run_standard` : with the built-in actions this is the program's own way;
* `Browse.InTurn`, `Interpreter.Files` : what each of several computations recorded, and each part of a run;
* `Interpreter.exists_files_of_runScenario`, `Interpreter.run_fresh` : the times in a sample are those that were
  recorded in its run.
-/

namespace SiteTrial

open Browse (Along)

variable {σ : Type}

namespace Visit

/-- The recorder holds more than before. -/
def Adds (v w : Visit σ) : Prop := ∃ log, w.recorder = v.recorder.addAll log

/-- The recorder holds what it held before. -/
def Keeps (v w : Visit σ) : Prop := w.recorder = v.recorder

theorem track_keeps [Page σ] : Track (Keeps : Visit σ → Visit σ → Prop) where
  refl _ := rfl
  trans _ _ _ h h' := Eq.trans h' h
  call _ _ := rfl
  tell _ _ := rfl
  draw _ _ := rfl
  instrument _ := rfl

theorem Keeps.adds {v w : Visit σ} (h : Keeps v w) : Adds v w := ⟨[], h⟩

theorem fullTrack_adds [Page σ] : FullTrack (Adds : Visit σ → Visit σ → Prop) where
  refl _ := ⟨[], rfl⟩
  trans u v w := by
    rintro ⟨log, h⟩ ⟨log', h'⟩
    exact ⟨log ++ log', by rw [h', h, Recorder.addAll_append]⟩
  call v c := (track_keeps.call v c).adds
  tell v n := (track_keeps.tell v n).adds
  draw v d := (track_keeps.draw v d).adds
  instrument v := (track_keeps.instrument v).adds
  record _ c key m := ⟨[⟨c, key, m⟩], rfl⟩

end Visit

/-! ## The interpreter -/

/-- What runs scenarios against an application, one after another. -/
structure Interpreter (σ : Type) where
  application : Application
  data : TestData
  settle : Int
  /-- The action of a custom step, in a scenario of some name. -/
  action : (scenario : String) → (function : Value) → Browse σ Unit

namespace Interpreter

variable [Page σ]

def perform (i : Interpreter σ) (scenario : String) : Step → Browse σ Unit
  | .custom function _ => i.action scenario function
  | st => st.perform i.application i.data scenario

/-- A run of a scenario. -/
def run (i : Interpreter σ) (s : Scenario) : Browse σ Measured := do
  modify fun v => { v with recorder := {} }
  Sampling.prepare
  signInFirst i.application s
  s.steps.forM (i.perform s.name)
  let url ← Session.url
  Sampling.waitForPageLoad Sampling.defaultLoadLimit
  Sampling.measure i.settle url (← get).recorder

/-- A visit after runs that may have failed. -/
def after (i : Interpreter σ) (history : List Scenario) (v : Visit σ) : Visit σ :=
  history.foldl (fun v s => ((i.run s).run.run v).2) v

/-- The interpreter with the built-in actions. -/
def standard (application : Application) (data : TestData) (settle : Int) : Interpreter σ where
  application := application
  data := data
  settle := settle
  action := Step.call application

@[simp] theorem action_standard (application : Application) (data : TestData) (settle : Int) :
    (standard application data settle : Interpreter σ).action = Step.call application := rfl

theorem perform_standard (application : Application) (data : TestData) (settle : Int) (scenario : String) :
    (standard application data settle : Interpreter σ).perform scenario =
      Step.perform application data scenario := by
  funext st
  cases st <;> rfl

theorem run_standard (application : Application) (data : TestData) (settle : Int) (s : Scenario) :
    (standard application data settle).run s = (runScenario application data settle s : Browse σ Measured) := by
  simp only [run, perform_standard, runScenario, approach, performSteps, bind_assoc]
  rfl

end Interpreter

/-! ## What is recorded in a run -/

/-- Computations are carried out one after another, and each of them files its recordings. -/
inductive Browse.InTurn : List (Browse σ Unit) → List (List Recording) → Visit σ → Visit σ → Prop
  | nil (v : Visit σ) : InTurn [] [] v v
  | cons {b : Browse σ Unit} {bs : List (Browse σ Unit)} {log : List Recording} {logs : List (List Recording)}
      {u v w : Visit σ} (hrun : b.run.run u = (.ok (), v)) (hlog : v.recorder = u.recorder.addAll log)
      (rest : InTurn bs logs v w) : InTurn (b :: bs) (log :: logs) u w

namespace Browse.InTurn

theorem recorder_eq {bs : List (Browse σ Unit)} {logs : List (List Recording)} {v w : Visit σ}
    (h : InTurn bs logs v w) : w.recorder = v.recorder.addAll logs.flatten := by
  induction h with
  | nil v => rfl
  | cons hrun hlog rest ih => rw [ih, hlog, List.flatten_cons, Recorder.addAll_append]

end Browse.InTurn

/-- Computations that only add to the recorder file recordings, and none if they keep it as it is. -/
theorem Visit.exists_log_of_along {b : Browse σ Unit} {v : Visit σ} (h : Along Adds b) :
    ∃ log, (b.run.run v).2.recorder = v.recorder.addAll log ∧ (Along Keeps b → log = []) := by
  by_cases hkeeps : Along Keeps b
  · exact ⟨[], hkeeps v, fun _ => rfl⟩
  · obtain ⟨log, hlog⟩ := h v
    exact ⟨log, hlog, fun hkeeps' => absurd hkeeps' hkeeps⟩

theorem Browse.exists_inTurn_of_forM {f : Step → Browse σ Unit} {steps : List Step} {v w : Visit σ}
    (hadds : ∀ st, Along Visit.Adds (f st)) (hrun : (steps.forM f).run.run v = (.ok (), w)) :
    ∃ logs, InTurn (steps.map f) logs v w ∧ ∀ p ∈ steps.zip logs, Along Visit.Keeps (f p.1) → p.2 = [] := by
  induction steps generalizing v with
  | nil =>
      cases hrun
      exact ⟨[], .nil _, nofun⟩
  | cons st steps ih =>
      obtain ⟨⟨⟩, u, hfirst, hrun⟩ := exists_of_run_bind hrun
      obtain ⟨log, hlog, hkept⟩ := Visit.exists_log_of_along (v := v) (hadds st)
      obtain ⟨logs, hlogs, hall⟩ := ih hrun
      rw [hfirst] at hlog
      exact ⟨log :: logs, .cons hfirst hlog hlogs, List.forall_mem_cons.2 ⟨hkept, hall⟩⟩

namespace Interpreter

variable [Page σ]

/-- The actions of custom steps can put recordings into the recorder, and nothing else can be done with it. -/
def OnlyAdds (i : Interpreter σ) : Prop := ∀ scenario function, Along Visit.Adds (i.action scenario function)

/-- What the parts of a run file, one after another: the sign-in, and each step. -/
structure Files (i : Interpreter σ) (s : Scenario) (v : Visit σ) (signedIn : List Recording)
    (filed : List (List Recording)) : Prop where
  /-- The run begins with nothing recorded, and its preparation records nothing. -/
  inTurn : ∃ w, Browse.InTurn
    (Sampling.prepare :: signInFirst i.application s :: s.steps.map (i.perform s.name))
    ([] :: signedIn :: filed) { v with recorder := {} } w
  /-- Without a sign-in none is recorded, and steps that only drive the page record nothing. -/
  unsigned : (s.needsLogin && i.application.credentials.isSome) = false → signedIn = []
  plain : ∀ p ∈ s.steps.zip filed, p.1.IsPlain → p.2 = []

theorem keeps_perform (i : Interpreter σ) (scenario : String) {st : Step} (hst : st.IsPlain) :
    Along Visit.Keeps (i.perform scenario st) := by
  have hplain := Visit.track_keeps.plainStep (σ := σ) i.application i.data scenario hst
  cases st with
  | custom function timeout => exact absurd hst (Step.not_isPlain_custom function timeout)
  | _ => exact hplain

theorem OnlyAdds.perform {i : Interpreter σ} (h : i.OnlyAdds) (scenario : String) (st : Step) :
    Along Visit.Adds (i.perform scenario st) := by
  obtain hst | ⟨function, timeout, rfl⟩ := st.isPlain_or_custom
  · exact fun v => (i.keeps_perform scenario hst v).adds
  · exact h scenario function

/-- The metrics of a run that ends well show what its parts have filed. -/
theorem OnlyAdds.exists_files {i : Interpreter σ} (h : i.OnlyAdds) {s : Scenario} {v w : Visit σ} {m : Measured}
    (hrun : (i.run s).run.run v = (.ok m, w)) :
    ∃ signedIn filed, i.Files s v signedIn filed ∧
      m.metrics.Shows (({} : Recorder).addAll (signedIn ++ filed.flatten)) := by
  obtain ⟨_, v₀, hfresh, hrun⟩ := exists_of_run_bind hrun
  cases hfresh
  obtain ⟨⟨⟩, v₁, hprepare, hrun⟩ := exists_of_run_bind hrun
  obtain ⟨⟨⟩, v₂, hsignIn, hrun⟩ := exists_of_run_bind hrun
  obtain ⟨⟨⟩, v₃, hsteps, hrun⟩ := exists_of_run_bind hrun
  obtain ⟨url, _, hurl, hrun⟩ := exists_of_run_bind hrun
  cases hurl
  obtain ⟨⟨⟩, v₄, hload, hrun⟩ := exists_of_run_bind hrun
  obtain ⟨_, _, hget, hmeasure⟩ := exists_of_run_bind hrun
  cases hget
  have hprepared : v₁.recorder = {} := Visit.track_keeps.prepare.of_run hprepare
  have hloaded : v₄.recorder = v₃.recorder := (Visit.track_keeps.waitForPageLoad _).of_run hload
  obtain ⟨signedIn, hsigned, hkept⟩ :=
    Visit.exists_log_of_along (v := v₁) (Visit.fullTrack_adds.signInFirst i.application s)
  rw [hsignIn] at hsigned
  obtain ⟨filed, hfiled, hplain⟩ := Browse.exists_inTurn_of_forM (h.perform s.name) hsteps
  have hturn : Browse.InTurn _ ([] :: signedIn :: filed) { v with recorder := {} } v₃ :=
    .cons hprepare hprepared (.cons hsignIn hsigned hfiled)
  refine ⟨signedIn, filed, ⟨⟨v₃, hturn⟩, fun hno => hkept ?_, fun p hp hst => ?_⟩, ?_⟩
  · unfold signInFirst
    rw [if_neg (by simp [hno])]
    exact Visit.track_keeps.pure ()
  · exact hplain p hp (i.keeps_perform s.name hst)
  · have hshows := Sampling.shows_of_measure hmeasure
    rw [hloaded, hturn.recorder_eq] at hshows
    exact hshows

theorem onlyAdds_standard (application : Application) (data : TestData) (settle : Int) :
    (standard application data settle : Interpreter σ).OnlyAdds := by
  intro scenario function
  rw [action_standard]
  exact Visit.fullTrack_adds.custom application scenario function

/-- The times in a sample of the program's own interpreter are those that signing in and the built-in actions have
filed in its run. -/
theorem exists_files_of_runScenario {application : Application} {data : TestData} {settle : Int} {s : Scenario}
    {v w : Visit σ} {m : Measured} (hrun : (runScenario application data settle s).run.run v = (.ok m, w)) :
    ∃ signedIn filed, (standard application data settle).Files s v signedIn filed ∧
      m.metrics.Shows (({} : Recorder).addAll (signedIn ++ filed.flatten)) := by
  rw [← run_standard] at hrun
  exact (onlyAdds_standard application data settle).exists_files hrun

/-- Runs do not leak recordings into each other: whatever scenarios were run before, and wherever each of them
ended or failed, the metrics of a run that ends well show what its own sign-in and its own custom steps have filed,
beside the timing marks of the page, and it would have come to the same with any other recorder at its beginning. -/
theorem run_fresh {i : Interpreter σ} (hactions : i.OnlyAdds) (history : List Scenario) (s : Scenario)
    (start : Visit σ) {w : Visit σ} {m : Measured}
    (hrun : (i.run s).run.run (i.after history start) = (.ok m, w)) :
    (∃ signedIn filed, i.Files s (i.after history start) signedIn filed ∧
      m.metrics.Shows (({} : Recorder).addAll (signedIn ++ filed.flatten))) ∧
    ∀ earlier, (i.run s).run.run { i.after history start with recorder := earlier } = (.ok m, w) := by
  refine ⟨hactions.exists_files hrun, fun earlier => ?_⟩
  rw [← hrun]
  rfl

/-- An interpreter whose custom steps file a second under the name of their scenario, on a page where nothing can be
clicked. -/
def diary : Interpreter FixedPage where
  application := { name := "Portal", baseUrl := "http://portal.test" }
  data := {}
  settle := 1000
  action scenario _ := Browse.record .navigation scenario (.elapsed 64)

def unclickable : FixedPage where
  reply
    | .click _ => .refused "another element is in front"
    | _ => .answer .null

/-- The first scenario files a time and fails; in the sample of the second one there is no trace of it. -/
theorem run_fresh_failed :
    let first : Scenario := { name := "first", steps := [.custom (.text "note") none, .click (.text "#go") none] }
    let second : Scenario := { name := "second", steps := [.custom (.text "note") none] }
    let before := diary.after [first] unclickable.visit
    ((diary.run first).run.run unclickable.visit).1.toOption.isSome = false ∧
      before.recorder.navigation.keys = ["first"] ∧
      ∃ m w, (diary.run second).run.run before = (.ok m, w) ∧
        (m.metrics.navigationTimes.map fun e => e.1.toText) = ["second"] ∧
        ∃ signedIn filed, diary.Files second before signedIn filed ∧
          m.metrics.Shows (({} : Recorder).addAll (signedIn ++ filed.flatten)) := by
  intro first second before
  have hkeys : ((diary.run second).run.run before).1.toOption.map (fun m =>
      m.metrics.navigationTimes.map fun e => e.1.toText) = some ["second"] := by decide +kernel
  rcases hrun : (diary.run second).run.run before with ⟨r, w⟩
  rw [hrun] at hkeys
  cases r with
  | error f => cases hkeys
  | ok m =>
      have hactions : diary.OnlyAdds := fun scenario _ => Visit.fullTrack_adds.file _ _ _
      obtain ⟨hfiles, -⟩ := run_fresh hactions [first] second unclickable.visit hrun
      exact ⟨by decide +kernel, by decide +kernel, m, w, rfl, Option.some.inj hkeys, hfiles⟩

end Interpreter

end SiteTrial
