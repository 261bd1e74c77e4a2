import SiteTrial.Run.Schedule

/-!
# What an action can be

A worker that can act does one of seventeen things. They are told once, with the requests that they
make, the phase that they lead to and what they leave to the other workers; whatever is said of every
action goes through them one by one.

* `Event` : a request of a worker with its outcome; `Event.Breaks` : one that ends its iterations;
* `Worker.events` : the events of one action; `Event.IsAnswer` : they say what the host has answered;
* `Worker.Acts` : the actions that there are; `Worker.acts` : there are no others;
* `Worker.Acts.collector_eq`, `Worker.Acts.files_eq` : what an action puts into the collector and into
  the files;
* `Worker.Acts.fault_eq` : when it breaks its worker.
-/

namespace SiteTrial

/-- A request of a worker, and what came of it. -/
inductive Event where
  | opened (outcome : Except Failure Nat)
  /-- A scenario was run for a sample of this origin. -/
  | ran (o : Origin) (outcome : Except Failure Measured)
  /-- A sample was put into the collector and into the sample file. -/
  | filed (outcome : Except Failure Unit)
  | paused (iteration time : Nat) (outcome : Except Failure Unit)
  | closed (outcome : Except Failure Unit)

namespace Event

/-- The origin and the outcome of a scenario that was run. -/
def attempt? : Event → Option (Origin × Except Failure Measured)
  | .ran o outcome => some (o, outcome)
  | _ => none

/-- The sample of a scenario that was run to its end. -/
def sample? : Event → Option Sample
  | .ran o (.ok m) => some (m.sample o)
  | _ => none

/-- A scenario was run, and failed. -/
def isFailedRun : Event → Bool
  | .ran _ (.error _) => true
  | _ => false

/-- Why a session did not do what it was asked to. -/
def sessionFailure? : Event → Option Failure
  | .opened (.error f) => some f
  | .ran _ (.error f) => some f
  | .paused _ _ (.error f) => some f
  | .closed (.error f) => some f
  | _ => none

/-- A session did what it was asked to, or failed in a way that a run survives. -/
def IsCivil (e : Event) : Prop := ∀ f, e.sessionFailure? = some f → f.isOwn = true

/-- A sample could not be put into the sample file. -/
def IsMisfiled (e : Event) : Prop := ∃ f, e = .filed (.error f)

/-- A session could not be closed. -/
def IsUnclosed (e : Event) : Prop := ∃ f, e = .closed (.error f)

/-- The event ends the iterations of its worker before their time. -/
def Breaks (e : Event) : Prop := ¬ e.IsCivil ∨ e.IsMisfiled

instance (e : Event) : Decidable e.IsCivil :=
  decidable_of_iff (e.sessionFailure?.all Failure.isOwn = true) (Option.all_eq_true ..)

instance (e : Event) : Decidable e.IsMisfiled :=
  match e with
  | .filed (.error f) => .isTrue ⟨f, rfl⟩
  | .filed (.ok _) | .opened _ | .ran _ _ | .paused _ _ _ | .closed _ => .isFalse nofun

instance (e : Event) : Decidable e.Breaks := inferInstanceAs (Decidable (¬ e.IsCivil ∨ e.IsMisfiled))

theorem breaks_of_sessionFailure {e : Event} {f : Failure} (he : e.sessionFailure? = some f)
    (hf : f.isOwn = false) : e.Breaks := by
  refine .inl fun hcivil => ?_
  rw [hcivil f he] at hf
  cases hf

end Event

variable {η : Type}

/-- A sample is kept by the collector, whatever becomes of the sample file. -/
theorem Plan.gather_of_open {p : Plan} {s s' : Shared η} {sample : Sample} {r : Except Failure Unit}
    (hopen : s.collector.closed = false) (h : p.gather s sample = (r, s')) :
    r = (s.files.apply (p.keep sample)).1.mapError .fault ∧
      s' = { s with
        collector := ⟨s.collector.samples ++ [sample], false⟩
        files := (s.files.apply (p.keep sample)).2 } := by
  simp only [gather, Collector.add, hopen, Bool.false_eq_true, if_false] at h
  exact ⟨(congrArg Prod.fst h).symm, (congrArg Prod.snd h).symm⟩

variable [Host η]

/-- What comes of an action. -/
def Worker.events (p : Plan) (w : Worker) (s : Shared η) : List Event :=
  match w.phase with
  | .admitted _ => [.opened (Host.openSession s.host).outcome]
  | .iterating scenario session iteration _ =>
    let t := Host.perform session ⟨w.application p, p.library.testData, scenario⟩ s.host
    let o := w.origin p scenario iteration
    .ran o t.outcome :: match t.outcome with
      | .ok m => [.filed (p.gather (s.after t) (m.sample o)).1]
      | .error _ => []
  | .resting _ session iteration _ =>
    let time := p.config.execution.iterationDelay
    [.paused iteration time (Host.pause session time s.host).outcome]
  | .closing session _ => [.closed (Host.closeSession session s.host).outcome]
  | _ => []

/-- What the event says, a host of the kind has answered. -/
def Event.IsAnswer (η : Type) [Host η] : Event → Prop
  | .opened outcome => ∃ host : η, outcome = (Host.openSession host).outcome
  | .ran _ outcome =>
    ∃ (session : Nat) (errand : Errand) (host : η), outcome = (Host.perform session errand host).outcome
  | .filed _ => True
  | .paused _ time outcome =>
    ∃ (session : Nat) (host : η), outcome = (Host.pause session time host).outcome
  | .closed outcome => ∃ (session : Nat) (host : η), outcome = (Host.closeSession session host).outcome

theorem Worker.isAnswer_events {p : Plan} {w : Worker} {s : Shared η} :
    ∀ e ∈ w.events p s, e.IsAnswer η := by
  intro e he
  unfold events at he
  split at he
  · obtain rfl := List.mem_singleton.1 he
    exact ⟨_, rfl⟩
  · rcases List.mem_cons.1 he with rfl | he
    · exact ⟨_, _, _, rfl⟩
    · split at he
      · obtain rfl := List.mem_singleton.1 he
        trivial
      · cases he
  · obtain rfl := List.mem_singleton.1 he
    exact ⟨_, _, rfl⟩
  · obtain rfl := List.mem_singleton.1 he
    exact ⟨_, _, rfl⟩
  · cases he

/-- How many iterations count as failed where a session cannot be closed. -/
def Plan.lost (p : Plan) : Except Failure Nat → Int
  | .ok failed => failed
  | .error _ => p.iterations

/-- The actions that there are: what comes of them, the phase that they lead to, and what is shared
then. -/
inductive Worker.Acts (p : Plan) (w : Worker) (s : Shared η) :
    List Event → Phase → Shared η → Prop
  | found {scenario : Scenario} {notices : List Notice} (hphase : w.phase = .waiting)
      (hget : (p.library.get w.name).outcome = (.ok scenario, notices)) :
      Acts p w s [] (.queued scenario) { s with notices := s.notices ++ notices }
  | refused {f : Failure} {notices : List Notice} (hphase : w.phase = .waiting)
      (hget : (p.library.get w.name).outcome = (.error f, notices)) (hown : f.isOwn = true) :
      Acts p w s [] (.finished p.iterations)
        (({ s with notices := s.notices ++ notices }).tell
          (.scenarioRefused (w.application p).name w.name f.message))
  | astray {f : Failure} {notices : List Notice} (hphase : w.phase = .waiting)
      (hget : (p.library.get w.name).outcome = (.error f, notices)) (hown : f.isOwn = false) :
      Acts p w s [] (.broken f) (({ s with notices := s.notices ++ notices }).breakWith f)
  | admitted {scenario : Scenario} (hphase : w.phase = .queued scenario) (hfree : 0 < s.permits) :
      Acts p w s [] (.admitted scenario) { s with permits := s.permits - 1 }
  | opened {scenario : Scenario} {session : Nat} {t : Turn η Nat}
      (hphase : w.phase = .admitted scenario) (ht : Host.openSession s.host = t)
      (hout : t.outcome = .ok session) :
      Acts p w s [.opened (.ok session)] (p.beginning scenario session) (s.after t).enter
  | unopened {scenario : Scenario} {f : Failure} {t : Turn η Nat}
      (hphase : w.phase = .admitted scenario) (ht : Host.openSession s.host = t)
      (hout : t.outcome = .error f) (hown : f.isOwn = true) :
      Acts p w s [.opened (.error f)] (.finished p.iterations)
        ((s.after t).release.tell (.sessionFailed (w.application p).name w.name f.message))
  | openingBroke {scenario : Scenario} {f : Failure} {t : Turn η Nat}
      (hphase : w.phase = .admitted scenario) (ht : Host.openSession s.host = t)
      (hout : t.outcome = .error f) (hown : f.isOwn = false) :
      Acts p w s [.opened (.error f)] (.broken f) ((s.after t).release.breakWith f)
  | sampled {scenario : Scenario} {session iteration failed : Nat} {t : Turn η Measured}
      {m : Measured} {s' : Shared η} (hphase : w.phase = .iterating scenario session iteration failed)
      (ht : Host.perform session ⟨w.application p, p.library.testData, scenario⟩ s.host = t)
      (hout : t.outcome = .ok m)
      (hfiled : p.gather (s.after t) (m.sample (w.origin p scenario iteration)) = (.ok (), s')) :
      Acts p w s [.ran (w.origin p scenario iteration) (.ok m), .filed (.ok ())]
        (p.following scenario session iteration failed true) s'
  | misfiled {scenario : Scenario} {session iteration failed : Nat} {t : Turn η Measured}
      {m : Measured} {f : Failure} {s' : Shared η}
      (hphase : w.phase = .iterating scenario session iteration failed)
      (ht : Host.perform session ⟨w.application p, p.library.testData, scenario⟩ s.host = t)
      (hout : t.outcome = .ok m)
      (hfiled : p.gather (s.after t) (m.sample (w.origin p scenario iteration)) = (.error f, s')) :
      Acts p w s [.ran (w.origin p scenario iteration) (.ok m), .filed (.error f)]
        (.closing session (.error f)) s'
  | failed {scenario : Scenario} {session iteration failed : Nat} {t : Turn η Measured} {f : Failure}
      (hphase : w.phase = .iterating scenario session iteration failed)
      (ht : Host.perform session ⟨w.application p, p.library.testData, scenario⟩ s.host = t)
      (hout : t.outcome = .error f) (hown : f.isOwn = true) :
      Acts p w s [.ran (w.origin p scenario iteration) (.error f)]
        (p.following scenario session iteration (failed + 1) false)
        ((s.after t).tell (.iterationFailed (w.application p).name scenario.name iteration
          p.iterations.toNat f.message))
  | runBroke {scenario : Scenario} {session iteration failed : Nat} {t : Turn η Measured} {f : Failure}
      (hphase : w.phase = .iterating scenario session iteration failed)
      (ht : Host.perform session ⟨w.application p, p.library.testData, scenario⟩ s.host = t)
      (hout : t.outcome = .error f) (hown : f.isOwn = false) :
      Acts p w s [.ran (w.origin p scenario iteration) (.error f)] (.closing session (.error f))
        (s.after t)
  | paused {scenario : Scenario} {session iteration failed : Nat} {t : Turn η Unit}
      (hphase : w.phase = .resting scenario session iteration failed)
      (ht : Host.pause session p.config.execution.iterationDelay s.host = t)
      (hout : t.outcome = .ok ()) :
      Acts p w s [.paused iteration p.config.execution.iterationDelay (.ok ())]
        (.iterating scenario session (iteration + 1) failed) (s.after t)
  | unpaused {scenario : Scenario} {session iteration failed : Nat} {t : Turn η Unit} {f : Failure}
      (hphase : w.phase = .resting scenario session iteration failed)
      (ht : Host.pause session p.config.execution.iterationDelay s.host = t)
      (hout : t.outcome = .error f) (hown : f.isOwn = true) :
      Acts p w s [.paused iteration p.config.execution.iterationDelay (.error f)]
        (.iterating scenario session (iteration + 1) failed)
        ((s.after t).tell (.pauseFailed (w.application p).name scenario.name f.message))
  | pauseBroke {scenario : Scenario} {session iteration failed : Nat} {t : Turn η Unit} {f : Failure}
      (hphase : w.phase = .resting scenario session iteration failed)
      (ht : Host.pause session p.config.execution.iterationDelay s.host = t)
      (hout : t.outcome = .error f) (hown : f.isOwn = false) :
      Acts p w s [.paused iteration p.config.execution.iterationDelay (.error f)]
        (.closing session (.error f)) (s.after t)
  | closed {session failed : Nat} {t : Turn η Unit} (hphase : w.phase = .closing session (.ok failed))
      (ht : Host.closeSession session s.host = t) (hout : t.outcome = .ok ()) :
      Acts p w s [.closed (.ok ())] (.finished failed) (s.after t).leave.release
  | ended {session : Nat} {f : Failure} {t : Turn η Unit}
      (hphase : w.phase = .closing session (.error f))
      (ht : Host.closeSession session s.host = t) (hout : t.outcome = .ok ()) :
      Acts p w s [.closed (.ok ())] (.broken f) ((s.after t).leave.release.breakWith f)
  | unclosed {session : Nat} {outcome : Except Failure Nat} {f : Failure} {t : Turn η Unit}
      (hphase : w.phase = .closing session outcome)
      (ht : Host.closeSession session s.host = t) (hout : t.outcome = .error f)
      (hown : f.isOwn = true) :
      Acts p w s [.closed (.error f)] (.finished (p.lost outcome))
        ((s.after t).leave.release.tell
          (.sessionFailed (w.application p).name w.name f.message))
  | closingBroke {session : Nat} {outcome : Except Failure Nat} {f : Failure} {t : Turn η Unit}
      (hphase : w.phase = .closing session outcome)
      (ht : Host.closeSession session s.host = t) (hout : t.outcome = .error f)
      (hown : f.isOwn = false) :
      Acts p w s [.closed (.error f)] (.broken f) ((s.after t).leave.release.breakWith f)

namespace Worker

variable {p : Plan} {w : Worker} {s : Shared η}

/-! ## There are no others -/

theorem acts_waiting (hphase : w.phase = .waiting) :
    w.Acts p s [] (w.ask p s).1 (w.ask p s).2 := by
  unfold ask
  rcases hget : (p.library.get w.name).outcome with ⟨found, notices⟩
  cases found with
  | ok scenario => exact .found hphase hget
  | error f =>
      by_cases hown : f.isOwn = true
      · simp only [if_pos hown]
        exact .refused hphase hget hown
      · simp only [if_neg hown]
        exact .astray hphase hget (Bool.eq_false_iff.2 hown)

theorem acts_admitted {scenario : Scenario} (hphase : w.phase = .admitted scenario) :
    w.Acts p s [.opened (Host.openSession s.host).outcome] (w.enter p scenario s).1
      (w.enter p scenario s).2 := by
  unfold enter
  rcases ht : Host.openSession s.host with ⟨outcome, notices, host⟩
  cases outcome with
  | ok session => exact .opened hphase ht rfl
  | error f =>
      by_cases hown : f.isOwn = true
      · simp only [if_pos hown]
        exact .unopened hphase ht rfl hown
      · simp only [if_neg hown]
        exact .openingBroke hphase ht rfl (Bool.eq_false_iff.2 hown)

theorem acts_iterating {scenario : Scenario} {session iteration failed : Nat}
    (hphase : w.phase = .iterating scenario session iteration failed) :
    w.Acts p s (w.events p s) (w.iterate p scenario session iteration failed s).1
      (w.iterate p scenario session iteration failed s).2 := by
  simp only [events, hphase]
  unfold iterate
  rcases ht : Host.perform session ⟨w.application p, p.library.testData, scenario⟩ s.host with
    ⟨outcome, notices, host⟩
  cases outcome with
  | ok m =>
      dsimp only
      rcases hfiled : p.gather (s.after ⟨.ok m, notices, host⟩)
        (m.sample (w.origin p scenario iteration)) with ⟨filed, s'⟩
      cases filed with
      | ok u => exact .sampled hphase ht rfl hfiled
      | error f => exact .misfiled hphase ht rfl hfiled
  | error f =>
      by_cases hown : f.isOwn = true
      · simp only [if_pos hown]
        exact .failed hphase ht rfl hown
      · simp only [if_neg hown]
        exact .runBroke hphase ht rfl (Bool.eq_false_iff.2 hown)

theorem acts_resting {scenario : Scenario} {session iteration failed : Nat}
    (hphase : w.phase = .resting scenario session iteration failed) :
    w.Acts p s (w.events p s) (w.rest p scenario session iteration failed s).1
      (w.rest p scenario session iteration failed s).2 := by
  simp only [events, hphase]
  unfold rest
  rcases ht : Host.pause session p.config.execution.iterationDelay s.host with
    ⟨outcome, notices, host⟩
  cases outcome with
  | ok u => exact .paused hphase ht rfl
  | error f =>
      by_cases hown : f.isOwn = true
      · simp only [if_pos hown]
        exact .unpaused hphase ht rfl hown
      · simp only [if_neg hown]
        exact .pauseBroke hphase ht rfl (Bool.eq_false_iff.2 hown)

theorem acts_closing {session : Nat} {outcome : Except Failure Nat}
    (hphase : w.phase = .closing session outcome) :
    w.Acts p s (w.events p s) (w.close p session outcome s).1 (w.close p session outcome s).2 := by
  simp only [events, hphase]
  unfold close ending
  rcases ht : Host.closeSession session s.host with ⟨closed, notices, host⟩
  cases closed with
  | ok u =>
      cases outcome with
      | ok failed => exact .closed hphase ht rfl
      | error f => exact .ended hphase ht rfl
  | error f =>
      by_cases hown : f.isOwn = true
      · simp only [if_pos hown]
        cases outcome <;> exact .unclosed hphase ht rfl hown
      · simp only [if_neg hown]
        exact .closingBroke hphase ht rfl (Bool.eq_false_iff.2 hown)

/-- An action of a worker that can act is one of those that there are. -/
theorem acts (h : w.canAct s = true) :
    w.Acts p s (w.events p s) (w.act p s).1 (w.act p s).2 := by
  unfold act
  cases hphase : w.phase with
  | waiting =>
      simp only [events, hphase]
      exact acts_waiting hphase
  | queued scenario =>
      simp only [canAct, hphase, decide_eq_true_eq] at h
      simp only [events, hphase]
      exact .admitted hphase h
  | admitted scenario =>
      simp only [events, hphase]
      exact acts_admitted hphase
  | iterating scenario session iteration failed => exact acts_iterating hphase
  | resting scenario session iteration failed => exact acts_resting hphase
  | closing session outcome => exact acts_closing hphase
  | finished failed =>
      rw [canAct, hphase] at h
      cases h
  | broken f =>
      rw [canAct, hphase] at h
      cases h

/-! ## What an action leaves to the others -/

variable {es : List Event} {ph : Phase} {s' : Shared η}

/-- An action adds its sample to the collector, and nothing else. -/
theorem Acts.collector_eq (h : w.Acts p s es ph s') (hopen : s.collector.closed = false) :
    s'.collector = ⟨s.collector.samples ++ es.filterMap Event.sample?, false⟩ := by
  have hkept : s.collector = ⟨s.collector.samples ++ [], false⟩ := by
    rw [List.append_nil, ← hopen]
  cases h with
  | sampled hphase ht hout hfiled | misfiled hphase ht hout hfiled =>
      obtain ⟨-, rfl⟩ := Plan.gather_of_open (s := s.after _) hopen hfiled
      rfl
  | _ => exact hkept

theorem Acts.files_eq (h : w.Acts p s es ph s') (hopen : s.collector.closed = false) :
    s'.files = (es.filterMap Event.sample?).foldl (fun fs x => (fs.apply (p.keep x)).2) s.files := by
  cases h with
  | sampled hphase ht hout hfiled | misfiled hphase ht hout hfiled =>
      obtain ⟨-, rfl⟩ := Plan.gather_of_open (s := s.after _) hopen hfiled
      rfl
  | _ => rfl

theorem beginning_ne_broken (scenario : Scenario) (session : Nat) (f : Failure) :
    p.beginning scenario session ≠ .broken f := by
  unfold Plan.beginning
  split <;> simp

theorem following_ne_broken (scenario : Scenario) (session iteration failed : Nat) (pausing : Bool)
    (f : Failure) : p.following scenario session iteration failed pausing ≠ .broken f := by
  unfold Plan.following
  split
  · split <;> simp
  · simp

theorem Acts.ne_broken (h : w.Acts p s es ph s') (f : Failure) : w.phase ≠ .broken f := by
  cases h <;> simp_all only [ne_eq, reduceCtorEq, not_false_eq_true]

/-- An action that breaks a worker states its fault, unless there was one before; no other does. -/
theorem Acts.fault_eq (h : w.Acts p s es ph s') (hopen : s.collector.closed = false) :
    (∃ f, ph = .broken f ∧ s'.fault = s.fault.or (some f)) ∨
      ((∀ f, ph ≠ .broken f) ∧ s'.fault = s.fault) := by
  cases h with
  | astray | openingBroke | ended | closingBroke => exact .inl ⟨_, rfl, rfl⟩
  | opened => exact .inr ⟨beginning_ne_broken _ _, rfl⟩
  | sampled hphase ht hout hfiled =>
      obtain ⟨-, rfl⟩ := Plan.gather_of_open (s := s.after _) hopen hfiled
      exact .inr ⟨following_ne_broken _ _ _ _ _, rfl⟩
  | misfiled hphase ht hout hfiled =>
      obtain ⟨-, rfl⟩ := Plan.gather_of_open (s := s.after _) hopen hfiled
      exact .inr ⟨nofun, rfl⟩
  | failed => exact .inr ⟨following_ne_broken _ _ _ _ _, rfl⟩
  | _ => exact .inr ⟨nofun, rfl⟩

end Worker

end SiteTrial
