import SiteTrial.Proofs.Run.Log
import SiteTrial.Proofs.Told

/-!
# The accounts of one worker

Whatever the others do, the events of a worker and its phase fit together: it has run the first
iterations of its scenario, each once and in their order, and knows how many of them failed.

* `Worker.Ran` : the iterations that a worker has run;
* `Worker.Settled`, `Worker.Broke` : the ways in which a worker comes to its end;
* `Worker.Accounts` : what a phase says about the events before it;
* `Run.accounts` : it holds of every worker of a run, behind every schedule.
-/

namespace SiteTrial

/-- A worker with a session has run so many iterations of its scenario, each once and in order. -/
structure Worker.Ran (p : Plan) (w : Worker) (scenario : Scenario) (k : Nat) (es : List Event) :
    Prop where
  found : (p.library.get w.name).answer = .ok scenario
  opened : ∃ session, .opened (.ok session) ∈ es
  bounded : k ≤ p.iterations.toNat
  origins : (es.filterMap Event.attempt?).map (·.1) =
    (List.range' 1 k).map (w.origin p scenario)

/-- How a worker comes to its end, with the number of iterations that it reports as failed. -/
inductive Worker.Settled (p : Plan) (w : Worker) (es : List Event) : Int → Prop
  | refused {f : Failure} (hget : (p.library.get w.name).answer = .error f) (hown : f.isOwn = true)
      (hes : es = []) : Settled p w es p.iterations
  | unopened {scenario : Scenario} {f : Failure}
      (hget : (p.library.get w.name).answer = .ok scenario) (hes : es = [.opened (.error f)]) :
      Settled p w es p.iterations
  | done {scenario : Scenario} (hran : w.Ran p scenario p.iterations.toNat es) :
      Settled p w es (es.countP Event.isFailedRun : Nat)
  /-- A fault ended the iterations, and that the session could not be closed took its place. -/
  | masked {scenario : Scenario} {k : Nat} (hran : w.Ran p scenario k es)
      (hbreaks : ∃ e ∈ es, e.Breaks) (hunclosed : ∃ e ∈ es, e.IsUnclosed) :
      Settled p w es p.iterations

/-- How a worker comes to be broken. -/
inductive Worker.Broke (p : Plan) (w : Worker) (es : List Event) : Prop
  | astray {f : Failure} (hget : (p.library.get w.name).answer = .error f) (hown : f.isOwn = false)
      (hes : es = [])
  | unopened {scenario : Scenario} {f : Failure}
      (hget : (p.library.get w.name).answer = .ok scenario) (hes : es = [.opened (.error f)])
      (hown : f.isOwn = false)
  | running {scenario : Scenario} {k : Nat} (hran : w.Ran p scenario k es)
      (hbreaks : ∃ e ∈ es, e.Breaks)

def Worker.Accounts (p : Plan) (w : Worker) (es : List Event) : Prop :=
  match w.phase with
  | .waiting => es = []
  | .queued scenario | .admitted scenario =>
    es = [] ∧ (p.library.get w.name).answer = .ok scenario
  | .iterating scenario _ iteration failed =>
    ∃ k, iteration = k + 1 ∧ (k : Int) < p.iterations ∧ w.Ran p scenario k es ∧
      failed = es.countP Event.isFailedRun
  | .resting scenario _ iteration failed =>
    (iteration : Int) < p.iterations ∧ w.Ran p scenario iteration es ∧
      failed = es.countP Event.isFailedRun
  | .closing _ (.ok failed) =>
    (∃ scenario, w.Ran p scenario p.iterations.toNat es) ∧ failed = es.countP Event.isFailedRun
  | .closing _ (.error _) => (∃ scenario k, w.Ran p scenario k es) ∧ ∃ e ∈ es, e.Breaks
  | .finished failed => w.Settled p es failed
  | .broken _ => w.Broke p es

namespace Worker

variable {p : Plan} {w : Worker} {es new : List Event} {scenario : Scenario} {k : Nat}

namespace Ran

theorem turned {ph : Phase} (h : w.Ran p scenario k es) :
    Ran p { w with phase := ph } scenario k es := ⟨h.found, h.opened, h.bounded, h.origins⟩

theorem quiet (h : w.Ran p scenario k es) (hnew : new.filterMap Event.attempt? = []) :
    w.Ran p scenario k (es ++ new) := by
  obtain ⟨session, hopened⟩ := h.opened
  refine ⟨h.found, ⟨session, List.mem_append_left new hopened⟩, h.bounded, ?_⟩
  rw [List.filterMap_append, hnew, List.append_nil]
  exact h.origins

theorem next {outcome : Except Failure Measured} (h : w.Ran p scenario k es)
    (hk : (k : Int) < p.iterations)
    (hnew : new.filterMap Event.attempt? = [(w.origin p scenario (k + 1 : Nat), outcome)]) :
    w.Ran p scenario (k + 1) (es ++ new) := by
  obtain ⟨session, hopened⟩ := h.opened
  refine ⟨h.found, ⟨session, List.mem_append_left new hopened⟩, by omega, ?_⟩
  rw [List.filterMap_append, hnew, List.map_append, h.origins, List.range'_1_concat, List.map_append,
    Nat.add_comm 1 k]
  rfl

/-- All iterations, behind which the session was closed or could not be. -/
theorem settled {ph : Phase} {closed : Except Failure Unit}
    (h : w.Ran p scenario p.iterations.toNat es) :
    Settled p { w with phase := ph } (es ++ [.closed closed])
      (es.countP Event.isFailedRun : Nat) := by
  have hcount : (es ++ [Event.closed closed]).countP Event.isFailedRun = es.countP Event.isFailedRun := by
    rw [List.countP_append]
    rfl
  rw [← hcount]
  exact .done (h.quiet rfl).turned

end Ran

/-! ## One action -/

theorem accounts_beginning {session : Nat} (hget : (p.library.get w.name).answer = .ok scenario) :
    Accounts p { w with phase := p.beginning scenario session } [.opened (.ok session)] := by
  have hran : w.Ran p scenario 0 [.opened (.ok session)] :=
    ⟨hget, ⟨session, List.mem_singleton.2 rfl⟩, Nat.zero_le _, rfl⟩
  unfold Plan.beginning
  split
  · next hn => exact ⟨0, rfl, by omega, hran.turned, rfl⟩
  · next hn =>
      have hzero : p.iterations.toNat = 0 := by omega
      exact ⟨⟨scenario, hzero.symm ▸ hran.turned⟩, rfl⟩

theorem accounts_following {session failed : Nat} {pausing : Bool} (hran : w.Ran p scenario k es)
    (hfailed : failed = es.countP Event.isFailedRun) :
    Accounts p { w with phase := p.following scenario session k failed pausing } es := by
  unfold Plan.following
  split
  · next hk =>
      split
      · exact ⟨hk, hran.turned, hfailed⟩
      · exact ⟨k, rfl, hk, hran.turned, hfailed⟩
  · next hk =>
      have hbounded := hran.bounded
      have hlast : p.iterations.toNat = k := by omega
      exact ⟨⟨scenario, hlast.symm ▸ hran.turned⟩, hfailed⟩

theorem accounts_breaking {session : Nat} {f : Failure} {e : Event} (hran : w.Ran p scenario k es)
    (he : e ∈ es) (hbreaks : e.Breaks) :
    Accounts p { w with phase := .closing session (.error f) } es :=
  ⟨⟨scenario, k, hran.turned⟩, e, he, hbreaks⟩

variable {η : Type} [Host η] {s s' : Shared η} {ph : Phase}

theorem Acts.accounts (h : w.Acts p s new ph s') (hacc : w.Accounts p es) :
    Accounts p { w with phase := ph } (es ++ new) := by
  cases h with
  -- before there is a session
  | found hphase hget =>
      rw [Accounts, hphase] at hacc
      rw [List.append_nil]
      exact ⟨hacc, congrArg Prod.fst hget⟩
  | refused hphase hget hown =>
      rw [Accounts, hphase] at hacc
      rw [List.append_nil]
      exact .refused (congrArg Prod.fst hget) hown hacc
  | astray hphase hget hown =>
      rw [Accounts, hphase] at hacc
      rw [List.append_nil]
      exact .astray (congrArg Prod.fst hget) hown hacc
  | admitted hphase hfree =>
      rw [Accounts, hphase] at hacc
      rw [List.append_nil]
      exact hacc
  | opened hphase ht hout =>
      rw [Accounts, hphase] at hacc
      obtain ⟨rfl, hget⟩ := hacc
      exact accounts_beginning hget
  | unopened hphase ht hout hown =>
      rw [Accounts, hphase] at hacc
      obtain ⟨rfl, hget⟩ := hacc
      exact .unopened hget rfl
  | openingBroke hphase ht hout hown =>
      rw [Accounts, hphase] at hacc
      obtain ⟨rfl, hget⟩ := hacc
      exact .unopened hget rfl hown
  -- a scenario was run
  | sampled hphase ht hout hfiled =>
      rw [Accounts, hphase] at hacc
      obtain ⟨k, rfl, hk, hran, hfailed⟩ := hacc
      refine accounts_following (hran.next hk rfl) ?_
      rw [List.countP_append, hfailed]
      rfl
  | @misfiled _ _ _ _ _ m f _ hphase ht hout hfiled =>
      rw [Accounts, hphase] at hacc
      obtain ⟨k, rfl, hk, hran, hfailed⟩ := hacc
      refine accounts_breaking (hran.next hk rfl) (e := .filed (.error f)) ?_ (.inr ⟨f, rfl⟩)
      exact List.mem_append_right es (List.mem_cons_of_mem _ (List.mem_singleton.2 rfl))
  | failed hphase ht hout hown =>
      rw [Accounts, hphase] at hacc
      obtain ⟨k, rfl, hk, hran, hfailed⟩ := hacc
      refine accounts_following (hran.next hk rfl) ?_
      rw [List.countP_append, hfailed]
      rfl
  | runBroke hphase ht hout hown =>
      rw [Accounts, hphase] at hacc
      obtain ⟨k, rfl, hk, hran, hfailed⟩ := hacc
      exact accounts_breaking (hran.next hk rfl) (List.mem_append_right es (List.mem_singleton.2 rfl))
        (Event.breaks_of_sessionFailure rfl hown)
  -- between two iterations
  | paused hphase ht hout =>
      rw [Accounts, hphase] at hacc
      obtain ⟨hk, hran, hfailed⟩ := hacc
      refine ⟨_, rfl, hk, (hran.quiet rfl).turned, ?_⟩
      rw [List.countP_append, hfailed]
      rfl
  | unpaused hphase ht hout hown =>
      rw [Accounts, hphase] at hacc
      obtain ⟨hk, hran, hfailed⟩ := hacc
      refine ⟨_, rfl, hk, (hran.quiet rfl).turned, ?_⟩
      rw [List.countP_append, hfailed]
      rfl
  | pauseBroke hphase ht hout hown =>
      rw [Accounts, hphase] at hacc
      obtain ⟨hk, hran, hfailed⟩ := hacc
      exact accounts_breaking (hran.quiet rfl) (List.mem_append_right es (List.mem_singleton.2 rfl))
        (Event.breaks_of_sessionFailure rfl hown)
  -- the session is closed
  | closed hphase ht hout =>
      rw [Accounts, hphase] at hacc
      obtain ⟨⟨scenario, hran⟩, hfailed⟩ := hacc
      rw [hfailed]
      exact hran.settled
  | ended hphase ht hout =>
      rw [Accounts, hphase] at hacc
      obtain ⟨⟨scenario, k, hran⟩, e, he, hbreaks⟩ := hacc
      exact .running (hran.quiet rfl).turned ⟨e, List.mem_append_left _ he, hbreaks⟩
  | @unclosed session outcome f t hphase ht hout hown =>
      rw [Accounts, hphase] at hacc
      cases outcome with
      | ok failed =>
          obtain ⟨⟨scenario, hran⟩, hfailed⟩ := hacc
          rw [Plan.lost, hfailed]
          exact hran.settled
      | error g =>
          obtain ⟨⟨scenario, k, hran⟩, e, he, hbreaks⟩ := hacc
          exact .masked (hran.quiet rfl).turned ⟨e, List.mem_append_left _ he, hbreaks⟩
            ⟨_, List.mem_append_right es (List.mem_singleton.2 rfl), f, rfl⟩
  | @closingBroke session outcome f t hphase ht hout hown =>
      rw [Accounts, hphase] at hacc
      have hbreaks : ∃ e ∈ es ++ [.closed (.error f)], e.Breaks :=
        ⟨_, List.mem_append_right es (List.mem_singleton.2 rfl),
          Event.breaks_of_sessionFailure rfl hown⟩
      cases outcome with
      | ok failed =>
          obtain ⟨⟨scenario, hran⟩, hfailed⟩ := hacc
          exact .running (hran.quiet rfl).turned hbreaks
      | error g =>
          obtain ⟨⟨scenario, k, hran⟩, -⟩ := hacc
          exact .running (hran.quiet rfl).turned hbreaks

end Worker

/-- Every worker of a run keeps its accounts. -/
theorem Run.accounts {η : Type} [Host η] {p : Plan} {permits : Nat} {files : Files} {host : η}
    (schedule : List Nat) {n : Nat} {w : Worker}
    (hw : ((Run.start p permits files host).follow p schedule).workers[n]? = some w) :
    w.Accounts p (Log.of ((Run.start p permits files host).log p schedule) n) := by
  refine Run.each_worker (fun w hw => ?_) (fun w s es new ph s' h hacc => h.accounts hacc) schedule n w
    hw
  rw [Worker.Accounts, hw]

end SiteTrial
