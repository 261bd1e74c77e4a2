import Mathlib.Algebra.Order.BigOperators.Group.Finset
import SiteTrial.Proofs.Config.Loaded
import SiteTrial.Proofs.Run.Accounts
import SiteTrial.Proofs.Run.Rehearsed
import SiteTrial.Proofs.Run.Shared

/-!
# Every sample is where it belongs

The samples of all workers mix in one collector. What each sample says of its origin is enough to take
them apart again: the samples of an application and a scenario are those of one worker, in its order.

* `Worker.originAt` : where the samples of a worker come from;
* `Worker.Accounts.samples_sublist` : the samples of a worker stand for some of its iterations, in order;
* `Log.filter_samples` : the samples of a log that are known to be those of one worker;
* `Run.samples_attributed` : what can be told from the collector of a run.
-/

namespace SiteTrial

/-- Where the sample of an iteration of a worker comes from. -/
def Worker.originAt (p : Plan) (w : Worker) (iteration : Nat) : Origin :=
  { environment := p.config.stage.key, application := (w.application p).name
    scenario := w.name, iteration := iteration }

/-! ## One worker -/

theorem Event.origins_sublist (es : List Event) :
    ((es.filterMap sample?).map Sample.origin).Sublist ((es.filterMap attempt?).map (·.1)) := by
  induction es with
  | nil => exact .slnil
  | cons e es ih =>
      cases e with
      | ran o outcome =>
          cases outcome with
          | ok m => exact ih.cons_cons o
          | error f => exact ih.cons o
      | _ => exact ih

namespace Worker

variable {p : Plan} {w : Worker} {es : List Event}

theorem Ran.origin_eq {scenario : Scenario} {k : Nat} (h : w.Ran p scenario k es) :
    (es.filterMap Event.attempt?).map (·.1) = (List.range' 1 k).map (w.originAt p) := by
  rw [h.origins]
  unfold origin originAt
  rw [name_of_libraryGet h.found]

theorem Ran.samples_sublist {scenario : Scenario} {k : Nat} (h : w.Ran p scenario k es) :
    ((es.filterMap Event.sample?).map Sample.origin).Sublist
      ((List.range' 1 p.iterations.toNat).map (w.originAt p)) := by
  have hsub := Event.origins_sublist es
  rw [h.origin_eq] at hsub
  exact hsub.trans ((List.range'_sublist_right.2 h.bounded).map _)

/-- The samples of a worker stand for some of its iterations, in order, whatever it does next. -/
theorem Accounts.samples_sublist (h : w.Accounts p es) :
    ((es.filterMap Event.sample?).map Sample.origin).Sublist
      ((List.range' 1 p.iterations.toNat).map (w.originAt p)) := by
  unfold Accounts at h
  split at h
  · rw [h]
    exact List.nil_sublist _
  · rw [h.1]
    exact List.nil_sublist _
  · rw [h.1]
    exact List.nil_sublist _
  · obtain ⟨k, -, -, hran, -⟩ := h
    exact hran.samples_sublist
  · exact h.2.1.samples_sublist
  · obtain ⟨⟨scenario, hran⟩, -⟩ := h
    exact hran.samples_sublist
  · obtain ⟨⟨scenario, k, hran⟩, -⟩ := h
    exact hran.samples_sublist
  · cases h with
    | refused hget hown hes | unopened hget hes =>
        rw [hes]
        exact List.nil_sublist _
    | done hran => exact hran.samples_sublist
    | masked hran hbreaks hunclosed => exact hran.samples_sublist
  · cases h with
    | astray hget hown hes | unopened hget hes hown =>
        rw [hes]
        exact List.nil_sublist _
    | running hran hbreaks => exact hran.samples_sublist

end Worker

/-- A worker has at most one sample for an iteration, and none but for its own scenario and
application. -/
theorem Worker.countP_samples_le {p : Plan} {w : Worker} {samples : List Sample}
    (hsub : (samples.map Sample.origin).Sublist
      ((List.range' 1 p.iterations.toNat).map (w.originAt p)))
    (application scenario : String) (i : Int) :
    samples.countP
        (fun s => s.application = application ∧ s.scenario = scenario ∧ s.iteration = i) ≤
      if w.name = scenario ∧ (w.application p).name = application then 1 else 0 := by
  have hmono := hsub.countP_le
    (p := fun o => o.application = application ∧ o.scenario = scenario ∧ o.iteration = i)
  rw [List.countP_map, List.countP_map] at hmono
  refine hmono.trans ?_
  split
  · calc (List.range' 1 p.iterations.toNat).countP _
        ≤ (List.range' 1 p.iterations.toNat).countP (· == i.toNat) := by
          refine List.countP_mono_left fun j _ hj => ?_
          have hji : (j : Int) = i := by simpa [originAt] using (of_decide_eq_true hj).2.2
          simp [← hji]
      _ ≤ 1 := (List.nodup_iff_count_le_one.1 (List.nodup_range' _)) i.toNat
  · next hother =>
      rw [List.countP_eq_zero.2]
      intro j _ hj
      obtain ⟨happ, hscenario, -⟩ := of_decide_eq_true hj
      exact hother ⟨hscenario, happ⟩

/-! ## All workers -/

theorem Config.side_eq_of_name {c : Config} (happs : c.baseline.name ≠ c.candidate.name)
    {a b : Side} (h : (c.application a).name = (c.application b).name) : a = b := by
  cases a <;> cases b
  · rfl
  · exact absurd h happs
  · exact absurd h.symm happs
  · rfl

/-- The samples of a log with a property that tells one worker from all others. -/
theorem Log.filter_samples {l : Log} {n : Nat} {q : Sample → Bool}
    (hq : ∀ e ∈ l, ∀ s, e.2.sample? = some s → (q s = true ↔ e.1 = n)) :
    l.samples.filter q = (Log.of l n).filterMap Event.sample? := by
  induction l with
  | nil => rfl
  | cons e l ih =>
      have ih := ih fun e he => hq e (List.mem_cons_of_mem _ he)
      rw [of_cons]
      cases hs : e.2.sample? with
      | none =>
          rw [samples, List.filterMap_cons_none (f := fun e : Nat × Event => e.2.sample?) hs]
          split
          · rw [List.filterMap_cons_none hs]
            exact ih
          · exact ih
      | some s =>
          have hqs := hq e (List.mem_cons_self ..) s hs
          rw [samples, List.filterMap_cons_some (f := fun e : Nat × Event => e.2.sample?) hs]
          by_cases hn : e.1 = n
          · rw [if_pos hn, List.filter_cons_of_pos (hqs.2 hn), List.filterMap_cons_some hs]
            exact congrArg (s :: ·) ih
          · rw [if_neg hn, List.filter_cons_of_neg fun h => hn (hqs.1 h)]
            exact ih

namespace Run

variable {η : Type} [Host η] {p : Plan} {permits : Nat} {files : Files} {host : η}
  {schedule : List Nat}

theorem samples_sublist {n : Nat} {w : Worker}
    (hw : ((start p permits files host).follow p schedule).workers[n]? = some w) :
    (((Log.of ((start p permits files host).log p schedule) n).filterMap Event.sample?).map
      Sample.origin).Sublist ((List.range' 1 p.iterations.toNat).map (w.originAt p)) :=
  (accounts schedule hw).samples_sublist

/-- A sample that a run has taken is that of one of its workers. -/
theorem exists_worker_of_mem_log {e : Nat × Event} {s : Sample}
    (he : e ∈ (start p permits files host).log p schedule) (hs : e.2.sample? = some s) :
    ∃ w i, ((start p permits files host).follow p schedule).workers[e.1]? = some w ∧
      1 ≤ i ∧ i ≤ p.iterations.toNat ∧ s.origin = w.originAt p i := by
  have hlt := (gathered p permits files host schedule).numbers e he
  have hw := List.getElem?_eq_getElem hlt
  have hmem : s.origin ∈ ((Log.of ((start p permits files host).log p schedule) e.1).filterMap
      Event.sample?).map Sample.origin :=
    List.mem_map_of_mem (List.mem_filterMap.2 ⟨e.2, Log.mem_of_iff.2 he, hs⟩)
  obtain ⟨i, hi, horigin⟩ := List.mem_map.1 ((samples_sublist hw).subset hmem)
  obtain ⟨hfirst, hlast⟩ := List.mem_range'_1.1 hi
  exact ⟨_, i, hw, hfirst, by omega, horigin.symm⟩

omit [Host η] in
/-- Where names differ, a scenario and the name of an application tell a worker from all others. -/
theorem Gathered.eq_of_names {l : Log} {r : Run η} (hgathered : Gathered p files l r)
    (hnames : p.names.Nodup) (happs : p.config.baseline.name ≠ p.config.candidate.name)
    {m n : Nat} {v w : Worker} (hv : r.workers[m]? = some v) (hw : r.workers[n]? = some w)
    (hname : v.name = w.name) (happ : (v.application p).name = (w.application p).name) : m = n := by
  have hside : v.side = w.side := Config.side_eq_of_name happs happ
  have hnodup : (r.workers.map Worker.task).Nodup := by
    rw [hgathered.tasks]
    exact hnames.product (by decide)
  have hlt : m < (r.workers.map Worker.task).length := by
    rw [List.length_map]
    exact (List.getElem?_eq_some_iff.1 hv).1
  refine (List.getElem?_inj hlt hnodup).1 ?_
  rw [List.getElem?_map, List.getElem?_map, hv, hw]
  exact congrArg some (Prod.ext hname hside)

/-- How many workers of a plan have a scenario and an application of some name. -/
theorem sum_tasks_le {c : Config} (happs : c.baseline.name ≠ c.candidate.name)
    (application scenario : String) (names : List String) :
    ((names ×ˢ Side.all).map fun t =>
        if t.1 = scenario ∧ (c.application t.2).name = application then 1 else 0).sum ≤
      names.count scenario := by
  induction names with
  | nil => exact Nat.zero_le _
  | cons name names ih =>
      -- the names of the two applications differ, so one of them at most is the one asked for
      have hhead :
          (if name = scenario ∧ c.baseline.name = application then 1 else 0) +
            ((if name = scenario ∧ c.candidate.name = application then 1 else 0) + 0) ≤
          if name == scenario then 1 else 0 := by
        by_cases hname : name = scenario
        · by_cases hbaseline : c.baseline.name = application
          · have hcandidate : c.candidate.name ≠ application := fun h =>
              happs (hbaseline.trans h.symm)
            simp [hname, hbaseline, hcandidate]
          · simp only [hname, hbaseline, and_false, if_false, beq_self_eq_true, if_true]
            split <;> omega
        · simp [hname]
      rw [List.product_cons, List.map_append, List.sum_append, List.count_cons, Nat.add_comm]
      exact Nat.add_le_add ih hhead

/-- A scenario, an application and an iteration have at most as many samples as the scenario was asked
for. -/
theorem countP_samples_le (happs : p.config.baseline.name ≠ p.config.candidate.name)
    (application scenario : String) (i : Int) :
    (Log.samples ((start p permits files host).log p schedule)).countP
        (fun s => s.application = application ∧ s.scenario = scenario ∧ s.iteration = i) ≤
      p.names.count scenario := by
  have hgathered := gathered p permits files host schedule
  have hsub : ∀ n w, ((start p permits files host).follow p schedule).workers[n]? = some w →
      (((Log.of ((start p permits files host).log p schedule) n).filterMap Event.sample?).map
        Sample.origin).Sublist ((List.range' 1 p.iterations.toNat).map (w.originAt p)) :=
    fun _ _ hw => samples_sublist hw
  generalize (start p permits files host).log p schedule = l at *
  generalize (start p permits files host).follow p schedule = r at *
  let matching : Sample → Bool :=
    fun s => s.application = application ∧ s.scenario = scenario ∧ s.iteration = i
  calc l.samples.countP matching
      = ∑ n : Fin r.workers.length, ((Log.of l n).filterMap Event.sample?).countP matching := by
        rw [Log.samples, List.countP_filterMap]
        simp only [List.countP_filterMap]
        exact Log.countP_eq_sum (fun e => (e.sample?.map matching).getD false) hgathered.numbers
    _ ≤ ∑ n : Fin r.workers.length,
          if r.workers[n.val].name = scenario ∧ (r.workers[n.val].application p).name = application
            then 1 else 0 :=
        Finset.sum_le_sum fun n _ =>
          Worker.countP_samples_le (hsub n _ (List.getElem?_eq_getElem n.isLt)) application scenario i
    _ = ((p.names ×ˢ Side.all).map fun t =>
          if t.1 = scenario ∧ (p.config.application t.2).name = application then 1 else 0).sum := by
        rw [← hgathered.tasks, List.map_map]
        exact Fin.sum_univ_fun_getElem r.workers fun w =>
          if w.name = scenario ∧ (w.application p).name = application then 1 else 0
    _ ≤ p.names.count scenario := sum_tasks_le happs application scenario p.names

/-- The samples of the application and the scenario of a worker are its own. -/
theorem samplesOf_worker (happs : p.config.baseline.name ≠ p.config.candidate.name)
    (hnames : p.names.Nodup) {n : Nat} {w : Worker}
    (hw : ((start p permits files host).follow p schedule).workers[n]? = some w) :
    samplesOf (w.application p).name w.name
        (Log.samples ((start p permits files host).log p schedule)) =
      (Log.of ((start p permits files host).log p schedule) n).filterMap Event.sample? := by
  have hgathered := gathered p permits files host schedule
  refine Log.filter_samples fun e he s hs => ?_
  obtain ⟨v, i, hv, -, -, horigin⟩ := exists_worker_of_mem_log he hs
  have happ : s.application = (v.application p).name := congrArg Origin.application horigin
  have hname : s.scenario = v.name := congrArg Origin.scenario horigin
  rw [Bool.and_eq_true, decide_eq_true_eq, decide_eq_true_eq, happ, hname]
  constructor
  · rintro ⟨happ, hname⟩
    exact hgathered.eq_of_names hnames happs hv hw hname happ
  · rintro rfl
    rw [hw] at hv
    cases hv
    exact ⟨rfl, rfl⟩

/-- Every sample of a run comes from one of the applications, a scenario that was asked for and one of
the iterations. -/
theorem attributed_of_mem_samples {s : Sample}
    (hs : s ∈ Log.samples ((start p permits files host).log p schedule)) :
    (s.application = p.config.baseline.name ∨ s.application = p.config.candidate.name) ∧
      s.scenario ∈ p.names ∧ s.environment = p.config.stage.key ∧
      1 ≤ s.iteration ∧ s.iteration ≤ p.iterations := by
  obtain ⟨e, he, hs⟩ := List.mem_filterMap.1 hs
  obtain ⟨w, i, hw, hfirst, hlast, horigin⟩ := exists_worker_of_mem_log he hs
  have happ : s.application = (w.application p).name := congrArg Origin.application horigin
  have hscenario : s.scenario = w.name := congrArg Origin.scenario horigin
  have hiteration : s.iteration = i := congrArg Origin.iteration horigin
  refine ⟨?_, ?_, congrArg Origin.environment horigin, by omega, by omega⟩
  · rw [happ, Worker.application]
    cases w.side with
    | baseline => exact .inl rfl
    | candidate => exact .inr rfl
  · rw [hscenario]
    exact (gathered p permits files host schedule).name_mem hw

theorem pairwise_samples_worker {n : Nat} {w : Worker}
    (hw : ((start p permits files host).follow p schedule).workers[n]? = some w) :
    ((Log.of ((start p permits files host).log p schedule) n).filterMap Event.sample?).Pairwise
      (fun s t => s.iteration < t.iteration) := by
  have hsub := (samples_sublist hw).map Origin.iteration
  rw [List.map_map, List.map_map] at hsub
  have hsorted : ((List.range' 1 p.iterations.toNat).map
      (Origin.iteration ∘ w.originAt p)).Pairwise (· < ·) :=
    List.pairwise_map.2 ((List.pairwise_lt_range' ..).imp Int.ofNat_lt.2)
  exact List.pairwise_map.1 (hsorted.sublist hsub)

/-- No sample of a run is lost, doubled or taken for that of another worker: each comes from one of the
applications, a scenario that was asked for and one of the iterations; none has more samples than the
scenario was asked for; and with names that differ, the samples of an application and a scenario are what
its worker has sampled, one iteration after another. -/
theorem samples_attributed {source : Files} {path : Option String} {env : Table String}
    (hload : Config.load source path env = .ok p.config) :
    (∀ s ∈ ((start p permits files host).follow p schedule).shared.collector.samples,
      (s.application = p.config.baseline.name ∨ s.application = p.config.candidate.name) ∧
        s.scenario ∈ p.names ∧ s.environment = p.config.stage.key ∧
        1 ≤ s.iteration ∧ s.iteration ≤ p.iterations) ∧
    (∀ application scenario iteration,
      ((start p permits files host).follow p schedule).shared.collector.samples.countP
          (fun s => s.application = application ∧ s.scenario = scenario ∧ s.iteration = iteration) ≤
        p.names.count scenario) ∧
    (p.names.Nodup → ∀ name ∈ p.names, ∀ side, ∃ n w samples,
      ((start p permits files host).follow p schedule).workers[n]? = some w ∧
        w.name = name ∧ w.side = side ∧
        ((start p permits files host).follow p schedule).shared.collector.close.samplesFor
          (p.config.application side).name name = .ok samples ∧
        samples =
          (Log.of ((start p permits files host).log p schedule) n).filterMap Event.sample? ∧
        samples.Pairwise (fun s t => s.iteration < t.iteration)) := by
  have happs := Config.names_ne_of_load hload
  have hgathered := gathered p permits files host schedule
  rw [hgathered.collector]
  refine ⟨fun s hs => attributed_of_mem_samples hs, countP_samples_le happs,
    fun hnames name hname side => ?_⟩
  obtain ⟨n, w, hw, rfl, rfl⟩ := hgathered.exists_worker hname side
  exact ⟨n, w, _, hw, rfl, rfl, congrArg Except.ok (samplesOf_worker happs hnames hw), rfl,
    pairwise_samples_worker hw⟩

/-- The two samples of the application that gets a page, in the order of the iterations. -/
theorem samples_attributed_rehearsed :
    ∃ samples,
      ((start (Rehearsed.plan 2 none) 2 {} Rehearsed.host).follow (Rehearsed.plan 2 none)
          (Rehearsed.inTurn 12)).shared.collector.close.samplesFor
        Rehearsed.config.baseline.name "login" = .ok samples ∧
      samples.length = 2 ∧ samples.Pairwise (fun s t => s.iteration < t.iteration) := by
  obtain ⟨-, -, hsame⟩ := @samples_attributed _ _ (Rehearsed.plan 2 none) 2 {} Rehearsed.host
    (Rehearsed.inTurn 12) {} none [] Rehearsed.load_config
  obtain ⟨n, w, samples, -, -, -, hsamples, -, hsorted⟩ :=
    hsame (by decide) "login" (by decide) .baseline
  have hlength : (((start (Rehearsed.plan 2 none) 2 {} Rehearsed.host).follow (Rehearsed.plan 2 none)
      (Rehearsed.inTurn 12)).shared.collector.close.samplesFor
        (Rehearsed.config.application .baseline).name "login").toOption.map List.length = some 2 := by
    decide +kernel
  refine ⟨samples, hsamples, ?_, hsorted⟩
  have hsome := congrArg (fun r => r.toOption.map List.length) hsamples
  exact Option.some.inj (hsome.symm.trans hlength)

end Run

end SiteTrial
