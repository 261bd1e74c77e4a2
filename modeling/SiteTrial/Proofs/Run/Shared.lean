import Mathlib.Algebra.BigOperators.Fin
import Mathlib.Data.List.Nodup
import SiteTrial.Proofs.Run.Log

/-!
# What the workers share

Behind every schedule the log of a run determines what its workers have gathered.

* `Log.samples` : the samples that were taken, in their order; `Sample.origin` : where one comes from;
* `Log.countP_eq_sum` : what is counted in a log is counted worker by worker;
* `Worker.task` : what a worker is asked to run, and where;
* `Run.Gathered` : the collector holds them and the files got them, a run has a fault exactly if one of
  its workers is broken, and every event is that of one of the workers of the plan;
* `Run.gathered` : this holds behind every schedule.
-/

namespace SiteTrial

/-- Where a sample says that it comes from. -/
def Sample.origin (s : Sample) : Origin := ⟨s.environment, s.application, s.scenario, s.iteration⟩

def Log.samples (l : Log) : List Sample := l.filterMap fun e => e.2.sample?

theorem Log.samples_append_worker (l : Log) (n : Nat) (es : List Event) :
    Log.samples (l ++ es.map (n, ·)) = l.samples ++ es.filterMap Event.sample? := by
  rw [samples, List.filterMap_append, List.filterMap_map]
  rfl

theorem Log.countP_eq_sum (q : Event → Bool) {l : Log} {workers : Nat}
    (hl : ∀ e ∈ l, e.1 < workers) :
    l.countP (fun e => q e.2) = ∑ n : Fin workers, (l.of n).countP q := by
  induction l with
  | nil => simp
  | cons e l ih =>
      have hlt : e.1 < workers := hl e (List.mem_cons_self ..)
      have hof : ∀ n : Fin workers, (Log.of (e :: l) n).countP q =
          (Log.of l n).countP q + if n = ⟨e.1, hlt⟩ then (if q e.2 then 1 else 0) else 0 := by
        intro n
        rw [Log.of_cons]
        by_cases hn : n = ⟨e.1, hlt⟩
        · rw [if_pos hn, if_pos (congrArg Fin.val hn.symm), List.countP_cons]
        · rw [if_neg hn, if_neg fun h => hn (Fin.ext h.symm)]
          rfl
      rw [List.countP_cons, ih fun e he => hl e (List.mem_cons_of_mem _ he),
        Finset.sum_congr rfl fun n _ => hof n, Finset.sum_add_distrib, Finset.sum_ite_eq',
        if_pos (Finset.mem_univ _)]

def Worker.task (w : Worker) : String × Side := (w.name, w.side)

/-- How the log of a run that began with some files fits what its workers share. -/
structure Run.Gathered {η : Type} (p : Plan) (files : Files) (l : Log) (r : Run η) : Prop where
  collector : r.shared.collector = ⟨l.samples, false⟩
  files : r.shared.files = l.samples.foldl (fun fs x => (fs.apply (p.keep x)).2) files
  fault : r.shared.fault.isSome = true ↔ ∃ w ∈ r.workers, ∃ f, w.phase = .broken f
  tasks : r.workers.map Worker.task = p.names ×ˢ Side.all
  numbers : ∀ e ∈ l, e.1 < r.workers.length

namespace Run

theorem task_workersOf (names : List String) :
    (workersOf names).map Worker.task = names ×ˢ Side.all := by
  induction names with
  | nil => rfl
  | cons name names ih =>
      rw [workersOf, List.flatMap_cons, List.map_append, List.product_cons, ← ih]
      rfl

theorem broken_set_iff {workers : List Worker} {n : Nat} {w w' : Worker}
    (hw : workers[n]? = some w) (h : ∀ f, w.phase ≠ .broken f) (h' : ∀ f, w'.phase ≠ .broken f) :
    (∃ v ∈ workers.set n w', ∃ f, v.phase = .broken f) ↔ ∃ v ∈ workers, ∃ f, v.phase = .broken f := by
  obtain ⟨hlt, hget⟩ := List.getElem?_eq_some_iff.1 hw
  constructor
  · rintro ⟨v, hv, f, hf⟩
    rcases List.mem_or_eq_of_mem_set hv with hv | rfl
    · exact ⟨v, hv, f, hf⟩
    · exact absurd hf (h' f)
  · rintro ⟨v, hv, f, hf⟩
    obtain ⟨k, hk⟩ := List.mem_iff_getElem?.1 hv
    have hne : n ≠ k := by
      rintro rfl
      rw [hw] at hk
      cases hk
      exact h f hf
    refine ⟨v, List.mem_of_getElem? (i := k) ?_, f, hf⟩
    rw [List.getElem?_set_ne hne]
    exact hk

theorem tasks_set {workers : List Worker} {n : Nat} {w w' : Worker} (hw : workers[n]? = some w)
    (h : w'.task = w.task) : (workers.set n w').map Worker.task = workers.map Worker.task := by
  rw [List.map_set, h]
  apply List.ext_getElem?
  intro k
  rw [List.getElem?_set]
  split
  · next hk =>
      subst hk
      rw [List.getElem?_map, hw, List.length_map]
      obtain ⟨hlt, -⟩ := List.getElem?_eq_some_iff.1 hw
      rw [if_pos hlt]
      rfl
  · rfl

variable {η : Type} {p : Plan} {files : Files}

theorem gathered_start (permits : Nat) (host : η) :
    Gathered p files [] (start p permits files host) where
  collector := rfl
  files := rfl
  fault := by
    refine ⟨nofun, ?_⟩
    rintro ⟨w, hw, f, hf⟩
    obtain ⟨n, hn⟩ := List.mem_iff_getElem?.1 hw
    rw [workers_start hn] at hf
    cases hf
  tasks := task_workersOf p.names
  numbers := fun _ h => absurd h List.not_mem_nil

theorem Gathered.length_workers {l : Log} {r : Run η} (h : Gathered p files l r) :
    r.workers.length = p.names.length * 2 := by
  rw [← List.length_map Worker.task, h.tasks, List.length_product]
  rfl

theorem Gathered.exists_worker {l : Log} {r : Run η} (h : Gathered p files l r) {name : String}
    (hname : name ∈ p.names) (side : Side) :
    ∃ (n : Nat) (w : Worker), r.workers[n]? = some w ∧ w.name = name ∧ w.side = side := by
  have htask : (name, side) ∈ r.workers.map Worker.task := by
    rw [h.tasks]
    exact List.mem_product.2 ⟨hname, by cases side <;> decide⟩
  obtain ⟨w, hmem, htask⟩ := List.mem_map.1 htask
  obtain ⟨n, hw⟩ := List.mem_iff_getElem?.1 hmem
  exact ⟨n, w, hw, congrArg Prod.fst htask, congrArg Prod.snd htask⟩

theorem Gathered.name_mem {l : Log} {r : Run η} (h : Gathered p files l r) {n : Nat} {w : Worker}
    (hw : r.workers[n]? = some w) : w.name ∈ p.names := by
  have htask : w.task ∈ p.names ×ˢ Side.all := by
    rw [← h.tasks]
    exact List.mem_map_of_mem (List.mem_of_getElem? hw)
  exact (List.mem_product.1 htask).1

/-- Two runs of a plan have the same workers, whatever these have done. -/
theorem Gathered.exists_same {η' : Type} {files' : Files} {l l' : Log} {r : Run η} {r' : Run η'}
    (h : Gathered p files l r) (h' : Gathered p files' l' r') {n : Nat} {w : Worker}
    (hw : r.workers[n]? = some w) : ∃ v, r'.workers[n]? = some v ∧ v.task = w.task := by
  have htask : (r'.workers.map Worker.task)[n]? = some w.task := by
    rw [h'.tasks, ← h.tasks, List.getElem?_map, hw]
    rfl
  rw [List.getElem?_map, Option.map_eq_some_iff] at htask
  exact htask

variable [Host η]

theorem Gathered.next {l : Log} {r : Run η} {n : Nat} {w : Worker} {es : List Event} {ph : Phase}
    {s : Shared η} (hw : r.workers[n]? = some w) (hact : w.Acts p r.shared es ph s)
    (ih : Gathered p files l r) :
    Gathered p files (l ++ es.map (n, ·)) ⟨r.workers.set n { w with phase := ph }, s⟩ := by
  have hopen : r.shared.collector.closed = false := by rw [ih.collector]
  obtain ⟨hlt, -⟩ := List.getElem?_eq_some_iff.1 hw
  refine ⟨?_, ?_, ?_, ?_, ?_⟩
  -- what was collected and written
  · rw [Log.samples_append_worker]
    show s.collector = _
    rw [hact.collector_eq hopen, ih.collector]
  · rw [Log.samples_append_worker, List.foldl_append, ← ih.files]
    exact hact.files_eq hopen
  -- a worker that breaks states a fault, and no other becomes broken
  · show s.fault.isSome = true ↔ _
    rcases hact.fault_eq hopen with ⟨f, hph, hfault⟩ | ⟨hph, hfault⟩
    · rw [hfault]
      refine ⟨fun _ => ⟨_, List.mem_set hlt _, f, hph⟩, fun _ => ?_⟩
      cases r.shared.fault <;> rfl
    · rw [hfault, ih.fault]
      exact (broken_set_iff hw hact.ne_broken hph).symm
  -- the workers stay who they are
  · rw [← ih.tasks]
    exact tasks_set hw rfl
  · intro e he
    show e.1 < (r.workers.set n _).length
    rw [List.length_set]
    rcases List.mem_append.1 he with he | he
    · exact ih.numbers e he
    · obtain ⟨_, _, rfl⟩ := List.mem_map.1 he
      exact hlt

/-- The log of a run fits what its workers share, behind every schedule. -/
theorem gathered (p : Plan) (permits : Nat) (files : Files) (host : η) (schedule : List Nat) :
    Gathered p files ((start p permits files host).log p schedule)
      ((start p permits files host).follow p schedule) := by
  refine follow_induction (Gathered p files) (gathered_start permits host) ?_ schedule
  intro l r n w es ph s hw hact ih
  exact ih.next hw hact

end Run

end SiteTrial
