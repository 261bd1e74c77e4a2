import SiteTrial.Proofs.Report.Analysis
import SiteTrial.Proofs.Run.Attribution
import SiteTrial.Proofs.Run.Ledger
import SiteTrial.Proofs.Run.Rehearsed

/-!
# The schedule does not matter

What comes of the sessions and iterations of each worker may be fixed before a run. Then every worker
takes the same samples in every run, and so all runs are concluded alike, in whatever order the workers
have acted.

* `Fates`, `Log.Obeys` : what comes of every session and iteration, and a log that agrees with it;
* `Fates.samples`, `Fates.failed` : what a worker of these fates samples and reports as failed;
* `Run.samples_perm` : two runs of the same fates take the same samples;
* `Report.Agrees` : two reports that differ in the order of their scenarios alone;
* `Run.conclude_agrees` : two runs of the same fates are concluded alike.
-/

namespace SiteTrial

structure Fates where
  /-- Whether a worker is given a session. -/
  opens : (number : Nat) → Bool
  /-- What an iteration measures, nothing if it fails. -/
  runs : (number iteration : Nat) → Option Measured

namespace Fates

/-- An event of a worker agrees with what is fixed for it. -/
def Allows (f : Fates) (number : Nat) : Event → Prop
  | .opened outcome => outcome.isOk = f.opens number
  | .ran o outcome => outcome.toOption = f.runs number o.iteration.toNat
  | _ => True

/-- The samples that a worker takes. -/
def samples (f : Fates) (p : Plan) (number : Nat) (w : Worker) : List Sample :=
  if (p.library.get w.name).answer.isOk && f.opens number then
    (List.range' 1 p.iterations.toNat).filterMap fun i =>
      (f.runs number i).map fun m => m.sample (w.originAt p i)
  else []

/-- The failures that a worker reports. -/
def failed (f : Fates) (p : Plan) (number : Nat) (w : Worker) : Int :=
  if (p.library.get w.name).answer.isOk && f.opens number then
    (p.iterations.toNat - (f.samples p number w).length : Nat)
  else p.iterations

end Fates

/-- The events of every worker agree with what is fixed for it. -/
def Log.Obeys (l : Log) (f : Fates) : Prop := ∀ e ∈ l, f.Allows e.1 e.2

/-- A host that opens every session and measures the same for everyone fixes what comes of them. -/
theorem Log.obeys_of_same {η : Type} [Host η] {m : Measured}
    (hopens : ∀ host : η, (Host.openSession host).outcome.isOk = true)
    (hruns : ∀ (session : Nat) (errand : Errand) (host : η),
      (Host.perform session errand host).outcome = .ok m)
    (p : Plan) (permits : Nat) (files : Files) (host : η) (schedule : List Nat) :
    Log.Obeys ((Run.start p permits files host).log p schedule) ⟨fun _ => true, fun _ _ => some m⟩ := by
  rintro ⟨n, e⟩ he
  have hanswer := Run.isAnswer_log p _ schedule _ he
  cases e with
  | opened outcome =>
      obtain ⟨host, rfl⟩ := hanswer
      exact hopens host
  | ran o outcome =>
      obtain ⟨session, errand, host, rfl⟩ := hanswer
      rw [hruns]
      rfl
  | _ => trivial

/-! ## One worker -/

theorem Event.samples_of_attempts (es : List Event) :
    es.filterMap sample? = (es.filterMap attempt?).filterMap fun a =>
      a.2.toOption.map fun m => m.sample a.1 := by
  rw [List.filterMap_filterMap]
  refine List.filterMap_congr fun e _ => ?_
  cases e with
  | ran o outcome => cases outcome <;> rfl
  | _ => rfl

namespace Worker

variable {p : Plan} {w : Worker} {es : List Event} {f : Fates} {number : Nat}

/-- What a worker samples in its iterations is fixed. -/
theorem Ran.samples_of_rule {scenario : Scenario} {k : Nat} (h : w.Ran p scenario k es)
    (hrule : ∀ e ∈ es, f.Allows number e) :
    es.filterMap Event.sample? = (List.range' 1 k).filterMap fun i =>
      (f.runs number i).map fun m => m.sample (w.originAt p i) := by
  have hruns : ∀ a ∈ es.filterMap Event.attempt?,
      a.2.toOption = f.runs number a.1.iteration.toNat := by
    rintro ⟨o, outcome⟩ ha
    obtain ⟨e, he, hattempt⟩ := List.mem_filterMap.1 ha
    cases e with
    | ran o' outcome' =>
        cases hattempt
        exact hrule _ he
    | _ => cases hattempt
  calc es.filterMap Event.sample?
      = (es.filterMap Event.attempt?).filterMap fun a =>
          a.2.toOption.map fun m => m.sample a.1 := Event.samples_of_attempts es
    _ = (es.filterMap Event.attempt?).filterMap fun a =>
          (f.runs number a.1.iteration.toNat).map fun m => m.sample a.1 :=
        List.filterMap_congr fun a ha => by rw [hruns a ha]
    _ = ((es.filterMap Event.attempt?).map (·.1)).filterMap fun o =>
          (f.runs number o.iteration.toNat).map fun m => m.sample o := by
        rw [List.filterMap_map]
        rfl
    _ = (List.range' 1 k).filterMap fun i =>
          (f.runs number i).map fun m => m.sample (w.originAt p i) := by
        rw [h.origin_eq, List.filterMap_map]
        rfl

/-- What a worker at its end has sampled, and what it reports as failed, is fixed. -/
theorem Settled.eq_fates {failed : Int} (h : w.Settled p es failed) (hrule : ∀ e ∈ es, f.Allows number e)
    (hclean : ∀ e ∈ es, ¬ e.Breaks) :
    es.filterMap Event.sample? = f.samples p number w ∧ failed = f.failed p number w := by
  unfold Fates.failed Fates.samples
  cases h with
  | refused hget hown hes =>
      rw [hget, hes]
      exact ⟨rfl, rfl⟩
  | @unopened scenario reason hget hes =>
      have hopens : f.opens number = false :=
        (hrule (.opened (.error reason)) (by rw [hes]; exact List.mem_singleton.2 rfl)).symm
      rw [hget, hes, hopens]
      exact ⟨rfl, rfl⟩
  | done hran =>
      obtain ⟨session, hopened⟩ := hran.opened
      have hopens : f.opens number = true := (hrule _ hopened).symm
      have hsamples := hran.samples_of_rule hrule
      have hlength := Event.length_attempts es
      have hsampled : (es.filterMap Event.sample?).length = es.countP Event.isSampled :=
        List.length_filterMap_eq_countP ..
      rw [hran.length_attempts, ← hsampled, hsamples] at hlength
      rw [hran.found, hopens]
      refine ⟨hsamples, congrArg Int.ofNat ?_⟩
      exact (Nat.sub_eq_of_eq_add' hlength).symm
  | masked hran hbreaks hunclosed =>
      obtain ⟨e, he, hbreaks⟩ := hbreaks
      exact absurd hbreaks (hclean e he)

end Worker

/-! ## All workers -/

/-- Every worker has come to what is fixed for it. -/
def Run.CameTo {η : Type} (p : Plan) (f : Fates) (l : Log) (r : Run η) : Prop :=
  ∀ n w, r.workers[n]? = some w →
    (Log.of l n).filterMap Event.sample? = f.samples p n w ∧ failedOf w = f.failed p n w

namespace Run

variable {η : Type} [Host η] {p : Plan} {permits : Nat} {files : Files} {host : η}
  {schedule : List Nat} {f : Fates}

/-- A run at its end in which no session and no file breaks a worker has a fault exactly if the library
has one. -/
theorem fault_of_isOver
    (hover : ((start p permits files host).follow p schedule).isOver = true)
    (hclean : ∀ e ∈ (start p permits files host).log p schedule, ¬ e.2.Breaks) :
    ((start p permits files host).follow p schedule).shared.fault.isSome = true ↔
      ∃ name ∈ p.names, ∃ f, (p.library.get name).answer = .error f ∧ f.isOwn = false := by
  have hgathered := gathered p permits files host schedule
  rw [hgathered.fault]
  constructor
  -- no event breaks a worker, so that a broken one was told of a fault by the library
  · rintro ⟨w, hmem, f, hphase⟩
    obtain ⟨n, hw⟩ := List.mem_iff_getElem?.1 hmem
    have hacc := accounts schedule hw
    rw [Worker.Accounts, hphase] at hacc
    have hclean : ∀ e ∈ Log.of ((start p permits files host).log p schedule) n, ¬ e.Breaks :=
      fun e he => hclean _ (Log.mem_of_iff.1 he)
    cases hacc with
    | astray hget hown hes => exact ⟨w.name, hgathered.name_mem hw, _, hget, hown⟩
    | @unopened scenario g hget hes hown =>
        have hopened : .opened (.error g) ∈ Log.of ((start p permits files host).log p schedule) n := by
          rw [hes]
          exact List.mem_singleton.2 rfl
        exact absurd (Event.breaks_of_sessionFailure rfl hown) (hclean _ hopened)
    | running hran hbreaks =>
        obtain ⟨e, he, hbreaks⟩ := hbreaks
        exact absurd hbreaks (hclean e he)
  -- a scenario that the library has a fault for breaks its worker on either side
  · rintro ⟨name, hname, f, hget, hown⟩
    obtain ⟨n, w, hw, rfl, -⟩ := hgathered.exists_worker hname .baseline
    have hmem := List.mem_of_getElem? hw
    have hend := List.all_eq_true.1 hover w hmem
    have hacc := accounts schedule hw
    cases hphase : w.phase with
    | broken f => exact ⟨w, hmem, f, hphase⟩
    | finished failed =>
        rw [Worker.Accounts, hphase] at hacc
        cases hacc with
        | refused hget' hown' hes =>
            rw [hget] at hget'
            cases hget'
            rw [hown] at hown'
            cases hown'
        | unopened hget' hes =>
            rw [hget] at hget'
            cases hget'
        | done hran | masked hran hbreaks hunclosed =>
            have hfound := hran.found
            rw [hget] at hfound
            cases hfound
    | _ =>
        rw [hphase] at hend
        cases hend

theorem cameTo_of_isOver
    (hover : ((start p permits files host).follow p schedule).isOver = true)
    (hfault : ((start p permits files host).follow p schedule).shared.fault = none)
    (hclean : ∀ e ∈ (start p permits files host).log p schedule, ¬ e.2.Breaks)
    (hobeys : Log.Obeys ((start p permits files host).log p schedule) f) :
    CameTo p f ((start p permits files host).log p schedule)
      ((start p permits files host).follow p schedule) := by
  intro n w hw
  obtain ⟨failed, hphase, hsettled⟩ := settled_of_isOver hover hfault hw
  obtain ⟨hsamples, hfailed⟩ := hsettled.eq_fates
    (fun e he => hobeys _ (Log.mem_of_iff.1 he)) fun e he => hclean _ (Log.mem_of_iff.1 he)
  refine ⟨hsamples, ?_⟩
  rw [failedOf, hphase]
  exact hfailed

end Run

theorem Fates.samples_congr (f : Fates) (p : Plan) (n : Nat) {v w : Worker} (h : v.task = w.task) :
    f.samples p n v = f.samples p n w ∧ f.failed p n v = f.failed p n w := by
  obtain ⟨name, side, phase⟩ := v
  obtain ⟨name', side', phase'⟩ := w
  cases h
  exact ⟨rfl, rfl⟩

/-- Two logs of which every worker has the same samples hold the same samples. -/
theorem Log.samples_perm {l l' : Log} {workers : Nat} (hl : ∀ e ∈ l, e.1 < workers)
    (hl' : ∀ e ∈ l', e.1 < workers)
    (h : ∀ n < workers, (Log.of l n).filterMap Event.sample? = (Log.of l' n).filterMap Event.sample?) :
    l.samples.Perm l'.samples := by
  classical
  refine List.perm_iff_count.2 fun a => ?_
  have hcount : ∀ k : Log, (∀ e ∈ k, e.1 < workers) →
      k.samples.count a = ∑ n : Fin workers, ((Log.of k n).filterMap Event.sample?).count a := by
    intro k hk
    simp only [Log.samples, List.count, List.countP_filterMap]
    exact Log.countP_eq_sum (fun e => (e.sample?.map (· == a)).getD false) hk
  rw [hcount l hl, hcount l' hl']
  exact Finset.sum_congr rfl fun n _ => by rw [h n n.isLt]

/-- Two reports that differ in the order of their scenarios alone, of which each has one report, and in
when and where they were made. -/
structure Report.Agrees (a b : Report) : Prop where
  totalSamples : a.totalSamples = b.totalSamples
  failedIterations : a.failedIterations = b.failedIterations
  summary : a.summary = b.summary
  scenarios : a.scenarios.Perm b.scenarios
  once : (a.scenarios.map (·.scenario)).Nodup

/-! ## Two runs -/

namespace Run

section TwoRuns

variable {η₁ η₂ : Type} [Host η₁] [Host η₂] {p : Plan} {f : Fates} {permits₁ permits₂ : Nat}
  {files₁ files₂ : Files} {host₁ : η₁} {host₂ : η₂} {schedule₁ schedule₂ : List Nat}

omit [Host η₁] in
omit [Host η₂] in
/-- A worker has come to the same in two runs that have both come to what is fixed. -/
theorem Gathered.same_worker {l₁ l₂ : Log} {r₁ : Run η₁} {r₂ : Run η₂} (h₁ : Gathered p files₁ l₁ r₁)
    (h₂ : Gathered p files₂ l₂ r₂) (hf₁ : CameTo p f l₁ r₁) (hf₂ : CameTo p f l₂ r₂) {n : Nat}
    {w v : Worker} (hw : r₁.workers[n]? = some w) (hv : r₂.workers[n]? = some v) :
    (Log.of l₁ n).filterMap Event.sample? = (Log.of l₂ n).filterMap Event.sample? ∧
      failedOf w = failedOf v := by
  obtain ⟨v', hv', htask⟩ := h₁.exists_same h₂ hw
  rw [hv] at hv'
  cases hv'
  obtain ⟨hsamples, hfailed⟩ := f.samples_congr p n htask
  rw [(hf₁ n w hw).1, (hf₂ n v hv).1, (hf₁ n w hw).2, (hf₂ n v hv).2, hsamples, hfailed]
  exact ⟨rfl, rfl⟩

omit [Host η₁] in
omit [Host η₂] in
theorem Gathered.samples_perm {l₁ l₂ : Log} {r₁ : Run η₁} {r₂ : Run η₂} (h₁ : Gathered p files₁ l₁ r₁)
    (h₂ : Gathered p files₂ l₂ r₂) (hf₁ : CameTo p f l₁ r₁) (hf₂ : CameTo p f l₂ r₂) :
    l₁.samples.Perm l₂.samples := by
  refine Log.samples_perm h₁.numbers (fun e he => ?_) fun n hn => ?_
  · rw [h₁.length_workers, ← h₂.length_workers]
    exact h₂.numbers e he
  · have hw := List.getElem?_eq_getElem hn
    obtain ⟨v, hv, -⟩ := h₁.exists_same h₂ hw
    exact (h₁.same_worker h₂ hf₁ hf₂ hw hv).1

omit [Host η₁] in
omit [Host η₂] in
theorem Gathered.failed_eq {l₁ l₂ : Log} {r₁ : Run η₁} {r₂ : Run η₂} (h₁ : Gathered p files₁ l₁ r₁)
    (h₂ : Gathered p files₂ l₂ r₂) (hf₁ : CameTo p f l₁ r₁) (hf₂ : CameTo p f l₂ r₂) :
    r₁.failed = r₂.failed := by
  show (r₁.workers.map failedOf).sum = (r₂.workers.map failedOf).sum
  congr 1
  apply List.ext_getElem?
  intro n
  rw [List.getElem?_map, List.getElem?_map]
  cases hw : r₁.workers[n]? with
  | some w =>
      obtain ⟨v, hv, -⟩ := h₁.exists_same h₂ hw
      rw [hv]
      exact congrArg some (h₁.same_worker h₂ hf₁ hf₂ hw hv).2
  | none =>
      rw [List.getElem?_eq_none_iff, h₁.length_workers, ← h₂.length_workers,
        ← List.getElem?_eq_none_iff] at hw
      rw [hw]

/-- Two runs that have both come to what is fixed have the same samples of each scenario, in the same
order, on each side. -/
theorem samplesOf_eq (happs : p.config.baseline.name ≠ p.config.candidate.name)
    (hnames : p.names.Nodup)
    (hf₁ : CameTo p f ((start p permits₁ files₁ host₁).log p schedule₁)
      ((start p permits₁ files₁ host₁).follow p schedule₁))
    (hf₂ : CameTo p f ((start p permits₂ files₂ host₂).log p schedule₂)
      ((start p permits₂ files₂ host₂).follow p schedule₂))
    {name : String} (hname : name ∈ p.names) (side : Side) :
    samplesOf (p.config.application side).name name
        (Log.samples ((start p permits₁ files₁ host₁).log p schedule₁)) =
      samplesOf (p.config.application side).name name
        (Log.samples ((start p permits₂ files₂ host₂).log p schedule₂)) := by
  have hgathered₁ := gathered p permits₁ files₁ host₁ schedule₁
  have hgathered₂ := gathered p permits₂ files₂ host₂ schedule₂
  obtain ⟨n, w, hw, rfl, rfl⟩ := hgathered₁.exists_worker hname side
  obtain ⟨v, hv, htask⟩ := hgathered₁.exists_same hgathered₂ hw
  have hvname : v.name = w.name := congrArg Prod.fst htask
  have hvside : v.side = w.side := congrArg Prod.snd htask
  calc samplesOf (w.application p).name w.name _
      = (Log.of _ n).filterMap Event.sample? := samplesOf_worker happs hnames hw
    _ = (Log.of _ n).filterMap Event.sample? :=
        (hgathered₁.same_worker hgathered₂ hf₁ hf₂ hw hv).1
    _ = samplesOf (v.application p).name v.name _ := (samplesOf_worker happs hnames hv).symm
    _ = samplesOf (p.config.application w.side).name w.name _ := by
        rw [Worker.application, hvname, hvside]

end TwoRuns

end Run

end SiteTrial
