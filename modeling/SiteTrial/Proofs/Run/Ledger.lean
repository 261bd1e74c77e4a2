import Mathlib.Tactic.Ring
import SiteTrial.Proofs.Run.Accounts
import SiteTrial.Proofs.Run.Conclusion
import SiteTrial.Proofs.Run.Rehearsed

/-!
# Every iteration is counted once

A worker that comes to its end answers for all iterations that it was asked for: those that gave a
sample, and those that it reports as failed, which are all of them where it never had a session.

* `Worker.Settled.balance` : the balance of one worker;
* `Run.samples_and_failures` : the balance of a report.
-/

namespace SiteTrial

/-- The event gave a sample. -/
def Event.isSampled (e : Event) : Bool := e.sample?.isSome

theorem Event.length_attempts (es : List Event) :
    (es.filterMap attempt?).length = es.countP isSampled + es.countP isFailedRun := by
  induction es with
  | nil => rfl
  | cons e es ih =>
      rw [List.countP_cons, List.countP_cons]
      cases e with
      | ran o outcome =>
          show (es.filterMap attempt?).length + 1 = _
          rw [ih]
          cases outcome with
          | ok m =>
              show _ = es.countP isSampled + 1 + (es.countP isFailedRun + 0)
              omega
          | error f =>
              show _ = es.countP isSampled + 0 + (es.countP isFailedRun + 1)
              omega
      | _ => exact ih

namespace Worker

variable {p : Plan} {w : Worker} {es : List Event}

theorem Ran.length_attempts {scenario : Scenario} {k : Nat} (h : w.Ran p scenario k es) :
    (es.filterMap Event.attempt?).length = k := by
  have hlength := congrArg List.length h.origins
  rwa [List.length_map, List.length_map, List.length_range'] at hlength

/-- The samples of a worker at its end and the failures that it reports are all its iterations, unless
a fault that broke it was masked when its session could not be closed. -/
theorem Settled.balance {failed : Int} (h : w.Settled p es failed) (hn : 1 ≤ p.iterations)
    (hclean : (∀ e ∈ es, ¬ e.Breaks) ∨ ∀ e ∈ es, ¬ e.IsUnclosed) :
    (es.countP Event.isSampled : Int) + failed = p.iterations := by
  cases h with
  | refused hget hown hes =>
      rw [hes]
      simp
  | unopened hget hes =>
      rw [hes]
      simp [Event.isSampled, Event.sample?]
  | done hran =>
      have hlength := Event.length_attempts es
      rw [hran.length_attempts] at hlength
      omega
  | masked hran hbreaks hunclosed =>
      obtain ⟨e, he, hbreaks⟩ := hbreaks
      obtain ⟨e', he', hunclosed⟩ := hunclosed
      rcases hclean with hclean | hclean
      · exact absurd hbreaks (hclean e he)
      · exact absurd hunclosed (hclean e' he')

end Worker

namespace Run

variable {η : Type} [Host η] {p : Plan} {permits : Nat} {files : Files} {host : η}
  {schedule : List Nat}

theorem settled_of_isOver
    (hover : ((start p permits files host).follow p schedule).isOver = true)
    (hfault : ((start p permits files host).follow p schedule).shared.fault = none) {n : Nat}
    {w : Worker} (hw : ((start p permits files host).follow p schedule).workers[n]? = some w) :
    ∃ failed, w.phase = .finished failed ∧
      w.Settled p (Log.of ((start p permits files host).log p schedule) n) failed := by
  have hacc := accounts schedule hw
  have hmem := List.mem_of_getElem? hw
  have hend := List.all_eq_true.1 hover w hmem
  cases hphase : w.phase with
  | finished failed =>
      rw [Worker.Accounts, hphase] at hacc
      exact ⟨failed, rfl, hacc⟩
  | broken f =>
      have hbroken := (gathered p permits files host schedule).fault.2
        ⟨w, hmem, f, hphase⟩
      rw [hfault] at hbroken
      cases hbroken
  | _ =>
      rw [hphase] at hend
      cases hend

/-- How many iterations a worker reports as failed. -/
def failedOf (w : Worker) : Int :=
  match w.phase with
  | .finished n => n
  | _ => 0

/-- Behind the end of a run without a fault, what was sampled and what failed is all there was to do. -/
theorem countP_add_failed (hn : 1 ≤ p.iterations)
    (hover : ((start p permits files host).follow p schedule).isOver = true)
    (hfault : ((start p permits files host).follow p schedule).shared.fault = none)
    (hclean : (∀ e ∈ (start p permits files host).log p schedule, ¬ e.2.Breaks) ∨
      ∀ e ∈ (start p permits files host).log p schedule, ¬ e.2.IsUnclosed) :
    (((start p permits files host).log p schedule).countP (fun e => e.2.isSampled) : Int) +
      ((start p permits files host).follow p schedule).failed = 2 * p.iterations * p.names.length := by
  have hgathered := gathered p permits files host schedule
  have hsettled := fun n w hw => settled_of_isOver (n := n) (w := w) hover hfault hw
  generalize (start p permits files host).log p schedule = l at *
  generalize (start p permits files host).follow p schedule = r at *
  have hbalance : ∀ n : Fin r.workers.length,
      ((Log.of l n).countP Event.isSampled : Int) + failedOf r.workers[n.val] = p.iterations := by
    intro n
    obtain ⟨failed, hphase, hsettled⟩ :=
      hsettled n r.workers[n.val] (List.getElem?_eq_getElem n.isLt)
    rw [failedOf, hphase]
    refine hsettled.balance hn (hclean.imp (fun h e he => ?_) fun h e he => ?_)
    · exact h _ (Log.mem_of_iff.1 he)
    · exact h _ (Log.mem_of_iff.1 he)
  calc (l.countP (fun e => e.2.isSampled) : Int) + r.failed
      = ∑ n : Fin r.workers.length, ((Log.of l n).countP Event.isSampled : Int) +
          ∑ n : Fin r.workers.length, failedOf r.workers[n.val] := by
        rw [Log.countP_eq_sum Event.isSampled hgathered.numbers, Fin.sum_univ_fun_getElem]
        push_cast
        rfl
    _ = ∑ n : Fin r.workers.length, p.iterations := by
        rw [← Finset.sum_add_distrib]
        exact Finset.sum_congr rfl fun n _ => hbalance n
    _ = 2 * p.iterations * p.names.length := by
        rw [Finset.sum_const, Finset.card_univ, Fintype.card_fin, hgathered.length_workers, nsmul_eq_mul]
        push_cast
        ring

/-- Samples and failed iterations of a report are all iterations of all workers, and the samples are
those of the scenarios that were run to their end. -/
theorem samples_and_failures {began : Nat} {report : Report} (hn : 1 ≤ p.iterations)
    (hover : ((start p permits files host).follow p schedule).isOver = true)
    (hclean : (∀ e ∈ (start p permits files host).log p schedule, ¬ e.2.Breaks) ∨
      ∀ e ∈ (start p permits files host).log p schedule, ¬ e.2.IsUnclosed)
    (hreport : (((start p permits files host).follow p schedule).conclude p began).answer =
      .ok report) :
    report.totalSamples + report.failedIterations = 2 * p.iterations * p.names.length ∧
      report.totalSamples =
        ((start p permits files host).log p schedule).countP (fun e => e.2.isSampled) := by
  obtain ⟨hfault, scenarios, -, rfl⟩ := exists_of_answer_conclude hreport
  have hsamples : (((start p permits files host).follow p schedule).shared.collector.size : Int) =
      ((start p permits files host).log p schedule).countP (fun e => e.2.isSampled) := by
    rw [(gathered p permits files host schedule).collector]
    exact congrArg Int.ofNat (List.length_filterMap_eq_countP ..)
  refine ⟨?_, hsamples⟩
  rw [← countP_add_failed hn hover hfault hclean, ← hsamples]
  rfl

/-- A run of two iterations: two samples of the application that gets a page, two failures of the one
that gets none, and four for the scenario that there is not. -/
theorem samples_and_failures_rehearsed :
    ∃ report,
      (((start (Rehearsed.plan 2 none) 2 {} Rehearsed.host).follow (Rehearsed.plan 2 none)
        (Rehearsed.inTurn 12)).conclude (Rehearsed.plan 2 none) 0).answer = .ok report ∧
      report.totalSamples = 2 ∧ report.totalSamples + report.failedIterations = 2 * 2 * 2 := by
  have hanswer :
      (((start (Rehearsed.plan 2 none) 2 {} Rehearsed.host).follow (Rehearsed.plan 2 none)
        (Rehearsed.inTurn 12)).conclude (Rehearsed.plan 2 none) 0).answer.toOption.isSome = true := by
    decide +kernel
  have hcount : ((start (Rehearsed.plan 2 none) 2 {} Rehearsed.host).log (Rehearsed.plan 2 none)
      (Rehearsed.inTurn 12)).countP (fun e => e.2.isSampled) = 2 := by decide +kernel
  obtain ⟨report, hreport⟩ := exists_of_isSome hanswer
  obtain ⟨hsum, hsamples⟩ := samples_and_failures (by decide) (by decide +kernel)
    (.inr (closed_of_closes Rehearsal.outcome_closeSession _ _ _ _ _)) hreport
  rw [hcount] at hsamples
  exact ⟨report, hreport, hsamples, hsum⟩

end Run

end SiteTrial
