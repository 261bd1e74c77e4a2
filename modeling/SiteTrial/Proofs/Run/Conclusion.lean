import SiteTrial.Proofs.Run.Shared
import SiteTrial.Proofs.Told

/-!
# What a run is concluded with

* `Run.reportOf` : the report of a run with the reports of its scenarios;
* `Run.answer_conclude` : a run without a fault is concluded with it, if its samples can be analyzed.
-/

namespace SiteTrial

open Told

namespace Run

variable {η : Type} [Host η] {p : Plan} {began : Nat} {r : Run η}

def reportOf (p : Plan) (began : Nat) (r : Run η) (scenarios : List ScenarioReport) : Report :=
  { generatedAt := Host.date r.shared.host
    environment := p.config.stage.key
    applications := Side.all.map fun side => (side.key, (p.config.application side).name)
    scenarios := scenarios
    summary := .of (scenarios.flatMap (·.comparisons))
    totalSamples := r.shared.collector.size
    failedIterations := r.failed
    executionTime := milliseconds (Host.now r.shared.host - began) }

theorem answer_conclude_of_fault {f : Failure} (hfault : r.shared.fault = some f) :
    (r.conclude p began).answer = .error f := by
  unfold conclude
  rw [hfault]
  rfl

theorem answer_conclude (hfault : r.shared.fault = none) :
    (r.conclude p began).answer =
      (analyze r.shared.collector.close p.library p.config).answer.map (reportOf p began r) := by
  unfold conclude
  rw [hfault]
  show (analyze _ _ _ >>= fun scenarios => pure (reportOf p began r scenarios)).answer = _
  rw [answer_bind _ fun _ => isSteady_pure _]
  cases (analyze r.shared.collector.close p.library p.config).answer <;> rfl

/-- A run that is concluded with a report has no fault, and its samples were analyzed. -/
theorem exists_of_answer_conclude {report : Report} (h : (r.conclude p began).answer = .ok report) :
    r.shared.fault = none ∧ ∃ scenarios,
      (analyze r.shared.collector.close p.library p.config).answer = .ok scenarios ∧
        report = reportOf p began r scenarios := by
  cases hfault : r.shared.fault with
  | some f =>
      rw [answer_conclude_of_fault hfault] at h
      cases h
  | none =>
      rw [answer_conclude hfault] at h
      cases hanalyze : (analyze r.shared.collector.close p.library p.config).answer with
      | error f =>
          rw [hanalyze] at h
          cases h
      | ok scenarios =>
          rw [hanalyze] at h
          exact ⟨rfl, scenarios, rfl, (Except.ok.inj h).symm⟩

end Run

end SiteTrial
