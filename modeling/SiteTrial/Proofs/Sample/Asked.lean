import SiteTrial.Proofs.Page.Failing
import SiteTrial.Proofs.Sample.Projection

/-!
# What a page is asked when it is measured

* `Browse.Makes` : the calls behind an answer, with a rule for each way of putting computations together;
* `Sampling.questions`, `Sampling.makes_measure` : those behind a measurement.
-/

namespace SiteTrial

variable {σ : Type}

/-- Where a computation comes to an answer, these are the calls it has made. -/
def Browse.Makes {α : Type} (b : Browse σ α) (log : List Call) : Prop :=
  ∀ v v' a, b.run.run v = (.ok a, v') → v'.calls = v.calls ++ log

namespace Browse.Makes

variable {α β γ : Type} {b : Browse σ α} {log log' : List Call}

theorem of_quiet (h : ∀ v, (b.run.run v).2.calls = v.calls) : Makes b [] := by
  intro v v' a hr
  have hcalls := h v
  rw [hr] at hcalls
  simpa using hcalls

theorem pure (a : α) : Makes (Pure.pure a : Browse σ α) [] := of_quiet fun _ => rfl

theorem of (x : Except Failure α) : Makes (Browse.of x : Browse σ α) [] := by
  cases x <;> exact of_quiet fun _ => rfl

theorem ofFault (x : Except Fault α) : Makes (Browse.ofFault x : Browse σ α) [] := of _

theorem bind {k : α → Browse σ β} (h : Makes b log) (hk : ∀ a, Makes (k a) log') :
    Makes (b >>= k) (log ++ log') := by
  intro v v' c hr
  obtain ⟨a, w, hb, hr⟩ := exists_of_run_bind hr
  rw [hk a w v' c hr, h v w a hb, List.append_assoc]

/-- The first computation makes all the calls. -/
theorem thenQuiet {k : α → Browse σ β} (h : Makes b log) (hk : ∀ a, Makes (k a) []) : Makes (b >>= k) log := by
  simpa using h.bind hk

theorem ask [Page σ] (what : String) (c : Call) : Makes (Session.ask what c : Browse σ Value) [c] := by
  intro v v' a hr
  rw [Session.run_ask] at hr
  cases (Prod.ext_iff.1 hr).2
  rfl

theorem allThree {a : Browse σ α} {b : Browse σ β} {c : Browse σ γ} {log₁ log₂ log₃ : List Call}
    (ha : Makes a log₁) (hb : Makes b log₂) (hc : Makes c log₃) :
    Makes (Sampling.allThree a b c) (log₁ ++ log₂ ++ log₃) := by
  intro v v' xyz h
  obtain ⟨w, w', h₁, h₂, h₃⟩ := Sampling.exists_of_run_allThree h
  rw [hc _ _ _ h₃, hb _ _ _ h₂, ha _ _ _ h₁, List.append_assoc, List.append_assoc, List.append_assoc]

end Browse.Makes

namespace Sampling

open Browse (Makes)

variable [Page σ]

/-- What a page is asked when it is measured. -/
def questions (settle : Int) : List Call :=
  [.evaluate .userAgent, .evaluate (.webVitals settle), .evaluate .timingEntries, .evaluate .readState]

theorem makes_vitals (settle : Int) :
    Makes (vitals settle : Browse σ Vitals) [.evaluate (.webVitals settle)] :=
  (Makes.ask _ _).thenQuiet fun _ => .ofFault _

theorem makes_timings : Makes (timings : Browse σ Timings) [.evaluate .timingEntries] := by
  refine (Makes.ask _ _).thenQuiet fun raw => (Makes.ofFault _).thenQuiet fun navigation => ?_
  -- with or without the notice that there is no navigation entry
  dsimp only
  split
  · refine (Makes.of_quiet fun _ => rfl).thenQuiet fun url => (Makes.of_quiet fun _ => rfl).thenQuiet fun _ => ?_
    exact (Makes.ofFault _).thenQuiet fun _ => (Makes.ofFault _).thenQuiet fun _ => .ofFault _
  · exact (Makes.ofFault _).thenQuiet fun _ => (Makes.ofFault _).thenQuiet fun _ => .ofFault _

theorem makes_metrics (r : Recorder) :
    Makes (metrics r : Browse σ ApplicationMetrics) [.evaluate .readState] :=
  (Makes.ask _ _).thenQuiet fun _ => .ofFault _

theorem makes_measure (settle : Int) (url : String) (r : Recorder) :
    Makes (measure settle url r : Browse σ Measured) (questions settle) := by
  have hparts := Makes.allThree (makes_vitals (σ := σ) settle) makes_timings (makes_metrics r)
  have hall : Makes (measure settle url r : Browse σ Measured) ([] ++ ([.evaluate .userAgent] ++ _)) :=
    (Makes.of_quiet fun _ => rfl).bind fun timestamp =>
      (Makes.ask _ _).bind fun userAgent => hparts.thenQuiet fun _ => .pure _
  exact hall

end Sampling

end SiteTrial
