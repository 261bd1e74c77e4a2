import SiteTrial.Comparison.Basic
import SiteTrial.Proofs.Answers

/-!
# The values behind a comparison

Every comparison of two sides is one of the values of some metric on either side, and every metric that has
values on both sides has a comparison.

* `Compares` : a comparison with the values that it is made of;
* `compares_of_mem`, `exists_mem_of_compareRuns` : the values of each comparison, the comparison of each
  metric.
-/

namespace SiteTrial

variable {α : Type} [Arithmetic α] {scenario : String} {m : Metric} {c : Comparison α}

/-- A comparison of values of a metric. -/
structure Compares (m : Metric) (vs ws : List α) (c : Comparison α) : Prop where
  metric : c.metric = m.name
  baseline : summarize vs = .ok c.baseline
  candidate : summarize ws = .ok c.candidate
  improvement : improvement c.baseline.mean c.candidate.mean = .ok c.improvement
  significant : isSignificant vs ws = .ok c.significant
  verdict : c.verdict = judge true c.baseline.mean c.candidate.mean

theorem compares_of_compareValues {vs ws : List α} (h : compareValues scenario m vs ws = .ok c) :
    Compares m vs ws c := by
  unfold compareValues at h
  obtain ⟨baseline, hbaseline, h⟩ := exists_of_bind h
  obtain ⟨candidate, hcandidate, h⟩ := exists_of_bind h
  obtain ⟨percent, hpercent, h⟩ := exists_of_bind h
  obtain ⟨significant, hsignificant, h⟩ := exists_of_bind h
  cases h
  exact ⟨rfl, hbaseline, hcandidate, eq_of_mapError hpercent, hsignificant, rfl⟩

variable {xs ys : List (Readings α)} {cs : List (Comparison α)}

theorem compares_of_compareMetric (h : compareMetric scenario xs ys m = .ok (some c)) :
    Compares m (measured m xs) (measured m ys) c := by
  unfold compareMetric at h
  dsimp only at h
  split at h
  · cases h
  · obtain ⟨d, hd, hdc⟩ := exists_of_map h
    exact Option.some.inj hdc ▸ compares_of_compareValues hd

theorem compares_of_mem (h : compareRuns scenario xs ys = .ok cs) (hc : c ∈ cs) :
    ∃ m, Compares m (measured m xs) (measured m ys) c := by
  unfold compareRuns at h
  obtain ⟨found, hfound, h⟩ := exists_of_bind h
  cases h
  obtain ⟨d, hd, hdc⟩ := List.mem_filterMap.1 hc
  obtain ⟨m, -, hm⟩ := exists_of_mem_mapM hfound hd
  obtain rfl : d = some c := hdc
  exact ⟨m, compares_of_compareMetric hm⟩

/-- A metric that both sides have measured is compared. -/
theorem exists_mem_of_compareRuns (h : compareRuns scenario xs ys = .ok cs) {m : Metric}
    (hxs : measured m xs ≠ []) (hys : measured m ys ≠ []) :
    ∃ c ∈ cs, Compares m (measured m xs) (measured m ys) c := by
  unfold compareRuns at h
  obtain ⟨found, hfound, h⟩ := exists_of_bind h
  cases h
  obtain ⟨d, hd⟩ := exists_of_mapM_ok hfound (Metric.mem_all m)
  have hmem := mem_of_mapM_ok hfound (Metric.mem_all m) hd
  cases d with
  | some c => exact ⟨c, List.mem_filterMap.2 ⟨some c, hmem, rfl⟩, compares_of_compareMetric hd⟩
  | none =>
      unfold compareMetric at hd
      dsimp only at hd
      rw [if_neg (by simp [hxs, hys])] at hd
      obtain ⟨c, -, hc⟩ := exists_of_map hd
      cases hc

end SiteTrial
