import SiteTrial.Comparison.Basic
import SiteTrial.Proofs.Comparison.Measured
import SiteTrial.Proofs.Statistics.Moderate

/-!
# Comparisons in range

Only what is too large keeps two applications from being compared: a figure of a summary, or the percentage
between two means.

* `ValuesInRange`, `exists_compareValues_iff` : which measured values can be compared;
* `RunsInRange`, `exists_compareRuns_iff` : which runs can be compared;
* `runsInRange_of_moderate` : up to `2 ^ 53` runs can, as long as no measurement is above `10 ^ 144`.
-/

namespace SiteTrial

open Arithmetic Decimal

/-! ## Percentages -/

/-- The percentage between two means is not too large. -/
def PercentInRange (baseline candidate : Float) : Prop :=
  eq baseline (ofInt 0) = true ∨ HasHundredfold ((baseline - candidate) / baseline * ofInt 100)

theorem exists_improvement_iff {b c : Float} : (∃ percent, improvement b c = .ok percent) ↔ PercentInRange b c := by
  unfold improvement PercentInRange
  split
  · next hzero => exact iff_of_true ⟨_, rfl⟩ (.inl hzero)
  · next hsome => rw [exists_round2_iff, or_iff_right hsome]

theorem percentInRange_of_round2 {a : ℕ} {x y b c : Float} (ha : a ≤ 900) (hx : Between 0 (2 ^ a) x)
    (hy : Between 0 (2 ^ a) y) (hb : round2 x = .ok b) (hc : round2 y = .ok c) : PercentInRange b c := by
  have hc' : Between 0 (2 ^ (a + 8)) c := by
    rcases cases_of_round2 (by omega) hy hc with rfl | hc
    · exact between_zero.div_of_nonneg between_hundred (by norm_num) (mark_two_pow (by omega)) (by positivity)
    · exact hc.mono (by positivity) le_rfl
  rcases cases_of_round2 (by omega) hx hb with rfl | hb
  · exact .inl (by decide +kernel)
  · -- a mean that is not zero is not so small that the share is too large
    right
    have hmark := mark_two_pow (k := a + 8) (by omega)
    have hdifference : Between (-2 ^ (a + 8)) (2 ^ (a + 8)) (b - c) := by
      have hpos : (0 : ℝ) ≤ 2 ^ (-7 : ℤ) := by positivity
      exact hb.sub hc' hmark.neg hmark (by linarith) (by linarith)
    have hshare : Between (-2 ^ (a + 15)) (2 ^ (a + 15)) ((b - c) / b) := by
      refine hdifference.div hb (by positivity) (mark_two_pow (by omega)) ?_
      rw [pow_add 2 a 15, pow_add 2 a 8, mul_assoc]
      exact mul_le_mul_of_nonneg_left (by norm_num) (by positivity)
    exact hasHundredfold_of_between (between_hundredfold hshare (by omega)) (by omega)

/-! ## Measured values -/

/-- Nothing is too large in the comparison of measured values. -/
structure ValuesInRange (xs ys : List Float) : Prop where
  baseline : SummaryInRange xs
  candidate : SummaryInRange ys
  percent : ∀ s t, summarize xs = .ok s → summarize ys = .ok t → PercentInRange s.mean t.mean

theorem exists_compareValues_iff {scenario : String} {m : Metric} {xs ys : List Float} :
    (∃ c, compareValues scenario m xs ys = .ok c) ↔ ValuesInRange xs ys := by
  unfold compareValues
  constructor
  · rintro ⟨c, h⟩
    obtain ⟨s, hs, h⟩ := exists_of_bind h
    obtain ⟨t, ht, h⟩ := exists_of_bind h
    obtain ⟨percent, hpercent, -⟩ := exists_of_bind h
    refine ⟨exists_summarize_iff.1 ⟨s, hs⟩, exists_summarize_iff.1 ⟨t, ht⟩, fun s' t' hs' ht' => ?_⟩
    cases hs.symm.trans hs'
    cases ht.symm.trans ht'
    exact exists_improvement_iff.1 ⟨percent, eq_of_mapError hpercent⟩
  · intro h
    obtain ⟨s, hs⟩ := exists_summarize_iff.2 h.baseline
    obtain ⟨t, ht⟩ := exists_summarize_iff.2 h.candidate
    obtain ⟨percent, hpercent⟩ := exists_improvement_iff.2 (h.percent s t hs ht)
    obtain ⟨significant, hsignificant⟩ := exists_isSignificant_of_summaries hs ht
    rw [hs, ht, ok_bind, ok_bind, hpercent, hsignificant]
    exact ⟨_, rfl⟩

section Moderate

variable {a : ℕ} {xs ys : List Float}

theorem rising_spec (hpos : ∀ x ∈ xs, Positive x) (hsome : xs ≠ []) :
    ∃ first rest, rising xs = first :: rest ∧ (first :: rest).Perm xs := by
  have hperm : (rising xs).Perm xs := (Sorted.merged_sorted orders_positive hpos).perm
  cases hrising : rising xs with
  | nil =>
      rw [hrising] at hperm
      exact absurd hperm.symm.eq_nil hsome
  | cons first rest => exact ⟨first, rest, rfl, hrising ▸ hperm⟩

theorem summaryInRange_of_between (ha : a ≤ 480) (hpos : ∀ x ∈ xs, Positive x) (hsome : xs ≠ [])
    (hcount : xs.length ≤ 2 ^ 53) (hxs : ∀ x ∈ xs, Between 0 (2 ^ a) x) : SummaryInRange xs := by
  obtain ⟨first, rest, hrising, hperm⟩ := rising_spec hpos hsome
  exact ⟨first, rest, hrising, Summary.inRange_of_between ha (fun v hv => hxs v (hperm.mem_iff.1 hv))
    (hperm.length_eq ▸ hcount)⟩

/-- The mean of a summary is made of one that is bounded as the values are. -/
theorem exists_mean_of_summarize (ha : a ≤ 480) (hpos : ∀ x ∈ xs, Positive x) (hsome : xs ≠ [])
    (hcount : xs.length ≤ 2 ^ 53) (hxs : ∀ x ∈ xs, Between 0 (2 ^ a) x) {s : Summary Float}
    (hs : summarize xs = .ok s) : ∃ mean, Between 0 (2 ^ a) mean ∧ round2 mean = .ok s.mean := by
  obtain ⟨first, rest, hrising, hperm⟩ := rising_spec hpos hsome
  obtain ⟨first', rest', hrising', hrounded⟩ := rounded_of_summarize hs
  cases hrising.symm.trans hrising'
  exact ⟨_, between_meanOf (by omega) (fun v hv => hxs v (hperm.mem_iff.1 hv)) (List.cons_ne_nil first rest)
    (hperm.length_eq ▸ hcount), hrounded.mean⟩

end Moderate

/-! ## Runs -/

/-- Nothing is too large in the comparison of runs. -/
def RunsInRange (baseline candidate : List (Readings Float)) : Prop :=
  ∀ m, measured m baseline ≠ [] → measured m candidate ≠ [] →
    ValuesInRange (measured m baseline) (measured m candidate)

theorem exists_compareMetric_iff {scenario : String} {baseline candidate : List (Readings Float)} {m : Metric} :
    (∃ c, compareMetric scenario baseline candidate m = .ok c) ↔
      (measured m baseline ≠ [] → measured m candidate ≠ [] →
        ValuesInRange (measured m baseline) (measured m candidate)) := by
  unfold compareMetric
  dsimp only
  split
  · next hnone =>
      rw [Bool.or_eq_true, List.isEmpty_iff, List.isEmpty_iff] at hnone
      exact iff_of_true ⟨none, rfl⟩ fun hbaseline hcandidate => (hnone.elim hbaseline hcandidate).elim
  · next hsome =>
      rw [Bool.or_eq_true, List.isEmpty_iff, List.isEmpty_iff, not_or] at hsome
      rw [exists_map_iff, exists_compareValues_iff, forall_prop_of_true hsome.1, forall_prop_of_true hsome.2]

theorem exists_compareRuns_iff {scenario : String} {baseline candidate : List (Readings Float)} :
    (∃ cs, compareRuns scenario baseline candidate = .ok cs) ↔ RunsInRange baseline candidate := by
  refine (exists_bind_iff (p := True) fun _ => iff_true_intro ⟨_, rfl⟩).trans ?_
  rw [and_true, exists_mapM_iff]
  exact forall_congr' fun m => (forall_prop_of_true m.mem_all).trans exists_compareMetric_iff

/-- No measurement of a run is above `10 ^ 144`. -/
def Readings.IsModerate (r : Readings Float) : Prop := ∀ m, r.get m ≤ 1e144

theorem between_bound : Between 0 (2 ^ 480) 1e144 := by
  have hparts : (Float.ofBits 0x5DF0000000000000).toModel.unpack =
      .finite .positive (2 ^ 52) 428 (by decide) := by rfl
  have hone : (Float.Model.UnpackedFloat.Sign.positive.apply 1 : ℝ) = 1 := Int.cast_one
  have hnumber : number (Float.ofBits 0x5DF0000000000000) = 2 ^ 480 := by
    unfold number
    rw [hparts, valueOf_finite, hone, one_mul, Nat.cast_pow, Nat.cast_ofNat, zpow_ofNat, ← pow_add]
  have hpower : Between 0 (2 ^ 480) (Float.ofBits 0x5DF0000000000000) :=
    ⟨rfl, hnumber ▸ by positivity, hnumber.le⟩
  refine between_of_le ?_ hpower (by decide +kernel)
  unfold Positive
  decide +kernel

theorem between_of_mem_measured {runs : List (Readings Float)} (h : ∀ r ∈ runs, r.IsModerate) {m : Metric}
    {x : Float} (hx : x ∈ measured m runs) : Between 0 (2 ^ 480) x := by
  refine between_of_le (positive_of_mem_measured hx) between_bound ?_
  obtain ⟨r, hr, rfl⟩ := List.mem_map.1 (List.mem_filter.1 hx).1
  exact h r hr m

/-- Runs of which no measurement is too large to have a square can be compared. -/
theorem runsInRange_of_moderate {baseline candidate : List (Readings Float)}
    (hbaseline : ∀ r ∈ baseline, r.IsModerate) (hcandidate : ∀ r ∈ candidate, r.IsModerate)
    (hbcount : baseline.length ≤ 2 ^ 53) (hccount : candidate.length ≤ 2 ^ 53) :
    RunsInRange baseline candidate := by
  intro m hxs hys
  have hcount : ∀ {runs : List (Readings Float)}, runs.length ≤ 2 ^ 53 → (measured m runs).length ≤ 2 ^ 53 :=
    fun hruns => ((List.length_filter_le ..).trans_eq (List.length_map _)).trans hruns
  have hxpos : ∀ x ∈ measured m baseline, Positive x := fun _ => positive_of_mem_measured
  have hypos : ∀ y ∈ measured m candidate, Positive y := fun _ => positive_of_mem_measured
  have hxbound : ∀ x ∈ measured m baseline, Between 0 (2 ^ 480) x := fun _ => between_of_mem_measured hbaseline
  have hybound : ∀ y ∈ measured m candidate, Between 0 (2 ^ 480) y := fun _ =>
    between_of_mem_measured hcandidate
  refine ⟨summaryInRange_of_between le_rfl hxpos hxs (hcount hbcount) hxbound,
    summaryInRange_of_between le_rfl hypos hys (hcount hccount) hybound, fun s t hs ht => ?_⟩
  obtain ⟨x, hx, hs⟩ := exists_mean_of_summarize le_rfl hxpos hxs (hcount hbcount) hxbound hs
  obtain ⟨y, hy, ht⟩ := exists_mean_of_summarize le_rfl hypos hys (hcount hccount) hybound ht
  exact percentInRange_of_round2 (by decide) hx hy hs ht

end SiteTrial
