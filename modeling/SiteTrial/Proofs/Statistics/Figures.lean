import SiteTrial.Proofs.Statistics.Flat
import SiteTrial.Proofs.Statistics.Percentile

/-!
# Figures of a summary

A summary holds the figures of its measurements, each rounded to two decimals. The figures are in order, and
rounding keeps that order, so that the rounded ones are too.

* `Figures` : the figures of measurements before they are rounded; `figures_unrounded` : those of a summary;
* `Summary.IsOrdered` : the order of the figures; `Summary.IsConstant` : the figures of one value alone;
* `Summary.Rounds` : figures that are off by no more than half a hundredth;
* `summarize_consistent` : a summary in relation to its measurements.
-/

namespace SiteTrial

open Arithmetic

/-- The figures of some measurements. -/
structure Figures (vs : List ℝ) (s : Summary ℝ) : Prop where
  mean : s.mean = vs.sum / vs.length
  median : percentile vs 50 = .ok s.median
  p95 : percentile vs 95 = .ok s.p95
  p99 : percentile vs 99 = .ok s.p99
  min : IsLeast {v | v ∈ vs} s.min
  max : IsGreatest {v | v ∈ vs} s.max
  variance : s.variance = (vs.map fun v => (v - s.mean) ^ 2).sum / vs.length
  standardDeviation : s.standardDeviation = Real.sqrt s.variance

namespace Summary

structure IsOrdered (s : Summary ℝ) : Prop where
  min_le_median : s.min ≤ s.median
  median_le_p95 : s.median ≤ s.p95
  p95_le_p99 : s.p95 ≤ s.p99
  p99_le_max : s.p99 ≤ s.max
  min_le_mean : s.min ≤ s.mean
  mean_le_max : s.mean ≤ s.max
  variance_nonneg : 0 ≤ s.variance

/-- The figures of one value alone. -/
structure IsConstant (s : Summary ℝ) (v : ℝ) : Prop where
  mean : s.mean = v
  median : s.median = v
  p95 : s.p95 = v
  p99 : s.p99 = v
  min : s.min = v
  max : s.max = v
  standardDeviation : s.standardDeviation = 0
  variance : s.variance = 0

/-- No figure differs from the other one by more than half a hundredth. -/
structure Rounds (s t : Summary ℝ) : Prop where
  mean : |s.mean - t.mean| ≤ 0.005
  median : |s.median - t.median| ≤ 0.005
  p95 : |s.p95 - t.p95| ≤ 0.005
  p99 : |s.p99 - t.p99| ≤ 0.005
  min : |s.min - t.min| ≤ 0.005
  max : |s.max - t.max| ≤ 0.005
  standardDeviation : |s.standardDeviation - t.standardDeviation| ≤ 0.005
  variance : |s.variance - t.variance| ≤ 0.005

end Summary

/-! ## Figures -/

section

variable {vs rest : List ℝ} {first : ℝ}

theorem le_meanOf {low : ℝ} (hsome : vs ≠ []) (h : ∀ v ∈ vs, low ≤ v) : low ≤ meanOf vs := by
  have hsum := List.card_nsmul_le_sum vs low h
  rw [nsmul_eq_mul] at hsum
  rw [meanOf_exact, le_div_iff₀ (cast_length_pos hsome)]
  linarith

theorem meanOf_le {high : ℝ} (hsome : vs ≠ []) (h : ∀ v ∈ vs, v ≤ high) : meanOf vs ≤ high := by
  have hsum := List.sum_le_card_nsmul vs high h
  rw [nsmul_eq_mul] at hsum
  rw [meanOf_exact, div_le_iff₀ (cast_length_pos hsome)]
  linarith

theorem figures_unrounded (h : rising vs = first :: rest) : Figures vs (Summary.unrounded first rest) := by
  have hrow := pairwise_rising vs
  have hperm := rising_perm vs
  rw [h] at hrow hperm
  have hmembers : {v | v ∈ first :: rest} = {v | v ∈ vs} := Set.ext fun _ => hperm.mem_iff
  have hmean : meanOf (first :: rest) = meanOf vs := meanOf_perm hperm
  exact {
    mean := hmean.trans (meanOf_exact vs)
    median := percentile_exact h 50
    p95 := percentile_exact h 95
    p99 := percentile_exact h 99
    min := hmembers ▸ isLeast_first hrow
    max := hmembers ▸ isGreatest_last hrow
    variance := by
      show spread (first :: rest) = _
      rw [spread_perm hperm, spread, ← hmean]
      rfl
    standardDeviation := rfl }

/-- The figures of rising values are in order. -/
theorem isOrdered_unrounded (hrow : (first :: rest).Pairwise (· ≤ ·)) :
    (Summary.unrounded first rest).IsOrdered where
  min_le_median := le_onLine hrow 50
  median_le_p95 := onLine_mono hrow (by norm_num)
  p95_le_p99 := onLine_mono hrow (by norm_num)
  p99_le_max := onLine_le hrow 99
  min_le_mean := le_meanOf (List.cons_ne_nil _ _) (isLeast_first hrow).2
  mean_le_max := meanOf_le (List.cons_ne_nil _ _) (isGreatest_last hrow).2
  variance_nonneg := spread_nonneg _

end

namespace Summary

variable {s : Summary ℝ} {v : ℝ}

/-- Between the least value and the greatest there is room for no other if they are the same. -/
theorem IsOrdered.isConstant (h : s.IsOrdered) (hmin : s.min = v) (hmax : s.max = v)
    (hvariance : s.variance = 0) (hdeviation : s.standardDeviation = 0) : s.IsConstant v where
  mean := le_antisymm (h.mean_le_max.trans_eq hmax) (hmin.symm.trans_le h.min_le_mean)
  median := le_antisymm
    ((h.median_le_p95.trans (h.p95_le_p99.trans h.p99_le_max)).trans_eq hmax)
    (hmin.symm.trans_le h.min_le_median)
  p95 := le_antisymm ((h.p95_le_p99.trans h.p99_le_max).trans_eq hmax)
    (hmin.symm.trans_le (h.min_le_median.trans h.median_le_p95))
  p99 := le_antisymm (h.p99_le_max.trans_eq hmax)
    (hmin.symm.trans_le (h.min_le_median.trans (h.median_le_p95.trans h.p95_le_p99)))
  min := hmin
  max := hmax
  standardDeviation := hdeviation
  variance := hvariance

/-! ## Rounded figures -/

theorem IsOrdered.rounded (h : s.IsOrdered) : s.rounded.IsOrdered where
  min_le_median := hundredths_mono h.min_le_median
  median_le_p95 := hundredths_mono h.median_le_p95
  p95_le_p99 := hundredths_mono h.p95_le_p99
  p99_le_max := hundredths_mono h.p99_le_max
  min_le_mean := hundredths_mono h.min_le_mean
  mean_le_max := hundredths_mono h.mean_le_max
  variance_nonneg := hundredths_nonneg h.variance_nonneg

theorem IsConstant.rounded (h : s.IsConstant v) : s.rounded.IsConstant (hundredths v) where
  mean := congrArg hundredths h.mean
  median := congrArg hundredths h.median
  p95 := congrArg hundredths h.p95
  p99 := congrArg hundredths h.p99
  min := congrArg hundredths h.min
  max := congrArg hundredths h.max
  standardDeviation := (congrArg hundredths h.standardDeviation).trans hundredths_zero
  variance := (congrArg hundredths h.variance).trans hundredths_zero

theorem rounds_rounded (s : Summary ℝ) : s.rounded.Rounds s where
  mean := abs_hundredths_sub_le _
  median := abs_hundredths_sub_le _
  p95 := abs_hundredths_sub_le _
  p99 := abs_hundredths_sub_le _
  min := abs_hundredths_sub_le _
  max := abs_hundredths_sub_le _
  standardDeviation := abs_hundredths_sub_le _
  variance := abs_hundredths_sub_le _

end Summary

/-! ## Summaries -/

theorem isConstant_unrounded {vs rest : List ℝ} {first v : ℝ} (h : rising vs = first :: rest)
    (hflat : ∀ w ∈ vs, w = v) : (Summary.unrounded first rest).IsConstant v := by
  have hrow := pairwise_rising vs
  rw [h] at hrow
  have hfigures := figures_unrounded h
  have hspread : spread (first :: rest) = 0 := by
    rw [spread_eq_zero_iff, ← h]
    intro w hw u hu
    rw [hflat w ((rising_perm vs).mem_iff.1 hw), hflat u ((rising_perm vs).mem_iff.1 hu)]
  refine (isOrdered_unrounded hrow).isConstant (hflat _ hfigures.min.1) (hflat _ hfigures.max.1) hspread ?_
  rw [hfigures.standardDeviation]
  show Real.sqrt (spread (first :: rest)) = 0
  rw [hspread, Real.sqrt_zero]

/-- Measurements have a summary, and it is consistent. Its figures are those of the measurements, rounded by no
more than half a hundredth; they are in order as they stand, rounded; and where all measurements are the same,
this is every figure but the variance and its root, which are zero. -/
theorem summarize_consistent {vs : List ℝ} (hsome : vs ≠ []) :
    ∃ s t, summarize vs = .ok s ∧ Figures vs t ∧ s.Rounds t ∧ s.IsOrdered ∧
      ∀ v, (∀ w ∈ vs, w = v) → s.IsConstant (hundredths v) := by
  obtain ⟨first, rest, hrising⟩ := exists_rising hsome
  have hrow := pairwise_rising vs
  rw [hrising] at hrow
  exact ⟨_, _, summarize_exact hrising, figures_unrounded hrising, Summary.rounds_rounded _,
    (isOrdered_unrounded hrow).rounded, fun v hflat => (isConstant_unrounded hrising hflat).rounded⟩

/-- The mean of measurements on both sides of zero, of which all but one are the same. -/
theorem summarize_consistent_skewed :
    [(-1 : ℝ), -1, 0] ≠ [] ∧
      ∃ s, summarize [(-1 : ℝ), -1, 0] = .ok s ∧ s.IsOrdered ∧ |s.mean - -2 / 3| ≤ 0.005 ∧
        |s.variance - 2 / 9| ≤ 0.005 := by
  have hsome : [(-1 : ℝ), -1, 0] ≠ [] := List.cons_ne_nil _ _
  obtain ⟨s, t, hs, ht, hrounds, hordered, -⟩ := summarize_consistent hsome
  have hmean : t.mean = -2 / 3 := by
    rw [ht.mean]
    norm_num
  have hvariance : t.variance = 2 / 9 := by
    rw [ht.variance, hmean]
    norm_num
  refine ⟨hsome, s, hs, hordered, ?_, ?_⟩
  · rw [← hmean]
    exact hrounds.mean
  · rw [← hvariance]
    exact hrounds.variance

end SiteTrial
