import SiteTrial.Proofs.Comparison.Mirror

/-!
# Verdicts and percentages

A verdict measures the distance of two means by their average, a percentage by the baseline's mean, and the
percentage is rounded. They never contradict each other: the verdict changes where the means are as 39 to 41,
which is a percentage between 4.87 and 4.88 on the one side and between -5.13 and -5.12 on the other.

* `judge_eq_baseline_iff`, `judge_eq_candidate_iff` : where a verdict is no tie;
* `improvement_exact` : the percentage; `hundredths_fastest`, `hundredths_slowest` : where ties end;
* `Verdict.Agrees` : what a percentage says beside a verdict;
* `improvement_agrees` : it says so of exactly one verdict, the one that is given.
-/

namespace SiteTrial

open Arithmetic

variable {a b : ℝ}

/-! ## Verdicts -/

theorem tie_iff_of_lt (ha : 0 ≤ a) (hlt : a < b) :
    (a + b) / 2 = 0 ∨ |a - b| / ((a + b) / 2) < 5 / 10 ^ 2 ↔ 39 * b < 41 * a := by
  have haverage : 0 < (a + b) / 2 := by linarith
  rw [abs_sub_comm, abs_of_pos (sub_pos.2 hlt), div_lt_iff₀ haverage]
  constructor
  · rintro (hzero | hshare)
    · exact absurd hzero haverage.ne'
    · linarith
  · intro h
    right
    linarith

theorem judge_eq_baseline_iff (ha : 0 ≤ a) :
    judge true a b = .baseline ↔ a < b ∧ 41 * a ≤ 39 * b := by
  rw [judge_exact]
  by_cases hlt : a < b
  · by_cases htie : 39 * b < 41 * a
    · rw [if_pos ((tie_iff_of_lt ha hlt).2 htie)]
      exact iff_of_false nofun fun h => absurd h.2 (not_le.2 htie)
    · rw [if_neg (mt (tie_iff_of_lt ha hlt).1 htie), if_pos hlt]
      exact iff_of_true rfl ⟨hlt, not_lt.1 htie⟩
  · rw [if_neg hlt]
    refine iff_of_false ?_ fun h => hlt h.1
    split <;> exact nofun

theorem mirrored_eq_candidate_iff {v : Verdict} : v.mirrored = .candidate ↔ v = .baseline := by
  cases v <;> simp [Verdict.mirrored]

theorem judge_eq_candidate_iff (hb : 0 ≤ b) :
    judge true a b = .candidate ↔ b < a ∧ 41 * b ≤ 39 * a := by
  rw [judge_mirrored b a, mirrored_eq_candidate_iff, judge_eq_baseline_iff hb]

theorem judge_ne_other (word : String) : judge true a b ≠ .other word := by
  rw [judge_exact]
  split
  · exact nofun
  · split <;> exact nofun

/-! ## Percentages -/

theorem improvement_zero (b : ℝ) : improvement 0 b = .ok 0 := by
  simp [improvement, eq_exact, ofInt_exact]

theorem improvement_exact (ha : a ≠ 0) (b : ℝ) :
    improvement a b = .ok (hundredths ((a - b) / a * 100)) := by
  have hzero : ¬ eq a (ofInt 0) = true := by simpa [eq_exact, ofInt_exact] using ha
  unfold improvement
  rw [if_neg hzero]
  exact round2_exact _

theorem hundredths_slowest : hundredths (-200 / 39) = -5.13 := by
  rw [hundredths_eq (n := -513)]
  all_goals norm_num

theorem hundredths_fastest : hundredths (200 / 41) = 4.88 := by
  rw [hundredths_eq (n := 488)]
  all_goals norm_num

/-- A candidate that takes 41 where the baseline takes 39, or more. -/
theorem percent_le_of_slower (ha : 0 < a) (h : 41 * a ≤ 39 * b) :
    hundredths ((a - b) / a * 100) ≤ -5.13 := by
  rw [← hundredths_slowest]
  refine hundredths_mono ?_
  rw [div_mul_eq_mul_div, div_le_iff₀ ha]
  linarith

theorem le_percent_of_not_slower (ha : 0 < a) (h : 39 * b ≤ 41 * a) :
    -5.13 ≤ hundredths ((a - b) / a * 100) := by
  rw [← hundredths_slowest]
  refine hundredths_mono ?_
  rw [div_mul_eq_mul_div, le_div_iff₀ ha]
  linarith

/-- A candidate that takes 39 where the baseline takes 41, or less. -/
theorem le_percent_of_faster (ha : 0 < a) (h : 41 * b ≤ 39 * a) :
    4.88 ≤ hundredths ((a - b) / a * 100) := by
  rw [← hundredths_fastest]
  refine hundredths_mono ?_
  rw [div_mul_eq_mul_div, le_div_iff₀ ha]
  linarith

theorem percent_le_of_not_faster (ha : 0 < a) (h : 39 * a ≤ 41 * b) :
    hundredths ((a - b) / a * 100) ≤ 4.88 := by
  rw [← hundredths_fastest]
  refine hundredths_mono ?_
  rw [div_mul_eq_mul_div, div_le_iff₀ ha]
  linarith

/-! ## Both -/

/-- What is said of two means beside a verdict on them. -/
def Verdict.Agrees (baseline candidate percent : ℝ) : Verdict → Prop
  | .tie => -5.13 ≤ percent ∧ percent ≤ 4.88
  | .candidate => candidate < baseline ∧ 4.88 ≤ percent
  | .baseline => baseline < candidate ∧ percent ≤ -5.13
  | .other _ => False

theorem judge_agrees (ha : 0 < a) (hb : 0 ≤ b) :
    (judge true a b).Agrees a b (hundredths ((a - b) / a * 100)) := by
  cases hverdict : judge true a b with
  | baseline =>
      obtain ⟨hlt, hgap⟩ := (judge_eq_baseline_iff ha.le).1 hverdict
      exact ⟨hlt, percent_le_of_slower ha hgap⟩
  | candidate =>
      obtain ⟨hlt, hgap⟩ := (judge_eq_candidate_iff hb).1 hverdict
      exact ⟨hlt, le_percent_of_faster ha hgap⟩
  | tie =>
      have hslower : ¬ (a < b ∧ 41 * a ≤ 39 * b) := by
        rw [← judge_eq_baseline_iff ha.le, hverdict]
        exact nofun
      have hfaster : ¬ (b < a ∧ 41 * b ≤ 39 * a) := by
        rw [← judge_eq_candidate_iff hb, hverdict]
        exact nofun
      -- two equal means are closer than any share of them
      refine ⟨le_percent_of_not_slower ha ?_, percent_le_of_not_faster ha ?_⟩
      · by_contra hgap
        exact hslower ⟨by linarith, by linarith⟩
      · by_contra hgap
        exact hfaster ⟨by linarith, by linarith⟩
  | other word => exact absurd hverdict (judge_ne_other word)

theorem Metric.ofName?_name (m : Metric) : ofName? m.name = some m := by
  cases m <;> decide

/-- The verdict on two means and the percentage between them tell the same, whatever metric they are means
of: what the percentage and the order of the means say beside a verdict holds for one verdict that is given,
and there is no other. -/
theorem improvement_agrees (m : Metric) (ha : 0 < a) (hb : 0 ≤ b) :
    ∃ percent, improvement a b = .ok percent ∧
      ∃! v, judge (Metric.ofName? m.name).isSome a b = v ∧ v.Agrees a b percent := by
  rw [m.ofName?_name]
  refine ⟨_, improvement_exact ha.ne' b, judge true a b, ⟨rfl, judge_agrees ha hb⟩, ?_⟩
  rintro v ⟨rfl, -⟩
  rfl

/-- Of means as 39 to 40, a tie, although the candidate is more than two and a half percent slower. -/
theorem improvement_agrees_nearby :
    (0 : ℝ) < 39 ∧ (0 : ℝ) ≤ 40 ∧ ∃ percent, improvement (39 : ℝ) 40 = .ok percent ∧
      ∃! v, judge (Metric.ofName? Metric.lcp.name).isSome (39 : ℝ) 40 = v ∧ v.Agrees 39 40 percent :=
  ⟨by norm_num, by norm_num, improvement_agrees .lcp (by norm_num) (by norm_num)⟩

end SiteTrial
