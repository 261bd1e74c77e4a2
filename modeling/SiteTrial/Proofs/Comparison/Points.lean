import SiteTrial.Proofs.Statistics.Figures
import SiteTrial.Sample.Readings

/-!
# Points

Five measurements share a hundred points among them, and each can only lose its own. So a score lies between 0
and 100, no measurement that grows can raise it, and none but the best possible run keeps all of the points.

* `Metric.scored` : the measurements that have points to lose;
* `points_exact`, `points_antitone`, `points_eq_hundred_iff` : what is left of a hundred points;
* `Readings.score_exact`, `Readings.score_antitone` : the score as a sum of shares, which is 100 in all;
* `overallScore_exact`, `overallScore_perm` : the mean score of several runs;
* `scores_bounded` : the bounds of both.
-/

namespace SiteTrial

open Arithmetic

/-- The measurements that have points to lose. -/
def Metric.scored : List Metric := [.lcp, .fid, .cls, .ttfb, .tti]

namespace Readings

/-- None of the measurements that count is below zero. -/
def IsScorable (r : Readings ℝ) : Prop := ∀ m ∈ Metric.scored, 0 ≤ r.get m

/-! ## What is left of a hundred points -/

theorem points_exact (lost : ℝ) : points lost = max 0 (100 - lost) := by
  unfold points
  simp only [ofInt_exact, lt_exact, decide_eq_true_eq, Int.cast_ofNat, Int.cast_zero]
  split
  · next h => exact (max_eq_right h.le).symm
  · next h => exact (max_eq_left (not_lt.1 h)).symm

theorem points_nonneg (lost : ℝ) : 0 ≤ points lost := by
  rw [points_exact]
  exact le_max_left _ _

theorem points_antitone : Antitone (points : ℝ → ℝ) := by
  intro a b hab
  rw [points_exact, points_exact]
  exact max_le_max le_rfl (by linarith)

theorem points_le_hundred {lost : ℝ} (h : 0 ≤ lost) : points lost ≤ 100 := by
  rw [points_exact]
  exact max_le (by norm_num) (by linarith)

/-- A hundred points are left only if none was lost. -/
theorem points_eq_hundred_iff {lost : ℝ} (h : 0 ≤ lost) : points lost = 100 ↔ lost = 0 := by
  rw [points_exact]
  constructor
  · intro hall
    rcases max_choice 0 (100 - lost) with hmax | hmax
    · rw [hmax] at hall
      norm_num at hall
    · linarith
  · rintro rfl
    norm_num

/-! ## The score of a run -/

variable {r s : Readings ℝ}

/-- The shares of the five measurements, a hundred points in all. -/
theorem score_exact (r : Readings ℝ) :
    r.score = 0.3 * points (r.lcp / 25) + 0.2 * points r.fid + 0.15 * points (r.ttfb / 6) +
      0.15 * points (r.tti / 35) + 0.2 * points (r.cls * 1000) := by
  have hdecimal : ∀ digits places, (decimal digits places : ℝ) = digits / 10 ^ places := fun _ _ => rfl
  show ofInt 0 + decimal 3 1 * points (r.lcp / ofInt 25) + decimal 2 1 * points (r.fid / ofInt 1) +
      decimal 15 2 * points (r.ttfb / ofInt 6) + decimal 15 2 * points (r.tti / ofInt 35) +
      decimal 2 1 * points (r.cls * ofInt 1000) = _
  simp only [ofInt_exact, hdecimal, Int.cast_zero, Int.cast_one, Int.cast_ofNat, Nat.cast_ofNat, div_one]
  norm_num

theorem forall_scored_iff {p : Metric → Prop} :
    (∀ m ∈ Metric.scored, p m) ↔ p .lcp ∧ p .fid ∧ p .cls ∧ p .ttfb ∧ p .tti := by
  simp [Metric.scored]

theorem score_nonneg (r : Readings ℝ) : 0 ≤ r.score := by
  rw [score_exact]
  have hleft : ∀ lost : ℝ, 0 ≤ points lost := points_nonneg
  linarith [hleft (r.lcp / 25), hleft r.fid, hleft (r.ttfb / 6), hleft (r.tti / 35), hleft (r.cls * 1000)]

theorem score_antitone (h : ∀ m ∈ Metric.scored, r.get m ≤ s.get m) : s.score ≤ r.score := by
  obtain ⟨hlcp, hfid, hcls, httfb, htti⟩ := forall_scored_iff.1 h
  simp only [get] at hlcp hfid hcls httfb htti
  have hlcp := points_antitone (div_le_div_of_nonneg_right hlcp (by norm_num : (0 : ℝ) ≤ 25))
  have hfid := points_antitone hfid
  have hcls := points_antitone (mul_le_mul_of_nonneg_right hcls (by norm_num : (0 : ℝ) ≤ 1000))
  have httfb := points_antitone (div_le_div_of_nonneg_right httfb (by norm_num : (0 : ℝ) ≤ 6))
  have htti := points_antitone (div_le_div_of_nonneg_right htti (by norm_num : (0 : ℝ) ≤ 35))
  rw [score_exact, score_exact]
  linarith

/-- A run loses points by any measurement above zero, and by nothing else. -/
theorem score_of_isScorable (h : r.IsScorable) :
    r.score ≤ 100 ∧ (r.score = 100 ↔ ∀ m ∈ Metric.scored, r.get m = 0) := by
  obtain ⟨hlcp, hfid, hcls, httfb, htti⟩ := forall_scored_iff.1 h
  simp only [get] at hlcp hfid hcls httfb htti
  have hlcp : 0 ≤ r.lcp / 25 := by positivity
  have hcls : 0 ≤ r.cls * 1000 := by positivity
  have httfb : 0 ≤ r.ttfb / 6 := by positivity
  have htti : 0 ≤ r.tti / 35 := by positivity
  have hlcp' := points_le_hundred hlcp
  have hfid' := points_le_hundred hfid
  have hcls' := points_le_hundred hcls
  have httfb' := points_le_hundred httfb
  have htti' := points_le_hundred htti
  rw [score_exact, forall_scored_iff]
  refine ⟨by linarith, ?_⟩
  constructor
  · intro hall
    -- no share can make up for what another one has lost
    have hlcp := (points_eq_hundred_iff hlcp).1 (by linarith)
    have hfid := (points_eq_hundred_iff hfid).1 (by linarith)
    have hcls := (points_eq_hundred_iff hcls).1 (by linarith)
    have httfb := (points_eq_hundred_iff httfb).1 (by linarith)
    have htti := (points_eq_hundred_iff htti).1 (by linarith)
    simp only [get]
    exact ⟨by linarith, hfid, by linarith, by linarith, by linarith⟩
  · rintro ⟨hlcp, hfid, hcls, httfb, htti⟩
    simp only [get] at hlcp hfid hcls httfb htti
    have hfull : points (0 : ℝ) = 100 := (points_eq_hundred_iff le_rfl).2 rfl
    rw [hlcp, hfid, hcls, httfb, htti, zero_div, zero_div, zero_div, zero_mul, hfull]
    norm_num

end Readings

/-! ## The score of several runs -/

variable {runs runs' : List (Readings ℝ)}

theorem overallScore_exact (hruns : runs ≠ []) :
    overallScore runs = .ok (hundredths (meanOf (runs.map Readings.score))) := by
  unfold overallScore
  rw [if_neg (by simpa using hruns), round2_exact]
  rfl

theorem overallScore_perm (h : runs.Perm runs') : overallScore runs = overallScore runs' := by
  by_cases hruns : runs = []
  · subst hruns
    rw [h.nil_eq]
  · have hruns' : runs' ≠ [] := fun hnone => hruns (hnone ▸ h).eq_nil
    rw [overallScore_exact hruns, overallScore_exact hruns', meanOf_perm (h.map Readings.score)]

/-- The mean of scores lies between the lowest and the highest, also when all of them are rounded. -/
theorem exists_overallScore_between (hruns : runs ≠ []) :
    ∃ low high score, IsLeast {x | x ∈ runs.map Readings.score} low ∧
      IsGreatest {x | x ∈ runs.map Readings.score} high ∧ overallScore runs = .ok score ∧
      hundredths low ≤ score ∧ score ≤ hundredths high := by
  have hscores : runs.map Readings.score ≠ [] := by simpa using hruns
  obtain ⟨first, rest, hrising⟩ := exists_rising hscores
  have hfigures := figures_unrounded hrising
  refine ⟨_, _, _, hfigures.min, hfigures.max, overallScore_exact hruns, ?_, ?_⟩
  · exact hundredths_mono (le_meanOf hscores fun _ hx => hfigures.min.2 hx)
  · exact hundredths_mono (meanOf_le hscores fun _ hx => hfigures.max.2 hx)

/-- The score of a run without a measurement below zero is between 0 and 100, and it is 100 only if all five
measurements that count are zero; no measurement can raise it by growing. The score of several runs lies between
the lowest and the highest of their scores, each rounded, in whatever order they are given. -/
theorem scores_bounded :
    (∀ r : Readings ℝ, r.IsScorable →
      0 ≤ r.score ∧ r.score ≤ 100 ∧ (r.score = 100 ↔ ∀ m ∈ Metric.scored, r.get m = 0)) ∧
    (∀ r s : Readings ℝ, (∀ m ∈ Metric.scored, r.get m ≤ s.get m) → s.score ≤ r.score) ∧
    ∀ runs : List (Readings ℝ), runs ≠ [] →
      ∃ low high score, IsLeast {x | x ∈ runs.map Readings.score} low ∧
        IsGreatest {x | x ∈ runs.map Readings.score} high ∧ hundredths low ≤ score ∧
        score ≤ hundredths high ∧ ∀ runs', runs'.Perm runs → overallScore runs' = .ok score := by
  refine ⟨fun r hr => ⟨r.score_nonneg, Readings.score_of_isScorable hr⟩, fun r s h => Readings.score_antitone h, ?_⟩
  intro runs hruns
  obtain ⟨low, high, score, hlow, hhigh, hscore, hle, hge⟩ := exists_overallScore_between hruns
  refine ⟨low, high, score, hlow, hhigh, hle, hge, fun runs' hperm => ?_⟩
  rw [overallScore_perm hperm, hscore]

/-- A run in which nothing took any time. -/
noncomputable def idealRun : Readings ℝ := ⟨0, 0, 0, 0, 0, 0, 0, 0, 0⟩

/-- A run that loses some points for three measurements and all for the other two. -/
noncomputable def slowRun : Readings ℝ :=
  { idealRun with lcp := 5000, fid := 40, cls := 0.05, ttfb := 900, tti := 1750 }

theorem scores_bounded_slow :
    slowRun.IsScorable ∧ slowRun.score < 100 ∧ slowRun.score ≤ idealRun.score ∧
      ∃ score, overallScore [idealRun, slowRun] = .ok score ∧ overallScore [slowRun, idealRun] = .ok score ∧
        hundredths slowRun.score ≤ score := by
  have hscorable : slowRun.IsScorable := by
    rw [Readings.IsScorable, Readings.forall_scored_iff]
    norm_num [Readings.get, slowRun]
  have hbelow : ∀ m ∈ Metric.scored, idealRun.get m ≤ slowRun.get m := by
    rw [Readings.forall_scored_iff]
    norm_num [Readings.get, slowRun, idealRun]
  have hlost : slowRun.get .lcp ≠ 0 := by norm_num [Readings.get, slowRun]
  obtain ⟨hone, htwo, hseveral⟩ := scores_bounded
  obtain ⟨-, hle, hall⟩ := hone slowRun hscorable
  obtain ⟨low, high, score, hlow, -, hscore, -, hagree⟩ :=
    hseveral [idealRun, slowRun] (List.cons_ne_nil _ _)
  have hslower := htwo idealRun slowRun hbelow
  have hleast : slowRun.score = low := by
    refine le_antisymm ?_ (hlow.2 (by simp))
    rcases List.mem_pair.1 hlow.1 with hmin | hmin
    · exact hmin ▸ hslower
    · exact hmin.ge
  refine ⟨hscorable, lt_of_le_of_ne hle fun hfull => hlost (hall.1 hfull .lcp (by simp [Metric.scored])),
    hslower, score, hagree _ (.refl _), hagree _ (.swap _ _ _), ?_⟩
  rw [hleast]
  exact hscore

end SiteTrial
