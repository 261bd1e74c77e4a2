import SiteTrial.Proofs.Comparison.Measured
import SiteTrial.Proofs.Statistics.Moderate

/-!
# Scores in range

However large a measurement is, no more than all of its points are lost. So the score of a run is a double
between 0 and 100, or a little above, and no measurement keeps the runs of an application from having one.

* `exists_overallScore_iff` : which runs have a score;
* `Decimal.IsNonneg` : doubles that are not below zero; `isNonneg_of_le` : the comparison says so;
* `between_points`, `between_score` : the points that are left, and the score that they make;
* `scoreInRange_of_nonneg` : runs without a measurement below zero have a score.
-/

namespace SiteTrial

open Arithmetic Decimal
open Float.Model (Format UnpackedFloat)

variable {x lost : Float} {runs : List (Readings Float)}

/-- The mean score of runs is not too large. -/
def ScoreInRange (runs : List (Readings Float)) : Prop := HasHundredfold (meanOf (runs.map Readings.score))

theorem exists_overallScore_iff (hruns : runs ≠ []) :
    (∃ score, overallScore runs = .ok score) ↔ ScoreInRange runs := by
  unfold overallScore ScoreInRange
  rw [if_neg (by simpa using hruns), exists_mapError_iff, exists_round2_iff]

/-! ## Doubles that are not below zero -/

namespace Decimal

/-- A double without a minus sign, if it is not zero; or the one that is no number. -/
def IsNonneg (x : Float) : Prop := IsUpright x ∨ x.isFinite = true ∧ number x = 0

theorem isNonneg_of_le (h : 0.0 ≤ x) : IsNonneg x := by
  have hcompare : ((UnpackedFloat.zero .positive).compare x.toModel.unpack).any (·.isLE) = true := by
    change decide ((0.0 : Float).toModel ≤ x.toModel) = true at h
    exact of_decide_eq_true h
  unfold IsNonneg IsUpright
  unfold number
  show _ ∨ x.toModel.unpack.isFinite = true ∧ _
  generalize x.toModel.unpack = p at hcompare ⊢
  match p with
  | .notANumber | .infinity .positive | .finite .positive _ _ _ => exact .inl (by trivial)
  | .zero _ => exact .inr ⟨rfl, rfl⟩
  | .infinity .negative | .finite .negative _ _ _ => cases hcompare

namespace IsNonneg

theorem zero_le (h : IsNonneg x) : 0 ≤ number x := by
  rcases h with h | ⟨-, h⟩
  · exact number_nonneg h
  · exact h.ge

theorem of_rounds_zero (h : Rounds x 0) : IsNonneg x := .inr (h.exact mark_zero)

theorem mul_natCast (h : IsNonneg x) {n : ℕ} (hn : n ≤ 2 ^ 53) : IsNonneg (x * ofInt n) := by
  rcases h with h | ⟨hfinite, hzero⟩
  · exact .inl (h.mul (isUpright_natCast n))
  · have hproduct := rounds_mul hfinite (between_natCast hn).finite
    rw [hzero, zero_mul] at hproduct
    exact of_rounds_zero hproduct

theorem div_natCast (h : IsNonneg x) {n : ℕ} (hpos : 0 < n) (hn : n ≤ 2 ^ 53) :
    IsNonneg (x / ofInt n) := by
  rcases h with h | ⟨hfinite, hzero⟩
  · exact .inl (h.div (isUpright_natCast n))
  · have hdivisor : 0 < number (ofInt n) := lt_of_lt_of_le (by exact_mod_cast hpos) (between_natCast hn).le
    have hquotient := rounds_div hfinite (between_natCast hn).finite hdivisor.ne'
    rw [hzero, zero_div] at hquotient
    exact of_rounds_zero hquotient

end IsNonneg

end Decimal

/-! ## Points -/

theorem sub_of_infinite {p q : UnpackedFloat} (hp : p.isFinite = true) (hq : Upright q)
    (hinfinite : q.isFinite = false) :
    UnpackedFloat.sub .binary64 p q = .notANumber ∨ UnpackedFloat.sub .binary64 p q = .infinity .negative := by
  match p, q with
  | .zero _, .notANumber | .finite _ _ _ _, .notANumber => exact .inl rfl
  | .zero _, .infinity .positive | .finite _ _ _ _, .infinity .positive => exact .inr rfl

/-- Nothing is left of anything if what is lost is infinite, or no number. -/
theorem not_positive_sub (hx : x.isFinite = true) (hlost : IsUpright lost) (hinfinite : lost.isFinite = false) :
    ¬ Positive (x - lost) := by
  have hparts : (x - lost).toModel.unpack = UnpackedFloat.unpack .binary64 (UnpackedFloat.pack .binary64
      (.sub .binary64 x.toModel.unpack lost.toModel.unpack)) := rfl
  have hnone : UnpackedFloat.unpack .binary64 (UnpackedFloat.pack .binary64 .notANumber) = .notANumber := by
    rfl
  have hendless : UnpackedFloat.unpack .binary64 (UnpackedFloat.pack .binary64 (.infinity .negative)) =
      .infinity .negative := by rfl
  intro hpositive
  have hright := hpositive.parts
  rcases sub_of_infinite hx hlost hinfinite with hsub | hsub
  · rw [hparts, hsub, hnone] at hright
    rcases hright with hright | ⟨_, _, _, hright⟩ <;> cases hright
  · rw [hparts, hsub, hendless] at hright
    rcases hright with hright | ⟨_, _, _, hright⟩ <;> cases hright

theorem mark_hundred : Mark 100 := by
  exact_mod_cast mark_natCast (c := 100) (by decide)

/-- What is left of a hundred points. -/
theorem between_points (hlost : IsNonneg lost) : Between 0 100 (Readings.points lost) := by
  unfold Readings.points
  dsimp only
  split
  · next hleft =>
      have hpositive := lt_zero_iff.1 hleft
      cases hfinite : lost.isFinite with
      | true =>
          -- what is lost bounds what is left from below, whatever it is
          have hlow := (mark_number hfinite).neg
          have hself : Between (number lost) (number lost) lost := ⟨hfinite, le_rfl, le_rfl⟩
          have hsub : Between (-number lost) 100 (ofInt 100 - lost) :=
            between_hundred.sub hself hlow mark_hundred (by linarith) (by linarith [hlost.zero_le])
          exact ⟨hsub.finite, number_nonneg (isUpright_of_positive hpositive), hsub.ge⟩
      | false =>
          rcases hlost with hupright | ⟨hfinite', -⟩
          · exact absurd hpositive (not_positive_sub between_hundred.finite hupright hfinite)
          · rw [hfinite] at hfinite'
            cases hfinite'
  · exact between_zero.mono le_rfl (by norm_num)

/-! ## Scores -/

theorem between_mul_points {w : Float} (hpositive : Positive w) (hle : w ≤ ofInt 1) (hlost : IsNonneg lost) :
    Between 0 100 (w * Readings.points lost) := by
  have hweight := between_of_le hpositive (between_one.mono zero_le_one le_rfl) hle
  exact hweight.mul_of_nonneg (between_points hlost) mark_hundred (one_mul _).le

/-- A hundred points more. -/
theorem between_add_hundred {sum : Float} {n : ℕ} (hn : n + 100 ≤ 2 ^ 53) (hsum : Between 0 n sum)
    (hx : Between 0 100 x) : Between 0 (n + 100 : ℕ) (sum + x) :=
  hsum.add hx mark_zero (mark_natCast hn) (by norm_num) (by push_cast; rfl)

/-- None of the measurements of a run is below zero. -/
def Readings.IsNonneg (r : Readings Float) : Prop := ∀ m, 0.0 ≤ r.get m

theorem between_score {r : Readings Float} (h : r.IsNonneg) : Between 0 (2 ^ 9) r.score := by
  have hlcp := (isNonneg_of_le (h .lcp)).div_natCast (n := 25) (by decide) (by decide)
  have hfid := (isNonneg_of_le (h .fid)).div_natCast (n := 1) (by decide) (by decide)
  have httfb := (isNonneg_of_le (h .ttfb)).div_natCast (n := 6) (by decide) (by decide)
  have htti := (isNonneg_of_le (h .tti)).div_natCast (n := 35) (by decide) (by decide)
  have hcls := (isNonneg_of_le (h .cls)).mul_natCast (n := 1000) (by decide)
  have hzero : Between 0 (0 : ℕ) (ofInt 0) := between_zero.mono le_rfl Nat.cast_zero.ge
  have hsum := between_add_hundred (by decide) hzero
    (between_mul_points (w := decimal 3 1) (lt_zero_iff.1 (by decide +kernel)) (by decide +kernel) hlcp)
  have hsum := between_add_hundred (by decide) hsum
    (between_mul_points (w := decimal 2 1) (lt_zero_iff.1 (by decide +kernel)) (by decide +kernel) hfid)
  have hsum := between_add_hundred (by decide) hsum
    (between_mul_points (w := decimal 15 2) (lt_zero_iff.1 (by decide +kernel)) (by decide +kernel) httfb)
  have hsum := between_add_hundred (by decide) hsum
    (between_mul_points (w := decimal 15 2) (lt_zero_iff.1 (by decide +kernel)) (by decide +kernel) htti)
  have hsum := between_add_hundred (by decide) hsum
    (between_mul_points (w := decimal 2 1) (lt_zero_iff.1 (by decide +kernel)) (by decide +kernel) hcls)
  exact hsum.mono le_rfl (by norm_num)

/-- Runs without a measurement below zero have a score, however large the measurements are. -/
theorem scoreInRange_of_nonneg (hruns : runs ≠ []) (hcount : runs.length ≤ 2 ^ 53)
    (h : ∀ r ∈ runs, r.IsNonneg) : ScoreInRange runs := by
  have hscores : ∀ score ∈ runs.map Readings.score, Between 0 (2 ^ 9) score := by
    intro score hscore
    obtain ⟨r, hr, rfl⟩ := List.mem_map.1 hscore
    exact between_score (h r hr)
  have hmean := between_meanOf (by decide) hscores (by simpa using hruns) (by simpa using hcount)
  exact hasHundredfold_of_between hmean.symm_of_nonneg (by decide)

end SiteTrial
