import SiteTrial.Proofs.Statistics.Exact

/-!
# Lists without spread

A test of two lists whose standard error is zero takes any difference of the two means for decisive. Lists of
equal values come to that. But the error is made of variances that have two decimals, so that lists of other
values come to it as well, as long as both variances are below half a hundredth.

* `Flat`, `spread_eq_zero_iff` : lists without spread;
* `sq_sub_le_spread`, `sq_sub_lt` : how far apart the values of a list can be;
* `Tested`, `exists_tested` : the figures of a test; `Tested.error_eq_zero_iff` : where its error is zero;
* `error_eq_zero_iff_spread` : what that says of the lists;
* `overlapping_shifts_decisive` : two lists that overlap, with an error of zero.
-/

namespace SiteTrial

open Arithmetic

/-- All values are the same. -/
def Flat (vs : List ℝ) : Prop := ∀ v ∈ vs, ∀ w ∈ vs, v = w

variable {vs xs ys : List ℝ}

/-! ## Spread -/

theorem length_mul_spread (vs : List ℝ) :
    vs.length * spread vs = (vs.map fun v => (v - meanOf vs) ^ 2).sum := by
  rcases eq_or_ne vs [] with rfl | hsome
  · simp
  · exact mul_div_cancel₀ _ (cast_length_pos hsome).ne'

/-- The farther apart two values of a list are, the larger is its spread. -/
theorem sq_sub_le_spread {v w : ℝ} (hv : v ∈ vs) (hw : w ∈ vs) :
    (v - w) ^ 2 ≤ 2 * (vs.length * spread vs) := by
  rw [length_mul_spread]
  generalize meanOf vs = mean
  have hsquares : ∀ ws : List ℝ, 0 ≤ (ws.map fun u => (u - mean) ^ 2).sum := by
    intro ws
    refine List.sum_nonneg fun a ha => ?_
    obtain ⟨u, -, rfl⟩ := List.mem_map.1 ha
    exact sq_nonneg _
  rcases eq_or_ne v w with rfl | hne
  · rw [sub_self, zero_pow two_ne_zero]
    exact mul_nonneg zero_le_two (hsquares vs)
  · -- two squares are half the square of their roots' difference and half that of their sum
    have hperm : vs.Perm (v :: w :: (vs.erase v).erase w) :=
      (List.perm_cons_erase hv).trans
        ((List.perm_cons_erase ((List.mem_erase_of_ne hne.symm).2 hw)).cons v)
    have hrest := hsquares ((vs.erase v).erase w)
    have hmiddle := sq_nonneg (v - mean + (w - mean))
    rw [(hperm.map _).sum_eq, List.map_cons, List.map_cons, List.sum_cons, List.sum_cons]
    linarith

theorem sq_sub_lt (h : spread vs < 0.005) {v w : ℝ} (hv : v ∈ vs) (hw : w ∈ vs) :
    (v - w) ^ 2 < 0.01 * vs.length := by
  have hapart := sq_sub_le_spread hv hw
  have hscaled := mul_lt_mul_of_pos_left h (cast_length_pos (List.ne_nil_of_mem hv))
  linarith

theorem Flat.eq_replicate {v : ℝ} {vs : List ℝ} (h : Flat (v :: vs)) :
    v :: vs = List.replicate (vs.length + 1) v :=
  List.eq_replicate_of_mem fun w hw => h w hw v (List.mem_cons_self ..)

/-- Only lists of equal values have no spread. -/
theorem spread_eq_zero_iff (vs : List ℝ) : spread vs = 0 ↔ Flat vs := by
  constructor
  · intro hzero v hv w hw
    have hapart := sq_sub_le_spread hv hw
    rw [hzero, mul_zero, mul_zero] at hapart
    exact sub_eq_zero.1 (pow_eq_zero_iff two_ne_zero |>.1 (le_antisymm hapart (sq_nonneg _)))
  · intro hflat
    cases vs with
    | nil => simp [spread]
    | cons v vs =>
        rw [hflat.eq_replicate]
        exact spread_replicate (Nat.succ_pos _) v

theorem spread_pair (v w : ℝ) : spread [v, w] = ((v - w) / 2) ^ 2 := by
  simp [spread, meanOf_exact]
  ring

/-! ## Errors -/

/-- A standard error of variances is zero if the variances are. -/
theorem standardError_eq_zero_iff {m n : Nat} {v w e : ℝ} (hm : 2 ≤ m) (hn : 2 ≤ n) (hv : 0 ≤ v)
    (hw : 0 ≤ w) (h : standardError m n v w = .ok e) : e = 0 ↔ v = 0 ∧ w = 0 := by
  have hm' : (2 : ℝ) ≤ m := by exact_mod_cast hm
  have hn' : (2 : ℝ) ≤ n := by exact_mod_cast hn
  have hfirst : 0 ≤ (m - 1) * v := mul_nonneg (by linarith) hv
  have hsecond : 0 ≤ (n - 1) * w := mul_nonneg (by linarith) hw
  have hshares : (0 : ℝ) < 1 / m + 1 / n := by positivity
  have hpooled : 0 ≤ ((m - 1) * v + (n - 1) * w) / (m + n - 2) :=
    div_nonneg (add_nonneg hfirst hsecond) (by linarith)
  rw [standardError_exact, root_exact (mul_nonneg hpooled hshares.le)] at h
  rw [← Except.ok.inj h, Real.sqrt_eq_zero (mul_nonneg hpooled hshares.le), mul_eq_zero,
    or_iff_left hshares.ne', div_eq_zero_iff, or_iff_left (by linarith),
    add_eq_zero_iff_of_nonneg hfirst hsecond, mul_eq_zero, mul_eq_zero, or_iff_right (by linarith),
    or_iff_right (by linarith)]

/-! ## Tests -/

/-- What two lists are tested with: their summaries, and the standard error of the difference of the means. -/
structure Tested (xs ys : List ℝ) (a b : Summary ℝ) (error : ℝ) : Prop where
  first : summarize xs = .ok a
  second : summarize ys = .ok b
  standardError : standardError xs.length ys.length a.variance b.variance = .ok error
  answer : isSignificant xs ys = .ok (exceedsError (Arithmetic.abs (a.mean - b.mean)) error)

theorem exists_tested (hxs : 2 ≤ xs.length) (hys : 2 ≤ ys.length) : ∃ a b error, Tested xs ys a b error := by
  obtain ⟨a, ha, hav⟩ := exists_summarize (List.ne_nil_of_length_pos (Nat.zero_lt_of_lt hxs))
  obtain ⟨b, hb, hbv⟩ := exists_summarize (List.ne_nil_of_length_pos (Nat.zero_lt_of_lt hys))
  obtain ⟨error, herror⟩ :=
    exists_standardError (Nat.le_of_succ_le hxs) (Nat.le_of_succ_le hys) hav hbv
  refine ⟨a, b, error, ha, hb, herror, ?_⟩
  unfold isSignificant
  rw [if_neg (by omega), ha, hb, ok_bind, ok_bind, herror]
  rfl

theorem Tested.error_eq_zero_iff {a b : Summary ℝ} {error : ℝ} (h : Tested xs ys a b error)
    (hxs : 2 ≤ xs.length) (hys : 2 ≤ ys.length) :
    error = 0 ↔ spread xs < 0.005 ∧ spread ys < 0.005 := by
  have herror := h.standardError
  rw [variance_of_summarize h.first, variance_of_summarize h.second] at herror
  rw [standardError_eq_zero_iff hxs hys (hundredths_nonneg (spread_nonneg xs))
    (hundredths_nonneg (spread_nonneg ys)) herror, hundredths_eq_zero_iff (spread_nonneg xs),
    hundredths_eq_zero_iff (spread_nonneg ys)]

/-- Without any error the means are compared with each other alone. -/
theorem exceedsError_zero (a b : ℝ) : exceedsError (Arithmetic.abs (a - b)) 0 = decide (a ≠ b) := by
  show exceedsError |a - b| (0 : ℝ) = decide (a ≠ b)
  simp [exceedsError, eq_exact, lt_exact, ofInt_exact, sub_eq_zero]

/-- The test of two lists has an error of zero exactly if both variances are below half a hundredth, and then
any two means that differ after rounding are significantly different. Lists of equal values, which are those
without variance, come to that, but they are not the only ones: it is known of the others that no two values
of a list are farther apart than a tenth of the root of their number. -/
theorem error_eq_zero_iff_spread (hxs : 2 ≤ xs.length) (hys : 2 ≤ ys.length) :
    ∃ a b error, Tested xs ys a b error ∧
      (error = 0 ↔ spread xs < 0.005 ∧ spread ys < 0.005) ∧
      (error = 0 → isSignificant xs ys = .ok (decide (a.mean ≠ b.mean))) ∧
      (Flat xs ∧ Flat ys ↔ spread xs = 0 ∧ spread ys = 0) ∧
      (error = 0 → (∀ v ∈ xs, ∀ w ∈ xs, (v - w) ^ 2 < 0.01 * xs.length) ∧
        ∀ v ∈ ys, ∀ w ∈ ys, (v - w) ^ 2 < 0.01 * ys.length) := by
  obtain ⟨a, b, error, htested⟩ := exists_tested hxs hys
  have hzero := htested.error_eq_zero_iff hxs hys
  refine ⟨a, b, error, htested, hzero, fun h => ?_, ?_, fun h => ?_⟩
  · rw [htested.answer, h, exceedsError_zero]
  · rw [spread_eq_zero_iff, spread_eq_zero_iff]
  · obtain ⟨hx, hy⟩ := hzero.1 h
    exact ⟨fun _ hv _ hw => sq_sub_lt hx hv hw, fun _ hv _ hw => sq_sub_lt hy hv hw⟩

/-- Of two lists, of which the first has so little spread that it is rounded away and the second a little
more: the error is not zero. -/
theorem error_eq_zero_iff_spread_shifts :
    2 ≤ [(0.1 : ℝ), 0.2].length ∧ 2 ≤ [(0.1 : ℝ), 0.3].length ∧
      ∃ a b error, Tested [0.1, 0.2] [0.1, 0.3] a b error ∧ error ≠ 0 := by
  have htwo : 2 ≤ [(0.1 : ℝ), 0.2].length := by decide
  have htwo' : 2 ≤ [(0.1 : ℝ), 0.3].length := by decide
  obtain ⟨a, b, error, htested, hzero, -⟩ := error_eq_zero_iff_spread htwo htwo'
  refine ⟨htwo, htwo', a, b, error, htested, fun h => ?_⟩
  have hsmall := (hzero.1 h).2
  norm_num [spread, meanOf_exact] at hsmall

/-- Layout shifts of two applications whose ranges overlap almost wholly. The test comes to an error of zero and
says that they differ, although neither list is without spread; with the variances as they are, the error is
four times the difference of the means. -/
theorem overlapping_shifts_decisive :
    (∀ v ∈ [(0.02 : ℝ), 0.1, 0.03, 0.11], 0 < v) ∧
      (∃ a b, Tested [0.02, 0.1] [0.03, 0.11] a b 0) ∧ ¬ Flat [0.02, 0.1] ∧ ¬ Flat [0.03, 0.11] ∧
      isSignificant [(0.02 : ℝ), 0.1] [0.03, 0.11] = .ok true ∧
      standardError 2 2 (spread [0.02, 0.1]) (spread [0.03, 0.11]) = .ok 0.04 ∧
      exceedsError (Arithmetic.abs (meanOf [(0.02 : ℝ), 0.1] - meanOf [0.03, 0.11])) 0.04 = false := by
  have hspread : spread [0.02, 0.1] = 0.0016 := by
    rw [spread_pair]
    norm_num
  have hspread' : spread [0.03, 0.11] = 0.0016 := by
    rw [spread_pair]
    norm_num
  have hmean : meanOf [(0.02 : ℝ), 0.1] = 0.06 := by
    norm_num [meanOf_exact]
  have hmean' : meanOf [(0.03 : ℝ), 0.11] = 0.07 := by
    norm_num [meanOf_exact]
  have hrounded : hundredths 0.06 = 0.06 := by
    rw [hundredths_eq (n := 6)] <;> norm_num
  have hrounded' : hundredths 0.07 = 0.07 := by
    rw [hundredths_eq (n := 7)] <;> norm_num
  obtain ⟨a, b, error, htested⟩ := @exists_tested [0.02, 0.1] [0.03, 0.11] le_rfl le_rfl
  have hzero : error = 0 := by
    rw [htested.error_eq_zero_iff le_rfl le_rfl, hspread, hspread']
    norm_num
  subst hzero
  have hroot : Real.sqrt 0.0016 = 0.04 := by
    rw [show (0.0016 : ℝ) = 0.04 ^ 2 by norm_num, Real.sqrt_sq (by norm_num)]
  refine ⟨by norm_num, ⟨a, b, htested⟩, ?_, ?_, ?_, ?_, ?_⟩
  · rw [← spread_eq_zero_iff, hspread]
    norm_num
  · rw [← spread_eq_zero_iff, hspread']
    norm_num
  · rw [htested.answer, exceedsError_zero, mean_of_summarize htested.first,
      mean_of_summarize htested.second, hmean, hmean', hrounded, hrounded']
    norm_num
  · rw [standardError_exact, hspread, hspread', root_exact (by norm_num), ← hroot]
    norm_num
  · rw [hmean, hmean']
    show exceedsError |(0.06 : ℝ) - 0.07| 0.04 = false
    norm_num [exceedsError, eq_exact, lt_exact, ofInt_exact, criticalValue, abs_of_neg]

end SiteTrial
