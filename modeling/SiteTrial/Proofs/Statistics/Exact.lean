import Mathlib
import SiteTrial.Proofs.Answers
import SiteTrial.Proofs.Statistics.Sorted
import SiteTrial.Statistics.Summary

/-!
# Exact measurements

Real numbers are measurements too. Nothing about them is rounded but what is rounded on purpose, and they
can all be summarized and compared.

* `Arithmetic ℝ` : the operations on real numbers;
* `hundredths` : two decimals, a half upwards; `hundredths_mono`, `abs_hundredths_sub_le`, `hundredths_add` :
  what rounding keeps, how far it is off, and what it does not disturb;
* `round2_exact`, `interpolate_exact`, `standardError_exact` : what the operations come to;
* `Summary.unrounded`, `summarize_exact` : the summary of measurements, and what it is rounded from;
* `exists_summarize_exact` : measurements have a summary, with their mean and variance in it;
* `exists_isSignificant` : whether two lists differ, which they do from each other alike;
* `isSignificant_replicate` : two lists without any spread.
-/

namespace SiteTrial

open Arithmetic

open Classical in
noncomputable instance : Arithmetic ℝ where
  add a b := a + b
  sub a b := a - b
  mul a b := a * b
  div a b := a / b
  abs a := |a|
  ofInt n := n
  decimal digits places := digits / 10 ^ places
  lt a b := decide (a < b)
  eq a b := decide (a = b)
  floor a := .ok ⌊a⌋
  ceil a := .ok ⌈a⌉
  square a := .ok (a ^ 2)
  root a := if a < 0 then .error .rootOfNegative else .ok (Real.sqrt a)

/-! ## Two decimals -/

noncomputable def hundredths (x : ℝ) : ℝ := ⌊x * 100 + 5 / 10⌋ / 100

theorem hundredths_mono : Monotone hundredths := by
  intro x y hxy
  have hscaled : x * 100 + 5 / 10 ≤ y * 100 + 5 / 10 := by linarith
  have hfloor : (⌊x * 100 + 5 / 10⌋ : ℝ) ≤ ⌊y * 100 + 5 / 10⌋ := by
    exact_mod_cast Int.floor_mono hscaled
  exact div_le_div_of_nonneg_right hfloor (by norm_num)

theorem hundredths_nonneg {x : ℝ} (hx : 0 ≤ x) : 0 ≤ hundredths x := by
  have hfloor : 0 ≤ ⌊x * 100 + 5 / 10⌋ := Int.floor_nonneg.2 (by positivity)
  unfold hundredths
  positivity

theorem hundredths_le (x : ℝ) : hundredths x ≤ x + 0.005 := by
  have hfloor := Int.floor_le (x * 100 + 5 / 10)
  unfold hundredths
  linarith

theorem lt_hundredths (x : ℝ) : x - 0.005 < hundredths x := by
  have hfloor := Int.lt_floor_add_one (x * 100 + 5 / 10)
  unfold hundredths
  linarith

theorem abs_hundredths_sub_le (x : ℝ) : |hundredths x - x| ≤ 0.005 := by
  rw [abs_sub_le_iff]
  exact ⟨by linarith [hundredths_le x], by linarith [lt_hundredths x]⟩

theorem hundredths_eq {x : ℝ} {n : ℤ} (hlow : n - 0.5 ≤ x * 100) (hhigh : x * 100 < n + 0.5) :
    hundredths x = n / 100 := by
  have hfloor : ⌊x * 100 + 5 / 10⌋ = n := by
    rw [Int.floor_eq_iff]
    constructor
    · linarith
    · linarith
  rw [hundredths, hfloor]

theorem hundredths_eq_zero_iff {x : ℝ} (hx : 0 ≤ x) : hundredths x = 0 ↔ x < 0.005 := by
  constructor
  · intro hzero
    have hlow := lt_hundredths x
    rw [hzero] at hlow
    linarith
  · intro hsmall
    rw [hundredths_eq (n := 0)]
    · simp
    · push_cast
      linarith
    · push_cast
      linarith

theorem hundredths_zero : hundredths 0 = 0 := (hundredths_eq_zero_iff le_rfl).2 (by norm_num)

theorem hundredths_add (x : ℝ) (k : ℤ) : hundredths (x + k / 100) = hundredths x + k / 100 := by
  have hscaled : (x + k / 100) * 100 + 5 / 10 = x * 100 + 5 / 10 + k := by ring
  unfold hundredths
  rw [hscaled, Int.floor_add_intCast, Int.cast_add, add_div]

/-! ## Operations -/

theorem ofInt_exact (n : Int) : (ofInt n : ℝ) = n := rfl

theorem lt_exact (a b : ℝ) : lt a b = decide (a < b) := rfl

theorem eq_exact (a b : ℝ) : eq a b = decide (a = b) := rfl

theorem root_exact {a : ℝ} (h : 0 ≤ a) : root a = .ok (Real.sqrt a) := if_neg (not_lt.2 h)

theorem round2_exact (x : ℝ) : round2 x = .ok (hundredths x) := by
  unfold round2 hundredths
  simp [floor, ofInt, decimal, bind, Except.bind, pure, Except.pure]

theorem orders_exact : Sorted.Orders (lt : ℝ → ℝ → Bool) fun _ => True where
  asymm := by
    intro a b _ _ hab
    simp only [lt_exact, decide_eq_true_eq, decide_eq_false_iff_not] at hab ⊢
    exact not_lt.2 hab.le
  trans := by
    intro a b c _ _ _ hab hbc
    simp only [lt_exact, decide_eq_false_iff_not, not_lt] at hab hbc ⊢
    exact hab.trans hbc

/-! ## Summaries -/

/-- The percentile of values in rising order, before it is rounded. -/
noncomputable def onLine (first : ℝ) (rest : List ℝ) (p : ℝ) : ℝ :=
  let index := p / 100 * rest.length
  let weight := index - ⌊index⌋
  if ⌈index⌉ > rest.length then nth first rest rest.length
  else if ⌊index⌋ < 0 then first
  else nth first rest ⌊index⌋.toNat * (1 - weight) + nth first rest ⌈index⌉.toNat * weight

theorem interpolate_exact (first : ℝ) (rest : List ℝ) (p : ℝ) :
    interpolate first rest p = .ok (onLine first rest p) := by
  unfold interpolate onLine
  simp only [floor, ceil, ok_bind, ofInt_exact, Int.cast_ofNat, Int.cast_natCast, Int.cast_one]
  split
  · rfl
  · split <;> rfl

theorem cast_length_pos {vs : List ℝ} (h : vs ≠ []) : (0 : ℝ) < vs.length := by
  exact_mod_cast List.length_pos_of_ne_nil h

theorem total_exact (vs : List ℝ) : total vs = vs.sum := by
  unfold total
  rw [List.sum_eq_foldl]
  simp [ofInt_exact]

theorem meanOf_exact (vs : List ℝ) : meanOf vs = vs.sum / vs.length := by
  unfold meanOf
  rw [total_exact]
  rfl

/-- The mean of the squared distances from the mean. -/
noncomputable def spread (vs : List ℝ) : ℝ := (vs.map fun v => (v - meanOf vs) ^ 2).sum / vs.length

theorem varianceAround_exact (vs : List ℝ) : varianceAround (meanOf vs) vs = .ok (spread vs) := by
  have hsquares : vs.mapM (fun v => square (v - meanOf vs)) = .ok (vs.map fun v => (v - meanOf vs) ^ 2) :=
    List.mapM_pure
  unfold varianceAround
  rw [hsquares, ok_bind, total_exact]
  rfl

theorem spread_nonneg (vs : List ℝ) : 0 ≤ spread vs := by
  refine div_nonneg (List.sum_nonneg fun a ha => ?_) (Nat.cast_nonneg _)
  obtain ⟨v, -, rfl⟩ := List.mem_map.1 ha
  exact sq_nonneg _

/-- The summary of values in rising order, before anything is rounded. -/
noncomputable def Summary.unrounded (first : ℝ) (rest : List ℝ) : Summary ℝ where
  mean := meanOf (first :: rest)
  median := onLine first rest 50
  p95 := onLine first rest 95
  p99 := onLine first rest 99
  min := first
  max := nth first rest rest.length
  standardDeviation := Real.sqrt (spread (first :: rest))
  variance := spread (first :: rest)

/-- A summary with two decimals for each number. -/
noncomputable def Summary.rounded (s : Summary ℝ) : Summary ℝ where
  mean := hundredths s.mean
  median := hundredths s.median
  p95 := hundredths s.p95
  p99 := hundredths s.p99
  min := hundredths s.min
  max := hundredths s.max
  standardDeviation := hundredths s.standardDeviation
  variance := hundredths s.variance

theorem ofRising_exact (first : ℝ) (rest : List ℝ) :
    Summary.ofRising first rest = .ok (Summary.unrounded first rest).rounded := by
  have hroot := root_exact (spread_nonneg (first :: rest))
  unfold Summary.ofRising
  simp only [varianceAround_exact, interpolate_exact, hroot, round2_exact, ok_bind, ofInt_exact,
    Int.cast_ofNat]
  rfl

theorem summarize_exact {vs rest : List ℝ} {first : ℝ} (h : rising vs = first :: rest) :
    summarize vs = .ok (Summary.unrounded first rest).rounded := by
  unfold summarize
  rw [h]
  dsimp only
  rw [ofRising_exact]
  rfl

theorem rising_perm (vs : List ℝ) : (rising vs).Perm vs :=
  (Sorted.merged_sorted orders_exact fun _ (_ : _ ∈ vs) => trivial).perm

theorem meanOf_perm {vs ws : List ℝ} (h : vs.Perm ws) : meanOf vs = meanOf ws := by
  rw [meanOf_exact, meanOf_exact, h.sum_eq, h.length_eq]

theorem spread_perm {vs ws : List ℝ} (h : vs.Perm ws) : spread vs = spread ws := by
  unfold spread
  rw [meanOf_perm h, (h.map _).sum_eq, h.length_eq]

theorem exists_rising {vs : List ℝ} (h : vs ≠ []) : ∃ first rest, rising vs = first :: rest := by
  cases hrising : rising vs with
  | nil =>
      have hperm := rising_perm vs
      rw [hrising] at hperm
      exact absurd hperm.symm.eq_nil h
  | cons first rest => exact ⟨first, rest, rfl⟩

/-- Measurements have a summary, and its mean and variance are theirs, rounded. -/
theorem exists_summarize_exact {vs : List ℝ} (h : vs ≠ []) :
    ∃ s, summarize vs = .ok s ∧ s.mean = hundredths (meanOf vs) ∧
      s.variance = hundredths (spread vs) := by
  obtain ⟨first, rest, hrising⟩ := exists_rising h
  have hperm := rising_perm vs
  rw [hrising] at hperm
  refine ⟨_, summarize_exact hrising, ?_, ?_⟩
  · exact congrArg hundredths (meanOf_perm hperm)
  · exact congrArg hundredths (spread_perm hperm)

theorem exists_summarize {vs : List ℝ} (h : vs ≠ []) :
    ∃ s, summarize vs = .ok s ∧ 0 ≤ s.variance := by
  obtain ⟨s, hs, -, hvariance⟩ := exists_summarize_exact h
  exact ⟨s, hs, hvariance ▸ hundredths_nonneg (spread_nonneg vs)⟩

theorem ne_nil_of_summarize {vs : List ℝ} {s : Summary ℝ} (h : summarize vs = .ok s) : vs ≠ [] := by
  rintro rfl
  cases h

theorem figures_of_summarize {vs : List ℝ} {s : Summary ℝ} (h : summarize vs = .ok s) :
    s.mean = hundredths (meanOf vs) ∧ s.variance = hundredths (spread vs) := by
  obtain ⟨other, hother, hfigures⟩ := exists_summarize_exact (ne_nil_of_summarize h)
  rw [h] at hother
  cases hother
  exact hfigures

theorem mean_of_summarize {vs : List ℝ} {s : Summary ℝ} (h : summarize vs = .ok s) :
    s.mean = hundredths (meanOf vs) := (figures_of_summarize h).1

theorem variance_of_summarize {vs : List ℝ} {s : Summary ℝ} (h : summarize vs = .ok s) :
    s.variance = hundredths (spread vs) := (figures_of_summarize h).2

theorem mean_nonneg {vs : List ℝ} {s : Summary ℝ} (h : summarize vs = .ok s) (hvs : ∀ v ∈ vs, 0 ≤ v) :
    0 ≤ s.mean := by
  rw [mean_of_summarize h, meanOf_exact]
  exact hundredths_nonneg (div_nonneg (List.sum_nonneg hvs) (Nat.cast_nonneg _))

/-! ## Tests -/

theorem standardError_exact (m n : Nat) (v w : ℝ) :
    standardError m n v w =
      root (((m - 1) * v + (n - 1) * w) / (m + n - 2) * (1 / m + 1 / n) : ℝ) := by
  unfold standardError
  simp [ofInt]

/-- Two sides may be exchanged. -/
theorem standardError_comm (m n : Nat) (v w : ℝ) : standardError m n v w = standardError n m w v := by
  rw [standardError_exact, standardError_exact]
  congr 1
  ring

theorem exists_standardError {m n : Nat} (hm : 1 ≤ m) (hn : 1 ≤ n) {v w : ℝ} (hv : 0 ≤ v)
    (hw : 0 ≤ w) : ∃ e, standardError m n v w = .ok e := by
  have hm' : (1 : ℝ) ≤ m := by exact_mod_cast hm
  have hn' : (1 : ℝ) ≤ n := by exact_mod_cast hn
  rw [standardError_exact]
  refine ⟨_, root_exact (mul_nonneg (div_nonneg (add_nonneg ?_ ?_) (by linarith)) (by positivity))⟩
  · exact mul_nonneg (by linarith) hv
  · exact mul_nonneg (by linarith) hw

/-- Whether two lists of measurements differ can be said, and each differs from the other alike. -/
theorem exists_isSignificant (xs ys : List ℝ) :
    ∃ b, isSignificant xs ys = .ok b ∧ isSignificant ys xs = .ok b := by
  unfold isSignificant
  by_cases hfew : xs.length < 2 ∨ ys.length < 2
  · rw [if_pos hfew, if_pos hfew.symm]
    exact ⟨false, rfl, rfl⟩
  · rw [if_neg hfew, if_neg (mt Or.symm hfew)]
    have hxs : 2 ≤ xs.length := by omega
    have hys : 2 ≤ ys.length := by omega
    obtain ⟨a, ha, hav⟩ := exists_summarize (List.ne_nil_of_length_pos (Nat.zero_lt_of_lt hxs))
    obtain ⟨b, hb, hbv⟩ := exists_summarize (List.ne_nil_of_length_pos (Nat.zero_lt_of_lt hys))
    obtain ⟨e, he⟩ := exists_standardError (Nat.le_of_succ_le hxs) (Nat.le_of_succ_le hys) hav hbv
    have hback := (standardError_comm ys.length xs.length b.variance a.variance).trans he
    have hdistance : Arithmetic.abs (b.mean - a.mean) = Arithmetic.abs (a.mean - b.mean) :=
      abs_sub_comm b.mean a.mean
    simp only [ha, hb, ok_bind, he, hback, hdistance]
    exact ⟨_, rfl, rfl⟩

/-! ## Lists without any spread -/

theorem meanOf_replicate {n : Nat} (hn : 0 < n) (v : ℝ) : meanOf (List.replicate n v) = v := by
  have hcount : (n : ℝ) ≠ 0 := by exact_mod_cast hn.ne'
  rw [meanOf_exact, List.sum_replicate, List.length_replicate, nsmul_eq_mul,
    mul_div_cancel_left₀ v hcount]

theorem spread_replicate {n : Nat} (hn : 0 < n) (v : ℝ) : spread (List.replicate n v) = 0 := by
  unfold spread
  rw [meanOf_replicate hn, List.map_replicate, sub_self]
  simp

theorem summarize_replicate {n : Nat} (hn : 0 < n) (v : ℝ) :
    ∃ s, summarize (List.replicate n v) = .ok s ∧ s.mean = hundredths v ∧ s.variance = 0 := by
  have hne : List.replicate n v ≠ [] := by
    rw [Ne, List.replicate_eq_nil_iff]
    exact hn.ne'
  obtain ⟨s, hs, hmean, hvariance⟩ := exists_summarize_exact hne
  refine ⟨s, hs, by rw [hmean, meanOf_replicate hn], ?_⟩
  rw [hvariance, spread_replicate hn, hundredths_zero]

/-- Without any spread all lists of two or more are different that have different means. -/
theorem isSignificant_replicate {m n : Nat} (hm : 2 ≤ m) (hn : 2 ≤ n) {v w : ℝ}
    (hmeans : hundredths v ≠ hundredths w) :
    isSignificant (List.replicate m v) (List.replicate n w) = .ok true := by
  obtain ⟨a, ha, hamean, havariance⟩ := summarize_replicate (Nat.zero_lt_of_lt hm) v
  obtain ⟨b, hb, hbmean, hbvariance⟩ := summarize_replicate (Nat.zero_lt_of_lt hn) w
  have herror : standardError m n a.variance b.variance = .ok 0 := by
    rw [standardError_exact, havariance, hbvariance, root_exact]
    all_goals simp
  have hdistance : 0 < |a.mean - b.mean| := by
    rw [hamean, hbmean]
    exact abs_pos.2 (sub_ne_zero.2 hmeans)
  unfold isSignificant
  rw [List.length_replicate, List.length_replicate, if_neg (by omega), ha, hb]
  simp only [ok_bind, herror]
  show Except.ok (exceedsError |a.mean - b.mean| (0 : ℝ)) = _
  simp [exceedsError, eq_exact, lt_exact, ofInt_exact, hdistance]

end SiteTrial
