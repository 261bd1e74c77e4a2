import SiteTrial.Proofs.Statistics.Monotone

/-!
# Shifted measurements

Where all measurements grow by the same amount, so do the figures of a summary that are places among them, and
the spread stays. Rounding to two decimals does not disturb this if the amount has no more than two.

* `rising_shifted`, `onLine_shifted`, `meanOf_shifted`, `spread_shifted` : the figures of shifted values;
* `Summary.shifted`, `exists_summarize_shifted` : the summary of shifted measurements;
* `statistics_shifted` : summaries and tests of shifted measurements.
-/

namespace SiteTrial

open Arithmetic

/-- The same summary for measurements that are larger by `d`. -/
noncomputable def Summary.shifted (d : ℝ) (s : Summary ℝ) : Summary ℝ :=
  { s with
    mean := s.mean + d
    median := s.median + d
    p95 := s.p95 + d
    p99 := s.p99 + d
    min := s.min + d
    max := s.max + d }

variable {vs rest : List ℝ} {first d : ℝ}

/-! ## Figures -/

theorem rising_shifted (vs : List ℝ) (d : ℝ) : rising (vs.map (· + d)) = (rising vs).map (· + d) := by
  refine ((rising_perm _).trans ((rising_perm vs).map _).symm).eq_of_pairwise
    (fun _ _ _ _ => le_antisymm) (pairwise_rising _) ?_
  exact (pairwise_rising vs).map _ fun _ _ h => add_le_add_left h d

theorem nth_shifted (first : ℝ) (rest : List ℝ) (d : ℝ) (i : Nat) :
    nth (first + d) (rest.map (· + d)) i = nth first rest i + d := by
  have hall : (first + d) :: rest.map (· + d) = (first :: rest).map (· + d) := rfl
  unfold nth
  simp only [hall, List.getElem?_map, List.getLast_map]
  cases (first :: rest)[i]? with
  | none => rfl
  | some v => rfl

theorem onLine_shifted (first : ℝ) (rest : List ℝ) (d p : ℝ) :
    onLine (first + d) (rest.map (· + d)) p = onLine first rest p + d := by
  unfold onLine
  simp only [List.length_map, nth_shifted]
  split
  · rfl
  · split
    · rfl
    · ring

theorem sum_shifted (vs : List ℝ) (d : ℝ) : (vs.map (· + d)).sum = vs.sum + vs.length * d := by
  rw [List.sum_map_add, List.map_id', List.map_const', List.sum_replicate, nsmul_eq_mul]

theorem meanOf_shifted (hsome : vs ≠ []) (d : ℝ) : meanOf (vs.map (· + d)) = meanOf vs + d := by
  rw [meanOf_exact, meanOf_exact, sum_shifted, List.length_map, add_div,
    mul_div_cancel_left₀ d (cast_length_pos hsome).ne']

theorem spread_shifted (hsome : vs ≠ []) (d : ℝ) : spread (vs.map (· + d)) = spread vs := by
  unfold spread
  rw [meanOf_shifted hsome, List.map_map, List.length_map]
  simp [Function.comp_def]

/-! ## Summaries -/

theorem unrounded_shifted (first : ℝ) (rest : List ℝ) (d : ℝ) :
    Summary.unrounded (first + d) (rest.map (· + d)) = (Summary.unrounded first rest).shifted d := by
  have hsome := List.cons_ne_nil first rest
  unfold Summary.unrounded Summary.shifted
  rw [← List.map_cons (f := (· + d)), meanOf_shifted hsome, spread_shifted hsome]
  simp only [onLine_shifted, nth_shifted, List.length_map]

theorem Summary.rounded_shifted (s : Summary ℝ) (k : ℤ) :
    (s.shifted (k / 100)).rounded = s.rounded.shifted (k / 100) := by
  simp [Summary.rounded, Summary.shifted, hundredths_add]

/-- The summary of measurements that are larger by whole hundredths. -/
theorem exists_summarize_shifted (hsome : vs ≠ []) (k : ℤ) :
    ∃ s, summarize vs = .ok s ∧ summarize (vs.map (· + (k / 100 : ℝ))) = .ok (s.shifted (k / 100)) := by
  obtain ⟨first, rest, hrising⟩ := exists_rising hsome
  have hshifted : rising (vs.map (· + (k / 100 : ℝ))) = (first + k / 100) :: rest.map (· + (k / 100 : ℝ)) := by
    rw [rising_shifted, hrising, List.map_cons]
  refine ⟨_, summarize_exact hrising, ?_⟩
  rw [summarize_exact hshifted, unrounded_shifted, Summary.rounded_shifted]

/-! ## Tests -/

theorem isSignificant_shifted (xs ys : List ℝ) (k : ℤ) :
    isSignificant (xs.map (· + (k / 100 : ℝ))) (ys.map (· + (k / 100 : ℝ))) = isSignificant xs ys := by
  unfold isSignificant
  rw [List.length_map, List.length_map]
  split
  · rfl
  · next hfew =>
      rw [not_or, not_lt, not_lt] at hfew
      obtain ⟨a, ha, hashifted⟩ :=
        exists_summarize_shifted (List.ne_nil_of_length_pos (Nat.zero_lt_of_lt hfew.1)) k
      obtain ⟨b, hb, hbshifted⟩ :=
        exists_summarize_shifted (List.ne_nil_of_length_pos (Nat.zero_lt_of_lt hfew.2)) k
      have hdistance : Arithmetic.abs ((a.shifted (k / 100)).mean - (b.shifted (k / 100)).mean) =
          Arithmetic.abs (a.mean - b.mean) :=
        congrArg Arithmetic.abs (add_sub_add_right_eq_sub a.mean b.mean (k / 100 : ℝ))
      rw [ha, hb, hashifted, hbshifted]
      simp only [ok_bind, hdistance]
      rfl

/-- Measurements that are all larger by the same whole hundredths, or smaller, have the same summary but for the
figures that are places among them, which are larger by exactly as much; and two lists of measurements that are
both shifted so are as significantly different as they were. -/
theorem statistics_shifted (k : ℤ) :
    (∀ vs : List ℝ, vs ≠ [] →
      ∃ s, summarize vs = .ok s ∧ summarize (vs.map (· + (k / 100 : ℝ))) = .ok (s.shifted (k / 100))) ∧
    ∀ xs ys : List ℝ, ∃ significant, isSignificant xs ys = .ok significant ∧
      isSignificant (xs.map (· + (k / 100 : ℝ))) (ys.map (· + (k / 100 : ℝ))) = .ok significant := by
  refine ⟨fun vs hsome => exists_summarize_shifted hsome k, fun xs ys => ?_⟩
  obtain ⟨significant, hsignificant, -⟩ := exists_isSignificant xs ys
  exact ⟨significant, hsignificant, (isSignificant_shifted xs ys k).trans hsignificant⟩

/-- Measurements that all lose a hundredth, by which some of them come to lie below zero. -/
theorem statistics_shifted_down :
    [(0.005 : ℝ), 2] ≠ [] ∧ ∃ s, summarize [(0.005 : ℝ), 2] = .ok s ∧
      summarize [(0.005 : ℝ) + (-1 : ℤ) / 100, 2 + (-1 : ℤ) / 100] = .ok (s.shifted ((-1 : ℤ) / 100)) := by
  have hsome : [(0.005 : ℝ), 2] ≠ [] := List.cons_ne_nil _ _
  exact ⟨hsome, (statistics_shifted (-1)).1 _ hsome⟩

end SiteTrial
