import SiteTrial.Proofs.Statistics.Exact

/-!
# Larger measurements

Measurements that are nowhere smaller than others have a summary that is nowhere smaller, spread apart. They
need not stand in rising order where they are compared: the value at a place of the rising order is at most
some number exactly if so many values are, and of smaller values there are no fewer.

* `getElem_le_of_lt_countP`, `lt_countP_getElem` : the place of a value, and how many are no larger;
* `forall₂_le_of_perm`, `rising_le_rising` : rising orders of lists of which one is nowhere smaller;
* `nth_le_nth`, `onLine_le_onLine` : the percentiles;
* `Summary.AtMost`, `exists_summarize_atMost` : the summaries.
-/

namespace SiteTrial

/-! ## Rising orders -/

section

variable {α : Type} [LinearOrder α] {vs ws ls ks : List α} {a : α} {i : Nat}

theorem getElem_le_of_lt_countP (hrising : vs.Pairwise (· ≤ ·)) (hi : i < vs.length)
    (hcount : i < vs.countP (· ≤ a)) : vs[i] ≤ a := by
  by_contra hlt
  have hbehind : (vs.drop i).countP (· ≤ a) = 0 := by
    rw [List.countP_eq_zero]
    intro v hv
    rw [List.drop_eq_getElem_cons hi] at hv
    have hle : vs[i] ≤ v := by
      rcases List.mem_cons.1 hv with rfl | hv
      · exact le_rfl
      · have hparts := hrising.sublist (List.drop_sublist i vs)
        rw [List.drop_eq_getElem_cons hi, List.pairwise_cons] at hparts
        exact hparts.1 v hv
    simpa using (not_le.1 hlt).trans_le hle
  have hfront : (vs.take i).countP (· ≤ a) ≤ i :=
    List.countP_le_length.trans (List.length_take_le i vs)
  rw [← List.take_append_drop i vs, List.countP_append, hbehind] at hcount
  omega

theorem lt_countP_getElem (hrising : vs.Pairwise (· ≤ ·)) (hi : i < vs.length) :
    i < vs.countP (· ≤ vs[i]) := by
  have hfront : (vs.take (i + 1)).countP (· ≤ vs[i]) = i + 1 := by
    have hall : ∀ v ∈ vs.take (i + 1), decide (v ≤ vs[i]) = true := by
      intro v hv
      obtain ⟨k, hk, rfl⟩ := List.getElem_of_mem hv
      rw [List.length_take] at hk
      rw [List.getElem_take, decide_eq_true_iff]
      exact hrising.rel_get_of_le (a := ⟨k, by omega⟩) (b := ⟨i, hi⟩) (by simp; omega)
    rw [List.countP_eq_length.2 hall, List.length_take]
    omega
  have hsub := (List.take_sublist (i + 1) vs).countP_le (p := (· ≤ vs[i]))
  omega

theorem countP_le_of_forall₂ (h : List.Forall₂ (· ≤ ·) vs ws) :
    ws.countP (· ≤ a) ≤ vs.countP (· ≤ a) := by
  induction h with
  | nil => exact le_rfl
  | cons hle _ ih =>
      rw [List.countP_cons, List.countP_cons]
      refine Nat.add_le_add ih ?_
      split
      · next hw =>
          rw [if_pos (decide_eq_true (hle.trans (of_decide_eq_true hw)))]
      · exact Nat.zero_le _

/-- Of two lists, one nowhere smaller than the other, the rising orders are as well. -/
theorem forall₂_le_of_perm (h : List.Forall₂ (· ≤ ·) vs ws) (hvs : ls.Perm vs) (hws : ks.Perm ws)
    (hls : ls.Pairwise (· ≤ ·)) (hks : ks.Pairwise (· ≤ ·)) : List.Forall₂ (· ≤ ·) ls ks := by
  have hlength : ls.length = ks.length := by
    rw [hvs.length_eq, hws.length_eq, h.length_eq]
  rw [List.forall₂_iff_get]
  refine ⟨hlength, fun i hl hk => ?_⟩
  have hcount : ks.countP (· ≤ ks[i]) ≤ ls.countP (· ≤ ks[i]) := by
    rw [hws.countP_eq, hvs.countP_eq]
    exact countP_le_of_forall₂ h
  exact getElem_le_of_lt_countP hls hl ((lt_countP_getElem hks hk).trans_le hcount)

end

theorem pairwise_rising (vs : List ℝ) : (rising vs).Pairwise (· ≤ ·) := by
  refine (Sorted.merged_sorted orders_exact fun _ (_ : _ ∈ vs) => trivial).row.pairwise.imp ?_
  intro a b hab
  exact not_lt.1 (of_decide_eq_false hab)

theorem rising_le_rising {vs ws : List ℝ} (h : List.Forall₂ (· ≤ ·) vs ws) :
    List.Forall₂ (· ≤ ·) (rising vs) (rising ws) :=
  forall₂_le_of_perm h (rising_perm vs) (rising_perm ws) (pairwise_rising vs) (pairwise_rising ws)

/-! ## Percentiles -/

section

variable {first first' : ℝ} {rest rest' : List ℝ}

theorem nth_eq_get (first : ℝ) (rest : List ℝ) (i : Nat) :
    nth first rest i = (first :: rest).get ⟨min i rest.length, by simp⟩ := by
  unfold nth
  rcases Nat.lt_or_ge rest.length i with hlt | hle
  · rw [List.getElem?_eq_none (by simpa using hlt)]
    simp [List.getLast_eq_getElem, Nat.min_eq_right hlt.le]
  · rw [List.getElem?_eq_getElem (by simpa [Nat.lt_succ_iff] using hle)]
    simp [Nat.min_eq_left hle]

theorem nth_le_nth (h : List.Forall₂ (· ≤ ·) (first :: rest) (first' :: rest')) (i : Nat) :
    nth first rest i ≤ nth first' rest' i := by
  have hlength : rest.length = rest'.length := by simpa using h.length_eq
  rw [nth_eq_get, nth_eq_get]
  simp only [hlength]
  exact h.get _ _

/-- Between two values that are no smaller, at the same place of the line, is a value that is no smaller. -/
theorem onLine_le_onLine (h : List.Forall₂ (· ≤ ·) (first :: rest) (first' :: rest')) (p : ℝ) :
    onLine first rest p ≤ onLine first' rest' p := by
  have hlength : rest.length = rest'.length := by simpa using h.length_eq
  unfold onLine
  rw [hlength]
  dsimp only
  generalize p / 100 * (rest'.length : ℝ) = index
  have hweight : 0 ≤ index - ⌊index⌋ := sub_nonneg.2 (Int.floor_le index)
  have hother : 0 ≤ 1 - (index - ⌊index⌋) := by linarith [Int.lt_floor_add_one index]
  split
  · exact nth_le_nth h _
  · split
    · exact (List.forall₂_cons.1 h).1
    · exact add_le_add (mul_le_mul_of_nonneg_right (nth_le_nth h _) hother)
        (mul_le_mul_of_nonneg_right (nth_le_nth h _) hweight)

end

/-! ## Summaries -/

/-- None of the places where the measurements lie is above that of the other ones. -/
structure Summary.AtMost (s t : Summary ℝ) : Prop where
  mean : s.mean ≤ t.mean
  median : s.median ≤ t.median
  p95 : s.p95 ≤ t.p95
  p99 : s.p99 ≤ t.p99
  min : s.min ≤ t.min
  max : s.max ≤ t.max

theorem meanOf_le_meanOf {vs ws : List ℝ} (h : List.Forall₂ (· ≤ ·) vs ws) : meanOf vs ≤ meanOf ws := by
  rw [meanOf_exact, meanOf_exact, h.length_eq]
  exact div_le_div_of_nonneg_right h.sum_le_sum (Nat.cast_nonneg _)

theorem Summary.AtMost.rounded {s t : Summary ℝ} (h : s.AtMost t) : s.rounded.AtMost t.rounded :=
  ⟨hundredths_mono h.mean, hundredths_mono h.median, hundredths_mono h.p95, hundredths_mono h.p99,
    hundredths_mono h.min, hundredths_mono h.max⟩

theorem exists_summarize_atMost {vs ws : List ℝ} (h : List.Forall₂ (· ≤ ·) vs ws) (hvs : vs ≠ []) :
    ∃ s t, summarize vs = .ok s ∧ summarize ws = .ok t ∧ s.AtMost t := by
  have hws : ws ≠ [] := by
    rintro rfl
    exact hvs (List.forall₂_nil_right_iff.1 h)
  obtain ⟨first, rest, hrising⟩ := exists_rising hvs
  obtain ⟨first', rest', hrising'⟩ := exists_rising hws
  have hle := rising_le_rising h
  rw [hrising, hrising'] at hle
  have hunrounded : (Summary.unrounded first rest).AtMost (Summary.unrounded first' rest') := by
    refine ⟨meanOf_le_meanOf hle, onLine_le_onLine hle 50, onLine_le_onLine hle 95,
      onLine_le_onLine hle 99, (List.forall₂_cons.1 hle).1, ?_⟩
    show nth first rest rest.length ≤ nth first' rest' rest'.length
    have hlength : rest.length = rest'.length := by simpa using hle.length_eq
    rw [hlength]
    exact nth_le_nth hle _
  exact ⟨_, _, summarize_exact hrising, summarize_exact hrising', hunrounded.rounded⟩

end SiteTrial
