import SiteTrial.Proofs.Statistics.Monotone

/-!
# Percentiles

The percentiles of some values run through the values in rising order, each at its rank, on straight lines from
one to the next; before the first rank and behind the last one they stay where they are.

* `interpolateBy`, `interpolateBy_congr` : the percentile of values that are looked up, and which are asked for;
* `segment`, `onLine_eq_segment` : the line from one value to the next;
* `onLine_mono`, `le_onLine`, `onLine_le` : percentiles rise, between the least value and the greatest;
* `Interpolates`, `percentile_interpolates` : what the percentiles of values are.
-/

namespace SiteTrial

open Arithmetic

/-! ## Which values are asked for -/

section

variable {α : Type} [Arithmetic α]

/-- The percentile of rising values of which each is looked up by its place, the last one at `last`. -/
def interpolateBy (look : Int → Except Fault α) (last : Nat) (p : α) : Except Fault α := do
  let index := p / ofInt 100 * ofInt last
  let lower ← floor index
  let upper ← ceil index
  if upper > last then look last
  else if lower < 0 then look 0
  else
    let weight := index - ofInt lower
    return (← look lower) * (ofInt 1 - weight) + (← look upper) * weight

theorem interpolate_eq_interpolateBy (first : α) (rest : List α) (p : α) :
    interpolate first rest p =
      interpolateBy (fun i => .ok (nth first rest i.toNat)) rest.length p := by
  unfold interpolate interpolateBy
  dsimp only
  cases floor (p / ofInt 100 * ofInt rest.length) with
  | error f => rfl
  | ok lower =>
      cases ceil (p / ofInt 100 * ofInt rest.length) with
      | error f => rfl
      | ok upper =>
          rw [ok_bind, ok_bind, ok_bind, ok_bind]
          split
          · rfl
          · split <;> rfl

end

/-- No place is asked for but those of the values. -/
theorem interpolateBy_congr {look look' : Int → Except Fault ℝ} {last : Nat}
    (h : ∀ i : Int, 0 ≤ i → i ≤ last → look i = look' i) (p : ℝ) :
    interpolateBy look last p = interpolateBy look' last p := by
  unfold interpolateBy
  simp only [floor, ceil, ok_bind]
  generalize p / ofInt 100 * ofInt last = index
  have hle := Int.floor_le_ceil index
  split
  · exact h last (by omega) le_rfl
  · split
    · exact h 0 le_rfl (by omega)
    · rw [h ⌊index⌋ (by omega) (by omega), h ⌈index⌉ (by omega) (by omega)]

/-! ## Lines -/

/-- The value at the part `t` of the way from a rank to the next one, on the line between their two values. -/
noncomputable def segment (first : ℝ) (rest : List ℝ) (i : Nat) (t : ℝ) : ℝ :=
  nth first rest i + t * (nth first rest (i + 1) - nth first rest i)

section

variable {first : ℝ} {rest : List ℝ} {i j : Nat} {p q t u : ℝ}

theorem nth_of_length_le (h : rest.length ≤ i) : nth first rest i = nth first rest rest.length := by
  rw [nth_eq_get, nth_eq_get]
  simp only [Nat.min_eq_right h, Nat.min_self]

theorem nth_eq_getElem (h : i < (first :: rest).length) : nth first rest i = (first :: rest)[i] := by
  have hle : i ≤ rest.length := Nat.le_of_lt_succ h
  rw [nth_eq_get]
  simp [Nat.min_eq_left hle]

theorem onLine_of_neg (h : p / 100 * rest.length < 0) : onLine first rest p = first := by
  have hfloor : ⌊p / 100 * (rest.length : ℝ)⌋ < 0 := Int.floor_lt.2 (by simpa using h)
  have hceil : ⌈p / 100 * (rest.length : ℝ)⌉ ≤ 0 := Int.ceil_le.2 (by simpa using h.le)
  unfold onLine
  dsimp only
  rw [if_neg (by omega), if_pos hfloor]

/-- Behind the last value the line goes on as it ends, so that the part of the way there does not matter. -/
theorem segment_of_length_le (h : rest.length ≤ i) : segment first rest i t = nth first rest rest.length := by
  unfold segment
  rw [nth_of_length_le h, nth_of_length_le (i := i + 1) (by omega), sub_self, mul_zero, add_zero]

theorem onLine_eq_segment (ht : 0 ≤ t) (ht' : t < 1) (h : p / 100 * rest.length = i + t) :
    onLine first rest p = segment first rest i t := by
  have hfloor : ⌊(i + t : ℝ)⌋ = i := by
    rw [Int.floor_eq_iff]
    push_cast
    exact ⟨by linarith, by linarith⟩
  unfold onLine
  dsimp only
  rw [h, hfloor, Int.toNat_natCast, Int.cast_natCast, add_sub_cancel_left]
  rcases ht.eq_or_lt with rfl | hpos
  · -- a value itself: both neighbours of the place are that value
    have hceil : ⌈(i + 0 : ℝ)⌉ = i := by simp
    rw [hceil, Int.toNat_natCast]
    split
    · next hbehind => rw [segment_of_length_le (by omega)]
    · rw [if_neg (by omega)]
      simp [segment]
  · have hceil : ⌈(i + t : ℝ)⌉ = (i + 1 : ℕ) := by
      rw [Int.ceil_eq_iff]
      push_cast
      exact ⟨by linarith, by linarith⟩
    rw [hceil, Int.toNat_natCast]
    split
    · next hbehind => rw [segment_of_length_le (by omega)]
    · rw [if_neg (by omega)]
      unfold segment
      ring

theorem segment_zero : segment first rest i 0 = nth first rest i := by
  simp [segment]

theorem segment_one : segment first rest i 1 = nth first rest (i + 1) := by
  simp [segment]

theorem exists_place (h : 0 ≤ p / 100 * rest.length) :
    ∃ (i : Nat) (t : ℝ), 0 ≤ t ∧ t < 1 ∧ p / 100 * rest.length = i + t := by
  refine ⟨⌊p / 100 * (rest.length : ℝ)⌋₊, Int.fract (p / 100 * (rest.length : ℝ)), Int.fract_nonneg _,
    Int.fract_lt_one _, ?_⟩
  rw [natCast_floor_eq_intCast_floor h]
  exact (Int.floor_add_fract _).symm

/-! ## Rising values -/

variable (hrow : (first :: rest).Pairwise (· ≤ ·))
include hrow

theorem nth_mono (hij : i ≤ j) : nth first rest i ≤ nth first rest j := by
  rw [nth_eq_get, nth_eq_get]
  refine hrow.rel_get_of_le ?_
  simp only [Fin.mk_le_mk]
  omega

theorem segment_mono (htu : t ≤ u) : segment first rest i t ≤ segment first rest i u := by
  have hslope := sub_nonneg.2 (nth_mono hrow (Nat.le_succ i))
  exact (add_le_add_iff_left _).2 (mul_le_mul_of_nonneg_right htu hslope)

theorem nth_le_segment (ht : 0 ≤ t) : nth first rest i ≤ segment first rest i t :=
  segment_zero.symm.trans_le (segment_mono hrow ht)

theorem segment_le_nth (ht : t ≤ 1) : segment first rest i t ≤ nth first rest (i + 1) :=
  (segment_mono hrow ht).trans_eq segment_one

theorem le_onLine (p : ℝ) : first ≤ onLine first rest p := by
  rcases lt_or_ge (p / 100 * rest.length) 0 with hneg | hnonneg
  · rw [onLine_of_neg hneg]
  · obtain ⟨i, t, ht, ht', hplace⟩ := exists_place hnonneg
    rw [onLine_eq_segment ht ht' hplace]
    exact (nth_mono hrow (Nat.zero_le i)).trans (nth_le_segment hrow ht)

theorem onLine_le (p : ℝ) : onLine first rest p ≤ nth first rest rest.length := by
  rcases lt_or_ge (p / 100 * rest.length) 0 with hneg | hnonneg
  · rw [onLine_of_neg hneg]
    exact nth_mono hrow (Nat.zero_le _)
  · obtain ⟨i, t, ht, ht', hplace⟩ := exists_place hnonneg
    rw [onLine_eq_segment ht ht' hplace]
    rcases le_total rest.length i with hbehind | hbefore
    · exact (segment_of_length_le hbehind).le
    · refine (segment_le_nth hrow ht'.le).trans ?_
      rcases hbefore.eq_or_lt with rfl | hlt
      · exact (nth_of_length_le (Nat.le_succ _)).le
      · exact nth_mono hrow hlt

/-- Within one line the part of the way decides, otherwise the values between the two lines do. -/
theorem onLine_mono : Monotone (onLine first rest) := by
  intro p q hpq
  have hindex : p / 100 * rest.length ≤ q / 100 * rest.length :=
    mul_le_mul_of_nonneg_right (div_le_div_of_nonneg_right hpq (by norm_num)) (Nat.cast_nonneg _)
  rcases lt_or_ge (p / 100 * rest.length) 0 with hneg | hnonneg
  · rw [onLine_of_neg hneg]
    exact le_onLine hrow q
  · obtain ⟨i, t, ht, ht', hp⟩ := exists_place hnonneg
    obtain ⟨j, u, hu, hu', hq⟩ := exists_place (hnonneg.trans hindex)
    rw [onLine_eq_segment ht ht' hp, onLine_eq_segment hu hu' hq]
    rw [hp, hq] at hindex
    rcases Nat.lt_trichotomy i j with hlt | rfl | hgt
    · exact (segment_le_nth hrow ht'.le).trans ((nth_mono hrow hlt).trans (nth_le_segment hrow hu))
    · exact segment_mono hrow (by linarith)
    · have hgt' : (j + 1 : ℝ) ≤ i := by exact_mod_cast hgt
      linarith

end

section

variable {first : ℝ} {rest : List ℝ} {vs : List ℝ} {i : Nat} {t : ℝ}

/-- The end of a line is the start of the next one. -/
theorem onLine_of_part (ht : 0 ≤ t) (ht' : t ≤ 1) {p : ℝ} (h : p / 100 * rest.length = i + t) :
    onLine first rest p = segment first rest i t := by
  rcases ht'.lt_or_eq with hlt | rfl
  · exact onLine_eq_segment ht hlt h
  · rw [segment_one, ← segment_zero]
    refine onLine_eq_segment le_rfl one_pos ?_
    rw [h]
    push_cast
    ring

theorem place_of_rank (hsome : rest ≠ []) (x : ℝ) :
    100 * x / ((first :: rest).length - 1 : ℝ) / 100 * rest.length = x := by
  have hcount := (cast_length_pos hsome).ne'
  rw [List.length_cons]
  push_cast
  rw [add_sub_cancel_right]
  field_simp

theorem onLine_zero (first : ℝ) (rest : List ℝ) : onLine first rest 0 = first := by
  rw [onLine_eq_segment (i := 0) le_rfl one_pos (by simp), segment_zero]
  rfl

theorem onLine_hundred (first : ℝ) (rest : List ℝ) :
    onLine first rest 100 = nth first rest rest.length := by
  rw [onLine_eq_segment (i := rest.length) le_rfl one_pos (by simp), segment_zero]

/-! ## Percentiles -/

/-- The values stand in rising order between `low` and `high`, and `q` runs through them: each is met at its rank,
and from one to the next `q` is a straight line. Outside the ranks it stays at the ends. -/
structure Interpolates (ordered : List ℝ) (low high : ℝ) (q : ℝ → ℝ) : Prop where
  rising : ordered.Pairwise (· ≤ ·)
  least : IsLeast {v | v ∈ ordered} low
  greatest : IsGreatest {v | v ∈ ordered} high
  between : ∀ p, low ≤ q p ∧ q p ≤ high
  monotone : Monotone q
  atRank : ∀ i (hi : i < ordered.length), 2 ≤ ordered.length →
    q (100 * i / (ordered.length - 1)) = ordered[i]
  onSegment : ∀ i (hi : i + 1 < ordered.length) (t : ℝ), 0 ≤ t → t ≤ 1 →
    q (100 * (i + t) / (ordered.length - 1)) = ordered[i] + t * (ordered[i + 1] - ordered[i])
  before : ∀ p < 0, q p = low
  behind : ∀ p > 100, q p = high

theorem isLeast_first (hrow : (first :: rest).Pairwise (· ≤ ·)) : IsLeast {v | v ∈ first :: rest} first := by
  refine ⟨List.mem_cons_self .., fun v hv => ?_⟩
  rcases List.mem_cons.1 hv with rfl | hv
  · exact le_rfl
  · exact (List.pairwise_cons.1 hrow).1 v hv

theorem isGreatest_last (hrow : (first :: rest).Pairwise (· ≤ ·)) :
    IsGreatest {v | v ∈ first :: rest} (nth first rest rest.length) := by
  constructor
  · rw [nth_eq_getElem (by simp)]
    exact List.getElem_mem _
  · intro v hv
    obtain ⟨i, hi, rfl⟩ := List.getElem_of_mem hv
    rw [← nth_eq_getElem hi]
    exact nth_mono hrow (Nat.le_of_lt_succ hi)

theorem interpolates_onLine (hrow : (first :: rest).Pairwise (· ≤ ·)) :
    Interpolates (first :: rest) first (nth first rest rest.length) (onLine first rest) where
  rising := hrow
  least := isLeast_first hrow
  greatest := isGreatest_last hrow
  between p := ⟨le_onLine hrow p, onLine_le hrow p⟩
  monotone := onLine_mono hrow
  atRank i hi htwo := by
    have hsome : rest ≠ [] := List.ne_nil_of_length_pos (Nat.lt_of_succ_lt_succ htwo)
    rw [onLine_eq_segment (i := i) le_rfl one_pos (by rw [place_of_rank hsome, add_zero]), segment_zero,
      nth_eq_getElem hi]
  onSegment i hi t ht ht' := by
    have hsome : rest ≠ [] := List.ne_nil_of_length_pos (Nat.zero_lt_of_lt (Nat.lt_of_succ_lt_succ hi))
    rw [onLine_of_part ht ht' (place_of_rank hsome (i + t)), segment, nth_eq_getElem hi,
      nth_eq_getElem (Nat.lt_of_succ_lt hi)]
  before p hp :=
    le_antisymm ((onLine_mono hrow hp.le).trans_eq (onLine_zero first rest)) (le_onLine hrow p)
  behind p hp :=
    le_antisymm (onLine_le hrow p) ((onLine_hundred first rest).symm.trans_le (onLine_mono hrow hp.le))

theorem percentile_exact (h : rising vs = first :: rest) (p : ℝ) :
    percentile vs p = .ok (onLine first rest p) := by
  unfold percentile
  rw [h]
  dsimp only
  rw [interpolate_exact]
  rfl

/-- The percentiles of values, for each number, run through the values in rising order. They are computed from
these alone: however values are looked up, as long as those of the list are found at their places, the answer is
the same, so that no place outside the list is asked for. -/
theorem percentile_interpolates (h : vs ≠ []) :
    ∃ (ordered : List ℝ) (low high : ℝ) (q : ℝ → ℝ), ordered.Perm vs ∧
      Interpolates ordered low high q ∧ (∀ p, percentile vs p = .ok (q p)) ∧
      ∀ look : Int → Except Fault ℝ, (∀ i (hi : i < ordered.length), look i = .ok ordered[i]) →
        ∀ p, interpolateBy look (ordered.length - 1) p = .ok (q p) := by
  obtain ⟨first, rest, hrising⟩ := exists_rising h
  have hrow := pairwise_rising vs
  have hperm := rising_perm vs
  rw [hrising] at hrow hperm
  refine ⟨first :: rest, first, nth first rest rest.length, onLine first rest, hperm,
    interpolates_onLine hrow, percentile_exact hrising, fun look hlook p => ?_⟩
  rw [← interpolate_exact, interpolate_eq_interpolateBy]
  refine interpolateBy_congr (fun i hlow hhigh => ?_) p
  obtain ⟨n, rfl⟩ := Int.eq_ofNat_of_zero_le hlow
  have hn : n < (first :: rest).length := Nat.lt_succ_of_le (by exact_mod_cast hhigh)
  rw [Int.toNat_natCast, nth_eq_getElem hn]
  exact hlook n hn

/-- The median of four values lies halfway between the second and the third, and there is no value behind the
fourth. -/
theorem percentile_interpolates_four :
    [(4 : ℝ), 1, 3, 2] ≠ [] ∧ percentile [(4 : ℝ), 1, 3, 2] 50 = .ok 2.5 ∧
      percentile [(4 : ℝ), 1, 3, 2] 101 = .ok 4 := by
  have hsome : [(4 : ℝ), 1, 3, 2] ≠ [] := List.cons_ne_nil _ _
  obtain ⟨ordered, low, high, q, hperm, hq, hpercentile, -⟩ := percentile_interpolates hsome
  have hcounts : ([4, 1, 3, 2] : List ℕ).Perm [1, 2, 3, 4] := by decide
  have hfour : ordered.Perm [1, 2, 3, 4] :=
    hperm.trans (by simpa using hcounts.map (fun n : ℕ => (n : ℝ)))
  obtain rfl : ordered = [1, 2, 3, 4] :=
    hfour.eq_of_pairwise (fun _ _ _ _ => le_antisymm) hq.rising (by norm_num)
  have hmedian := hq.onSegment 1 (by decide) (1 / 2) (by norm_num) (by norm_num)
  have hhigh : high = 4 := hq.greatest.unique ⟨by simp, by simp [upperBounds]; norm_num⟩
  refine ⟨hsome, ?_, ?_⟩
  · rw [hpercentile]
    norm_num at hmedian ⊢
    exact hmedian
  · rw [hpercentile, hq.behind 101 (by norm_num), hhigh]

end

end SiteTrial
