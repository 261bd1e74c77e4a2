import SiteTrial.Comparison.Advice
import SiteTrial.Proofs.Comparison.Verdict
import SiteTrial.Proofs.Comparison.Values

/-!
# Regressions

What it takes to be reported as a regression, in exact arithmetic. A candidate that is slower by more than
the percentage asked for is reported if the difference is significant and the baseline's mean is not rounded
to zero; and whatever is reported is slower indeed, by a percentage that no tie can have.

* `improvement_lt` : how far the percentage of a slower candidate is below zero;
* `Compares.lt_abs_improvement`, `Compares.improvement_le_of_isRegression` : the same of a comparison;
* `mem_regressions_iff_of_slower` : no regression is missed;
* `regressions_are_slower` : none is made up.
-/

namespace SiteTrial

open Arithmetic

/-! ## Percentages -/

/-- Rounding takes less than a hundredth of a percent away. -/
theorem improvement_lt {a b t : ℝ} (ha : 0 < a) (h : a * (1 + (t + 0.01) / 100) < b) :
    hundredths ((a - b) / a * 100) < -t := by
  have hpercent : (a - b) / a * 100 < -(t + 0.01) := by
    rw [div_mul_eq_mul_div, div_lt_iff₀ ha]
    linarith
  have hrounded := hundredths_le ((a - b) / a * 100)
  linarith

/-! ## Regressions of exact comparisons -/

theorem exists_compareRuns (scenario : String) (xs ys : List (Readings ℝ)) :
    ∃ cs, compareRuns scenario xs ys = .ok cs := by
  have hfound := mapM_of_all_ok fun m (_ : m ∈ Metric.all) =>
    (exists_compareMetric scenario xs ys m).imp fun _ ⟨_, hc, _⟩ => hc
  unfold compareRuns
  rw [hfound]
  exact ⟨_, rfl⟩

theorem isRegression_iff {t : ℝ} {c : Comparison ℝ} :
    c.isRegression t = true ↔ c.verdict = .baseline ∧ t < |c.improvement| ∧ c.significant = true := by
  unfold Comparison.isRegression
  rw [Bool.and_eq_true, Bool.and_eq_true, beq_iff_eq, lt_exact, decide_eq_true_iff, and_assoc]
  rfl

theorem mem_regressions_iff {t : ℝ} {c : Comparison ℝ} {cs : List (Comparison ℝ)} :
    c ∈ regressions t cs ↔ c ∈ cs ∧ c.isRegression t = true := List.mem_filter

theorem pos_of_mem_measured {m : Metric} {xs : List (Readings ℝ)} {v : ℝ} (h : v ∈ measured m xs) :
    0 < v := by
  have hpos := (List.mem_filter.1 h).2
  simpa [lt_exact, ofInt_exact] using hpos

theorem length_of_isSignificant {vs ws : List ℝ} (h : isSignificant vs ws = .ok true) :
    2 ≤ vs.length ∧ 2 ≤ ws.length := by
  unfold isSignificant at h
  split at h
  · cases h
  · omega

namespace Compares

variable {m : Metric} {vs ws : List ℝ} {xs ys : List (Readings ℝ)} {c d : Comparison ℝ} {t : ℝ}

theorem improvement_of_zero (h : Compares m vs ws c) (hzero : c.baseline.mean = 0) :
    c.improvement = 0 := by
  have hpercent := h.improvement
  rw [hzero, improvement_zero] at hpercent
  exact (Except.ok.inj hpercent).symm

theorem improvement_of_ne (h : Compares m vs ws c) (hne : c.baseline.mean ≠ 0) :
    c.improvement =
      hundredths ((c.baseline.mean - c.candidate.mean) / c.baseline.mean * 100) := by
  have hpercent := h.improvement
  rw [improvement_exact hne] at hpercent
  exact (Except.ok.inj hpercent).symm

theorem baseline_pos (h : Compares m (measured m xs) ws c) (hne : c.baseline.mean ≠ 0) :
    0 < c.baseline.mean :=
  lt_of_le_of_ne (mean_nonneg h.baseline fun _ hv => (pos_of_mem_measured hv).le) hne.symm

theorem lt_abs_improvement (h : Compares m (measured m xs) ws c) (ht : 0 ≤ t)
    (hslower : c.baseline.mean * (1 + (t + 0.01) / 100) < c.candidate.mean) :
    t < |c.improvement| ↔ c.baseline.mean ≠ 0 := by
  constructor
  · intro hlt hzero
    rw [h.improvement_of_zero hzero, abs_zero] at hlt
    exact absurd hlt (not_lt.2 ht)
  · intro hne
    have hlow : c.improvement < -t := by
      rw [h.improvement_of_ne hne]
      exact improvement_lt (h.baseline_pos hne) hslower
    rw [abs_of_neg (by linarith)]
    linarith

end Compares

/-! ## Sides that measure one value -/

/-- A run in which one metric has a value. -/
noncomputable def only (m : Metric) (v : ℝ) : Readings ℝ where
  lcp := if m = .lcp then v else 0
  fid := if m = .fid then v else 0
  inp := if m = .inp then v else 0
  cls := if m = .cls then v else 0
  ttfb := if m = .ttfb then v else 0
  fcp := if m = .fcp then v else 0
  tti := if m = .tti then v else 0
  totalPageLoadTime := if m = .totalPageLoadTime then v else 0
  domContentLoaded := if m = .domContentLoaded then v else 0

theorem measured_only (m : Metric) {v : ℝ} (hv : 0 < v) (n : Nat) :
    measured m (List.replicate n (only m v)) = List.replicate n v := by
  have hget : (only m v).get m = v := by cases m <;> simp [only, Readings.get]
  have hpos : lt (ofInt 0) v = true := by simpa [lt_exact, ofInt_exact] using hv
  rw [measured, List.map_replicate, hget, List.filter_replicate, if_pos hpos]

theorem exists_mem_of_only {scenario : String} {m : Metric} {v w : ℝ} {n k : Nat}
    {cs : List (Comparison ℝ)} (hv : 0 < v) (hw : 0 < w) (hn : 2 ≤ n) (hk : 2 ≤ k)
    (hmeans : hundredths v ≠ hundredths w)
    (h : compareRuns scenario (List.replicate n (only m v)) (List.replicate k (only m w)) = .ok cs) :
    ∃ c ∈ cs,
      Compares m (measured m (List.replicate n (only m v))) (measured m (List.replicate k (only m w))) c ∧
      c.baseline.mean = hundredths v ∧ c.candidate.mean = hundredths w ∧ c.significant = true := by
  have hxs := measured_only m hv n
  have hys := measured_only m hw k
  obtain ⟨c, hc, hm⟩ := exists_mem_of_compareRuns h (m := m) (by simp [hxs]; omega) (by simp [hys]; omega)
  obtain ⟨a, ha, hamean, -⟩ := summarize_replicate (Nat.zero_lt_of_lt hn) v
  obtain ⟨b, hb, hbmean, -⟩ := summarize_replicate (Nat.zero_lt_of_lt hk) w
  have hbaseline := hm.baseline
  have hcandidate := hm.candidate
  have hsignificant := hm.significant
  rw [hxs, ha] at hbaseline
  rw [hys, hb] at hcandidate
  rw [hxs, hys, isSignificant_replicate hn hk hmeans] at hsignificant
  refine ⟨c, hc, hm, ?_, ?_, (Except.ok.inj hsignificant).symm⟩
  · rw [← Except.ok.inj hbaseline, hamean]
  · rw [← Except.ok.inj hcandidate, hbmean]

/-- Two runs in which the largest paint takes so long. -/
noncomputable def paints (v : ℝ) : List (Readings ℝ) := List.replicate 2 (only .lcp v)

theorem exists_mem_of_paints {cs : List (Comparison ℝ)}
    (h : compareRuns "login" (paints 100) (paints 120) = .ok cs) :
    ∃ c ∈ cs, Compares .lcp (measured .lcp (paints 100)) (measured .lcp (paints 120)) c ∧
      c.verdict = .baseline ∧ c.significant = true ∧
      c.baseline.mean * (1 + (10 + 0.01) / 100) < c.candidate.mean ∧ c.baseline.mean ≠ 0 := by
  have hbefore : hundredths 100 = 100 := by
    rw [hundredths_eq (n := 10000)] <;> norm_num
  have hafter : hundredths 120 = 120 := by
    rw [hundredths_eq (n := 12000)] <;> norm_num
  obtain ⟨c, hc, hm, hb, ha, hsignificant⟩ := exists_mem_of_only (by norm_num) (by norm_num)
    (Nat.le_refl 2) (Nat.le_refl 2) (by rw [hbefore, hafter]; norm_num) h
  rw [hbefore] at hb
  rw [hafter] at ha
  refine ⟨c, hc, hm, ?_, hsignificant, ?_, ?_⟩
  · rw [hm.verdict, hb, ha, judge_exact]
    norm_num
  · rw [hb, ha]
    norm_num
  · rw [hb]
    norm_num

/-! ## No regression is missed -/

/-- No regression is missed, unless the baseline's mean is zero after rounding, of which nothing is a
percentage: a significant difference that the baseline wins by more than the threshold, and what rounding
takes away, is reported exactly if that mean is not zero. -/
theorem mem_regressions_iff_of_slower (scenario : String) (xs ys : List (Readings ℝ)) {t : ℝ}
    (ht : 0 ≤ t) :
    ∃ cs, compareRuns scenario xs ys = .ok cs ∧
      ∀ c ∈ cs, c.verdict = .baseline → c.significant = true →
        c.baseline.mean * (1 + (t + 0.01) / 100) < c.candidate.mean →
        (c ∈ regressions t cs ↔ c.baseline.mean ≠ 0) := by
  obtain ⟨cs, hcs⟩ := exists_compareRuns scenario xs ys
  refine ⟨cs, hcs, fun c hc hverdict hsignificant hslower => ?_⟩
  obtain ⟨m, hm⟩ := compares_of_mem hcs hc
  rw [mem_regressions_iff, isRegression_iff, hm.lt_abs_improvement ht hslower]
  exact ⟨fun h => h.2.2.1, fun h => ⟨hc, hverdict, h, hsignificant⟩⟩

/-- Of paints that take a fifth longer. -/
theorem mem_regressions_iff_of_slower_paints :
    ∃ cs, compareRuns "login" (paints 100) (paints 120) = .ok cs ∧
      ∃ c ∈ regressions 10 cs, c.metric = "lcp" := by
  obtain ⟨cs, hcs, hall⟩ := mem_regressions_iff_of_slower "login" (paints 100) (paints 120) (t := 10)
    (by norm_num)
  obtain ⟨c, hc, hm, hverdict, hsignificant, hslower, hne⟩ := exists_mem_of_paints hcs
  exact ⟨cs, hcs, c, (hall c hc hverdict hsignificant hslower).2 hne, hm.metric⟩

/-- Layout shifts that are rounded to zero for the baseline alone: the baseline wins, but this is no
regression, however large the candidate's shifts are. -/
theorem shifts_from_zero_not_reported :
    ∃ cs, compareRuns "login" (List.replicate 2 (only .cls 0.001)) (List.replicate 2 (only .cls 0.2)) =
        .ok cs ∧
      ∃ c ∈ cs, c.metric = "cls" ∧ c.verdict = .baseline ∧ c.significant = true ∧
        c.baseline.mean * (1 + (10 + 0.01) / 100) < c.candidate.mean ∧ c ∉ regressions 10 cs := by
  have hbefore : hundredths 0.001 = 0 := by
    rw [hundredths_eq (n := 0)] <;> norm_num
  have hafter : hundredths 0.2 = 0.2 := by
    rw [hundredths_eq (n := 20)] <;> norm_num
  obtain ⟨cs, hcs⟩ := exists_compareRuns "login" (List.replicate 2 (only .cls 0.001))
    (List.replicate 2 (only .cls 0.2))
  obtain ⟨c, hc, hm, hb, ha, hsignificant⟩ := exists_mem_of_only (by norm_num) (by norm_num)
    (Nat.le_refl 2) (Nat.le_refl 2) (by rw [hbefore, hafter]; norm_num) hcs
  rw [hbefore] at hb
  rw [hafter] at ha
  have hslower : c.baseline.mean * (1 + (10 + 0.01) / 100) < c.candidate.mean := by
    rw [hb, ha]
    norm_num
  refine ⟨cs, hcs, c, hc, hm.metric, ?_, hsignificant, hslower, ?_⟩
  · rw [hm.verdict, hb, ha, judge_exact]
    norm_num
  · rw [mem_regressions_iff, isRegression_iff, hm.lt_abs_improvement (by norm_num) hslower]
    exact fun h => h.2.2.1 hb

/-! ## No regression is made up -/

namespace Compares

variable {m : Metric} {vs ws : List ℝ} {xs ys : List (Readings ℝ)} {c d : Comparison ℝ} {t : ℝ}

theorem baseline_pos_of_isRegression (h : Compares m (measured m xs) ws c) (ht : 0 ≤ t)
    (hreg : c.isRegression t = true) : 0 < c.baseline.mean := by
  refine h.baseline_pos fun hzero => ?_
  have hlt := (isRegression_iff.1 hreg).2.1
  rw [h.improvement_of_zero hzero, abs_zero] at hlt
  exact absurd hlt (not_lt.2 ht)

theorem improvement_le_of_isRegression (h : Compares m (measured m xs) ws c) (ht : 0 ≤ t)
    (hreg : c.isRegression t = true) : c.improvement ≤ -5.13 := by
  have hpos := h.baseline_pos_of_isRegression ht hreg
  have hverdict := (isRegression_iff.1 hreg).1
  rw [h.verdict] at hverdict
  rw [h.improvement_of_ne hpos.ne']
  exact percent_le_of_slower hpos ((judge_eq_baseline_iff hpos.le).1 hverdict).2

/-- A comparison of one metric that the baseline wins is won by the same side when it is the candidate. -/
theorem not_isRegression_of_exchanged (h : Compares m vs ws c) (hback : Compares m ws vs d)
    (hverdict : c.verdict = .baseline) : ¬ d.isRegression t = true := by
  intro hreg
  have hother := (isRegression_iff.1 hreg).1
  have hbaseline : c.baseline = d.candidate := Except.ok.inj (h.baseline.symm.trans hback.candidate)
  have hcandidate : c.candidate = d.baseline := Except.ok.inj (h.candidate.symm.trans hback.baseline)
  rw [hback.verdict, ← hbaseline, ← hcandidate, judge_mirrored, ← h.verdict, hverdict] at hother
  cases hother

end Compares

/-- The same advice with other numbers. -/
def Advice.map {α β : Type} (f : α → β) : Advice α → Advice β
  | .faster metric percent candidate baseline =>
    .faster metric (f percent) (f candidate) (f baseline)
  | .slower metric percent candidate baseline =>
    .slower metric (f percent) (f candidate) (f baseline)
  | .speedUpLargestPaint => .speedUpLargestPaint
  | .avoidLayoutShifts => .avoidLayoutShifts
  | .speedUpFirstByte => .speedUpFirstByte

/-- The warning of a slower candidate, in the doubles that stand for its numbers. -/
noncomputable def Comparison.warning (c : Comparison ℝ) (double : ℝ → Float) : String :=
  s!"WARNING {Text.upper c.metric}: candidate is {Decimal.brief (double |c.improvement|)}% slower " ++
    s!"({quantity c.metric (double c.candidate.mean)} vs {quantity c.metric (double c.baseline.mean)})"

theorem exists_warning {c : Comparison ℝ} {cs : List (Comparison ℝ)} (hc : c ∈ cs)
    (hverdict : c.verdict = .baseline) (hslower : c.improvement < -10) :
    ∃ a ∈ advice cs, ∀ double : ℝ → Float, (a.map double).text = c.warning double := by
  have hdifference : adviceOnDifference c =
      [.slower c.metric |c.improvement| c.candidate.mean c.baseline.mean] := by
    have hten : lt c.improvement (ofInt (-10)) = true := by
      simpa [lt_exact, ofInt_exact] using hslower
    unfold adviceOnDifference
    rw [hverdict, hten]
    rfl
  refine ⟨.slower c.metric |c.improvement| c.candidate.mean c.baseline.mean, ?_, fun _ => rfl⟩
  refine List.mem_flatMap.2 ⟨c, hc, List.mem_append_left _ ?_⟩
  rw [hdifference]
  exact List.mem_singleton_self _

/-- What is reported as a regression is one. Its metric has two values above zero or more on either side,
the candidate's mean is above the baseline's, which is above zero, and the percentage is below zero by more
than the threshold, and by no less than the least that is no tie; with the sides exchanged the metric is not
reported; and from a threshold of ten on there is a warning of it. -/
theorem regressions_are_slower (scenario : String) (xs ys : List (Readings ℝ)) {t : ℝ} (ht : 0 ≤ t) :
    ∃ cs ds, compareRuns scenario xs ys = .ok cs ∧ compareRuns scenario ys xs = .ok ds ∧
      ∀ c ∈ regressions t cs,
        (∃ m : Metric, c.metric = m.name ∧ 2 ≤ (measured m xs).length ∧ 2 ≤ (measured m ys).length) ∧
        0 < c.baseline.mean ∧ c.baseline.mean < c.candidate.mean ∧
        c.improvement < 0 ∧ c.improvement ≤ -5.13 ∧ c.improvement < -t ∧
        (∀ d ∈ regressions t ds, d.metric ≠ c.metric) ∧
        (10 ≤ t → ∃ a ∈ advice cs, ∀ double : ℝ → Float, (a.map double).text = c.warning double) := by
  obtain ⟨cs, hcs⟩ := exists_compareRuns scenario xs ys
  obtain ⟨ds, hds⟩ := exists_compareRuns scenario ys xs
  refine ⟨cs, ds, hcs, hds, fun c hreported => ?_⟩
  obtain ⟨hc, hreg⟩ := mem_regressions_iff.1 hreported
  obtain ⟨hverdict, hlarge, hsignificant⟩ := isRegression_iff.1 hreg
  obtain ⟨m, hm⟩ := compares_of_mem hcs hc
  have htwo := length_of_isSignificant (hsignificant ▸ hm.significant)
  have hpos := hm.baseline_pos_of_isRegression ht hreg
  have hslower := ((judge_eq_baseline_iff hpos.le).1 (hm.verdict ▸ hverdict)).1
  have hleast := hm.improvement_le_of_isRegression ht hreg
  have hnegative : c.improvement < 0 := by linarith
  have hbelow : c.improvement < -t := by
    rw [abs_of_neg hnegative] at hlarge
    linarith
  refine ⟨⟨m, hm.metric, htwo⟩, hpos, hslower, hnegative, hleast, hbelow, fun d hd hmetric => ?_,
    fun hten => exists_warning hc hverdict (by linarith)⟩
  obtain ⟨hdmem, hdreg⟩ := mem_regressions_iff.1 hd
  obtain ⟨m', hm'⟩ := compares_of_mem hds hdmem
  have hsame : m' = m := Metric.name_injective (hm'.metric.symm.trans (hmetric.trans hm.metric))
  rw [hsame] at hm'
  exact hm.not_isRegression_of_exchanged hm' hverdict hdreg

/-- Paints that take a fifth longer are reported, with a warning, and the other way round they are not. -/
theorem regressions_are_slower_paints :
    ∃ cs ds, compareRuns "login" (paints 100) (paints 120) = .ok cs ∧
      compareRuns "login" (paints 120) (paints 100) = .ok ds ∧
      ∃ c ∈ regressions 10 cs, c.metric = "lcp" ∧ c.baseline.mean < c.candidate.mean ∧
        c.improvement < -10 ∧ (∀ d ∈ regressions 10 ds, d.metric ≠ "lcp") ∧
        ∃ a ∈ advice cs, ∀ double : ℝ → Float, (a.map double).text = c.warning double := by
  have hten : (0 : ℝ) ≤ 10 := by norm_num
  obtain ⟨cs, ds, hcs, hds, hall⟩ := regressions_are_slower "login" (paints 100) (paints 120) hten
  obtain ⟨c, hc, hm, hverdict, hsignificant, hslower, hne⟩ := exists_mem_of_paints hcs
  have hreported : c ∈ regressions 10 cs := by
    rw [mem_regressions_iff, isRegression_iff, hm.lt_abs_improvement hten hslower]
    exact ⟨hc, hverdict, hne, hsignificant⟩
  obtain ⟨-, -, hmeans, -, -, hbelow, hback, hwarning⟩ := hall c hreported
  have hmetric : c.metric = "lcp" := hm.metric
  rw [hmetric] at hback
  exact ⟨cs, ds, hcs, hds, c, hreported, hmetric, hmeans, hbelow, hback, hwarning le_rfl⟩

end SiteTrial
