import SiteTrial.Proofs.Comparison.Regression
import SiteTrial.Proofs.Statistics.Monotone

/-!
# Slower candidates

In exact arithmetic a candidate gains nothing by being slower. With measurements that are nowhere smaller its
mean and its percentiles are no smaller, the percentage is no larger, and the verdict is no better for it.

* `Verdict.NoBetter`, `Comparison.Slows` : a verdict, and a comparison, that is no better for the candidate;
* `judge_noBetter`, `Compares.slows` : the verdict on a larger mean, and the comparison of larger values;
* `slows_of_slower` : the comparisons of slower runs.
-/

namespace SiteTrial

open Arithmetic

/-- The first verdict is no better for the candidate than the second. -/
inductive Verdict.NoBetter : Verdict → Verdict → Prop
  | same (v : Verdict) : NoBetter v v
  | tieForCandidate : NoBetter .tie .candidate
  | baselineForTie : NoBetter .baseline .tie
  | baselineForCandidate : NoBetter .baseline .candidate

/-- What a comparison says where the candidate is slower than in another one. -/
structure Comparison.Slows (d c : Comparison ℝ) : Prop where
  baseline : d.baseline = c.baseline
  candidate : c.candidate.AtMost d.candidate
  improvement : d.improvement ≤ c.improvement
  verdict : d.verdict.NoBetter c.verdict

/-! ## Verdicts -/

section

variable {a b b' : ℝ}

theorem judge_baseline_of_le (ha : 0 ≤ a) (hle : b ≤ b') (h : judge true a b = .baseline) :
    judge true a b' = .baseline := by
  rw [judge_eq_baseline_iff ha] at h ⊢
  exact ⟨h.1.trans_le hle, by linarith [h.2]⟩

theorem judge_candidate_of_le (hb : 0 ≤ b) (hle : b ≤ b') (h : judge true a b' = .candidate) :
    judge true a b = .candidate := by
  rw [judge_eq_candidate_iff (hb.trans hle)] at h
  rw [judge_eq_candidate_iff hb]
  exact ⟨hle.trans_lt h.1, by linarith [h.2]⟩

theorem judge_noBetter (ha : 0 ≤ a) (hb : 0 ≤ b) (hle : b ≤ b') :
    (judge true a b').NoBetter (judge true a b) := by
  cases hbefore : judge true a b with
  | baseline =>
      rw [judge_baseline_of_le ha hle hbefore]
      exact .same _
  | tie =>
      cases hafter : judge true a b' with
      | baseline => exact .baselineForTie
      | tie => exact .same _
      | candidate =>
          rw [judge_candidate_of_le hb hle hafter] at hbefore
          cases hbefore
      | other word => exact absurd hafter (judge_ne_other word)
  | candidate =>
      cases hafter : judge true a b' with
      | baseline => exact .baselineForCandidate
      | tie => exact .tieForCandidate
      | candidate => exact .same _
      | other word => exact absurd hafter (judge_ne_other word)
  | other word => exact absurd hbefore (judge_ne_other word)

end

/-! ## Comparisons -/

theorem Compares.slows {m : Metric} {xs : List (Readings ℝ)} {vs ws : List ℝ} {c d : Comparison ℝ}
    (hc : Compares m (measured m xs) vs c) (hd : Compares m (measured m xs) ws d)
    (hpos : ∀ v ∈ vs, 0 ≤ v) (hle : List.Forall₂ (· ≤ ·) vs ws) : d.Slows c := by
  have hbaseline : d.baseline = c.baseline := Except.ok.inj (hd.baseline.symm.trans hc.baseline)
  obtain ⟨s, t, hs, ht, hat⟩ := exists_summarize_atMost hle (ne_nil_of_summarize hc.candidate)
  obtain rfl : s = c.candidate := Except.ok.inj (hs.symm.trans hc.candidate)
  obtain rfl : t = d.candidate := Except.ok.inj (ht.symm.trans hd.candidate)
  have hmean : 0 ≤ c.baseline.mean := mean_nonneg hc.baseline fun _ hv => (pos_of_mem_measured hv).le
  refine ⟨hbaseline, hat, ?_, ?_⟩
  · by_cases hzero : c.baseline.mean = 0
    · rw [hc.improvement_of_zero hzero, hd.improvement_of_zero (hbaseline ▸ hzero)]
    · rw [hc.improvement_of_ne hzero, hd.improvement_of_ne (hbaseline ▸ hzero), hbaseline]
      refine hundredths_mono (mul_le_mul_of_nonneg_right ?_ (by norm_num))
      exact div_le_div_of_nonneg_right (sub_le_sub_left hat.mean _) hmean
  · rw [hc.verdict, hd.verdict, hbaseline]
    exact judge_noBetter hmean (mean_nonneg hc.candidate hpos) hat.mean

/-! ## Runs -/

section

variable {m : Metric} {xs ys zs : List (Readings ℝ)}

theorem measured_of_pos (hpos : ∀ y ∈ ys, 0 < y.get m) : measured m ys = ys.map (·.get m) := by
  refine List.filter_eq_self.2 fun v hv => ?_
  obtain ⟨y, hy, rfl⟩ := List.mem_map.1 hv
  simpa [lt_exact, ofInt_exact] using hpos y hy

theorem pos_of_slower (hpos : ∀ y ∈ ys, 0 < y.get m)
    (hslower : List.Forall₂ (fun y z => y.get m ≤ z.get m) ys zs) : ∀ z ∈ zs, 0 < z.get m := by
  induction hslower with
  | nil => exact hpos
  | cons hle _ ih =>
      rw [List.forall_mem_cons] at hpos ⊢
      exact ⟨hpos.1.trans_le hle, ih hpos.2⟩

/-- Getting slower never helps. Of a candidate whose values of a metric are above zero, and of one that is no
faster in any run, either both are compared with a baseline by that metric or none is: they are if the
baseline has a value and there is a run. And where they are, the slower one has a mean and percentiles no
smaller, a percentage no larger and a verdict no better. -/
theorem slows_of_slower (scenario : String) (m : Metric) (xs : List (Readings ℝ)) {ys zs : List (Readings ℝ)}
    (hpos : ∀ y ∈ ys, 0 < y.get m)
    (hslower : List.Forall₂ (fun y z => y.get m ≤ z.get m) ys zs) :
    ∃ cs ds, compareRuns scenario xs ys = .ok cs ∧ compareRuns scenario xs zs = .ok ds ∧
      (measured m xs ≠ [] → ys ≠ [] → ∃ c ∈ cs, ∃ d ∈ ds, c.metric = m.name ∧ d.metric = m.name) ∧
      ∀ c ∈ cs, ∀ d ∈ ds, c.metric = m.name → d.metric = m.name → d.Slows c := by
  obtain ⟨cs, hcs⟩ := exists_compareRuns scenario xs ys
  obtain ⟨ds, hds⟩ := exists_compareRuns scenario xs zs
  have hys := measured_of_pos hpos
  have hzs := measured_of_pos (pos_of_slower hpos hslower)
  refine ⟨cs, ds, hcs, hds, fun hbaseline hruns => ?_, fun c hc d hd hcm hdm => ?_⟩
  · have hothers : zs ≠ [] := by
      rintro rfl
      exact hruns (List.forall₂_nil_right_iff.1 hslower)
    obtain ⟨c, hc, hcompares⟩ := exists_mem_of_compareRuns hcs hbaseline (by simpa [hys] using hruns)
    obtain ⟨d, hd, hcompares'⟩ := exists_mem_of_compareRuns hds hbaseline (by simpa [hzs] using hothers)
    exact ⟨c, hc, d, hd, hcompares.metric, hcompares'.metric⟩
  · obtain ⟨n, hn⟩ := compares_of_mem hcs hc
    obtain ⟨k, hk⟩ := compares_of_mem hds hd
    obtain rfl : n = m := Metric.name_injective (hn.metric.symm.trans hcm)
    obtain rfl : k = n := Metric.name_injective (hk.metric.symm.trans hdm)
    refine hn.slows hk (fun v hv => (pos_of_mem_measured hv).le) ?_
    rw [hys, hzs, List.forall₂_map_left_iff, List.forall₂_map_right_iff]
    exact hslower

/-- Of two candidates one paints as fast as the baseline and one a fifth slower. -/
theorem slows_of_slower_paints :
    (∀ y ∈ paints 100, 0 < y.get .lcp) ∧
      List.Forall₂ (fun y z => y.get .lcp ≤ z.get .lcp) (paints 100) (paints 120) ∧
      ∃ cs ds, compareRuns "login" (paints 100) (paints 100) = .ok cs ∧
        compareRuns "login" (paints 100) (paints 120) = .ok ds ∧
        ∃ c ∈ cs, ∃ d ∈ ds, c.metric = "lcp" ∧ d.metric = "lcp" ∧ d.Slows c := by
  have hpos : ∀ y ∈ paints 100, 0 < y.get .lcp := by
    simp [paints, only, Readings.get]
  have hslower : List.Forall₂ (fun y z => y.get .lcp ≤ z.get .lcp) (paints 100) (paints 120) := by
    norm_num [paints, only, Readings.get, List.replicate]
  have hmeasured : measured .lcp (paints 100) ≠ [] := by
    rw [paints, measured_only .lcp (by norm_num)]
    exact List.cons_ne_nil _ _
  obtain ⟨cs, ds, hcs, hds, hboth, hall⟩ := slows_of_slower "login" .lcp (paints 100) hpos hslower
  obtain ⟨c, hc, d, hd, hcm, hdm⟩ := hboth hmeasured (List.cons_ne_nil _ _)
  exact ⟨hpos, hslower, cs, ds, hcs, hds, c, hc, d, hd, hcm, hdm, hall c hc d hd hcm hdm⟩

end

end SiteTrial
