import SiteTrial.Comparison.Basic
import SiteTrial.Proofs.Statistics.Exact

/-!
# Fair comparisons

In exact arithmetic it does not matter which of two sides is called the baseline: with the sides exchanged
every comparison says the same of each side.

* `Verdict.mirrored`, `Comparison.Mirrors`, `WinSummary.mirrored` : the same with the sides exchanged;
* `judge_mirrored`, `exists_compareValues` : a verdict, and a comparison of measured values;
* `WinSummary.of_mirrors` : the wins of comparisons;
* `compareRuns_mirrored` : the comparisons of two sides.
-/

namespace SiteTrial

open Arithmetic

/-- The verdict where the sides are exchanged. -/
def Verdict.mirrored : Verdict → Verdict
  | .baseline => .candidate
  | .candidate => .baseline
  | v => v

/-- Two comparisons of one metric between the same sides, which have exchanged their names. -/
structure Comparison.Mirrors {α : Type} (c d : Comparison α) : Prop where
  scenario : c.scenario = d.scenario
  metric : c.metric = d.metric
  baseline : c.baseline = d.candidate
  candidate : c.candidate = d.baseline
  significant : c.significant = d.significant
  verdict : d.verdict = c.verdict.mirrored

/-- The wins where the sides are exchanged. -/
def WinSummary.mirrored (w : WinSummary) : WinSummary :=
  { baselineWins := w.candidateWins, candidateWins := w.baselineWins, ties := w.ties }

/-! ## One comparison -/

theorem judge_exact (a b : ℝ) : judge true a b =
    if (a + b) / 2 = 0 ∨ |a - b| / ((a + b) / 2) < 5 / 10 ^ 2 then .tie
    else if a < b then .baseline
    else .candidate := by
  unfold judge
  simp [tieShare, lt_exact, eq_exact, ofInt, decimal, Arithmetic.abs]

/-- Two means that are no tie are different, and then one of the sides is the better one. -/
theorem judge_mirrored (a b : ℝ) : judge true b a = (judge true a b).mirrored := by
  rw [judge_exact, judge_exact, add_comm b a, abs_sub_comm b a]
  by_cases htie : (a + b) / 2 = 0 ∨ |a - b| / ((a + b) / 2) < 5 / 10 ^ 2
  · rw [if_pos htie, if_pos htie]
    rfl
  · rw [if_neg htie, if_neg htie]
    rcases lt_trichotomy a b with hlt | rfl | hgt
    · rw [if_pos hlt, if_neg hlt.not_gt]
      rfl
    · norm_num at htie
    · rw [if_pos hgt, if_neg hgt.not_gt]
      rfl

theorem exists_improvement (a b : ℝ) : ∃ percent, improvement a b = .ok percent := by
  unfold improvement
  split
  · exact ⟨_, rfl⟩
  · exact ⟨_, round2_exact _⟩

/-- Measured values can be compared, either way round. -/
theorem exists_compareValues (scenario : String) (m : Metric) {xs ys : List ℝ} (hxs : xs ≠ [])
    (hys : ys ≠ []) : ∃ c d, compareValues scenario m xs ys = .ok c ∧
      compareValues scenario m ys xs = .ok d ∧ c.Mirrors d := by
  obtain ⟨a, ha, -⟩ := exists_summarize hxs
  obtain ⟨b, hb, -⟩ := exists_summarize hys
  obtain ⟨percent, hpercent⟩ := exists_improvement a.mean b.mean
  obtain ⟨back, hback⟩ := exists_improvement b.mean a.mean
  obtain ⟨significant, hone, hother⟩ := exists_isSignificant xs ys
  unfold compareValues
  simp only [ha, hb, hpercent, hback, hone, hother, ok_bind]
  exact ⟨_, _, rfl, rfl, rfl, rfl, rfl, rfl, rfl, judge_mirrored a.mean b.mean⟩

/-- Either both metrics are compared or none is. -/
theorem exists_compareMetric (scenario : String) (xs ys : List (Readings ℝ)) (m : Metric) :
    ∃ c d, compareMetric scenario xs ys m = .ok c ∧ compareMetric scenario ys xs m = .ok d ∧
      Option.Rel Comparison.Mirrors c d := by
  unfold compareMetric
  dsimp only
  rw [Bool.or_comm (measured m ys).isEmpty]
  split
  · exact ⟨none, none, rfl, rfl, .none⟩
  · next hsome =>
      rw [Bool.or_eq_true, List.isEmpty_iff, List.isEmpty_iff, not_or] at hsome
      obtain ⟨c, d, hc, hd, hmirrors⟩ := exists_compareValues scenario m hsome.1 hsome.2
      rw [hc, hd]
      exact ⟨some c, some d, rfl, rfl, .some hmirrors⟩

/-! ## All comparisons -/

/-- Answers to two questions that always go together. -/
theorem exists_mapM_forall₂ {ε α β : Type} {R : β → β → Prop} {f g : α → Except ε β} (l : List α)
    (h : ∀ a, ∃ b c, f a = .ok b ∧ g a = .ok c ∧ R b c) :
    ∃ bs cs, l.mapM f = .ok bs ∧ l.mapM g = .ok cs ∧ List.Forall₂ R bs cs := by
  induction l with
  | nil => exact ⟨[], [], rfl, rfl, .nil⟩
  | cons a l ih =>
      obtain ⟨b, c, hb, hc, hbc⟩ := h a
      obtain ⟨bs, cs, hbs, hcs, hall⟩ := ih
      refine ⟨b :: bs, c :: cs, ?_, ?_, .cons hbc hall⟩
      · rw [List.mapM_cons, hb, hbs]
        rfl
      · rw [List.mapM_cons, hc, hcs]
        rfl

theorem forall₂_filterMap_id {β : Type} {R : β → β → Prop} {bs cs : List (Option β)}
    (h : List.Forall₂ (Option.Rel R) bs cs) : List.Forall₂ R (bs.filterMap id) (cs.filterMap id) := by
  induction h with
  | nil => exact .nil
  | cons hbc _ ih =>
      cases hbc with
      | none => exact ih
      | some hbc => exact .cons hbc ih

namespace WinSummary

theorem overall_mirrored (w : WinSummary) : w.mirrored.overall = w.overall.mirrored := by
  unfold overall mirrored
  dsimp only
  rcases Nat.lt_trichotomy w.baselineWins w.candidateWins with hlt | heq | hgt
  · rw [if_pos hlt, if_neg (Nat.lt_asymm hlt), if_pos hlt]
    rfl
  · rw [heq, if_neg (Nat.lt_irrefl _), if_neg (Nat.lt_irrefl _)]
    rfl
  · rw [if_neg (Nat.lt_asymm hgt), if_pos hgt, if_pos hgt]
    rfl

theorem ofVerdicts_mirrored (vs : List Verdict) :
    ofVerdicts (vs.map Verdict.mirrored) = (ofVerdicts vs).mirrored := by
  have hbaseline : (vs.map Verdict.mirrored).countP (· == .baseline) = vs.countP (· == .candidate) := by
    rw [List.countP_map]
    exact List.countP_congr fun v _ => by cases v <;> simp [Verdict.mirrored]
  have hcandidate : (vs.map Verdict.mirrored).countP (· == .candidate) = vs.countP (· == .baseline) := by
    rw [List.countP_map]
    exact List.countP_congr fun v _ => by cases v <;> simp [Verdict.mirrored]
  unfold ofVerdicts mirrored
  dsimp only
  rw [hbaseline, hcandidate, List.length_map, Nat.sub_right_comm]

theorem of_mirrors {α : Type} {cs ds : List (Comparison α)} (h : List.Forall₂ Comparison.Mirrors cs ds) :
    of ds = (of cs).mirrored := by
  have hverdicts : ds.map (·.verdict) = (cs.map (·.verdict)).map Verdict.mirrored := by
    induction h with
    | nil => rfl
    | cons hcd _ ih => rw [List.map_cons, List.map_cons, List.map_cons, ih, hcd.verdict]
  rw [of, hverdicts, ofVerdicts_mirrored]
  rfl

end WinSummary

/-- In exact arithmetic both sides are treated alike: whichever of two is called the baseline, the same
metrics are compared in the same order, with the summaries exchanged, the same differences significant and
the verdicts mirrored, and so are the wins and the winner over all. -/
theorem compareRuns_mirrored (scenario : String) (xs ys : List (Readings ℝ)) :
    ∃ cs ds, compareRuns scenario xs ys = .ok cs ∧ compareRuns scenario ys xs = .ok ds ∧
      List.Forall₂ Comparison.Mirrors cs ds ∧
      WinSummary.of ds = (WinSummary.of cs).mirrored ∧
      (WinSummary.of ds).overall = (WinSummary.of cs).overall.mirrored := by
  obtain ⟨cs, ds, hcs, hds, hall⟩ :=
    exists_mapM_forall₂ Metric.all (exists_compareMetric scenario xs ys)
  have hmirrors := forall₂_filterMap_id hall
  have hwins := WinSummary.of_mirrors hmirrors
  refine ⟨cs.filterMap id, ds.filterMap id, ?_, ?_, hmirrors, hwins, ?_⟩
  · unfold compareRuns
    rw [hcs]
    rfl
  · unfold compareRuns
    rw [hds]
    rfl
  · rw [hwins, WinSummary.overall_mirrored]

end SiteTrial
