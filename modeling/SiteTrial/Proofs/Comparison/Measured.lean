import SiteTrial.Comparison.Basic
import SiteTrial.Proofs.Comparison.Values
import SiteTrial.Proofs.Decimal.Order
import SiteTrial.Proofs.Statistics.Sorted

/-!
# What a comparison depends on

A comparison reads the positive measurements of either side and nothing else: neither their order nor the
runs that have measured nothing matter for it.

* `orders_positive` : positive measurements can be sorted in one way only;
* `summarize_of_perm`, `isSignificant_of_perm` : nor do summaries and tests depend on their order;
* `Readings.Idle`, `Dilutes` : the same runs in any order, with others in between that measured nothing;
* `metrics_of_compareRuns` : which metrics are compared;
* `compareRuns_of_dilutes` : which comparisons there are.
-/

namespace SiteTrial

open Arithmetic Decimal

/-! ## Positive measurements -/

theorem lt_zero_iff {x : Float} : lt (ofInt 0) x = true ↔ Positive x := decide_eq_true_iff

theorem lt_eq_false_iff {x y : Float} (hx : Positive x) (hy : Positive y) :
    lt x y = false ↔ rank y ≤ rank x := by
  show decide (x < y) = false ↔ _
  rw [decide_eq_false_iff_not, hx.lt_iff_rank hy, not_lt]

theorem orders_positive : Sorted.Orders (lt : Float → Float → Bool) Positive where
  asymm := by
    intro a b ha hb hab
    have hlt : a < b := decide_eq_true_iff.1 hab
    exact (lt_eq_false_iff hb ha).2 ((ha.lt_iff_rank hb).1 hlt).le
  trans := by
    intro a b c ha hb hc hab hbc
    rw [lt_eq_false_iff hb ha] at hab
    rw [lt_eq_false_iff hc hb] at hbc
    exact (lt_eq_false_iff hc ha).2 (hab.trans hbc)

section Perm

variable {xs xs' ys ys' : List Float}

theorem rising_of_perm (hpos : ∀ x ∈ xs, Positive x) (hperm : xs'.Perm xs) : rising xs' = rising xs :=
  Sorted.sorted_eq_of_perm orders_positive (fun _ _ ha hb hab hba =>
    ha.eq_of_rank hb (le_antisymm ((lt_eq_false_iff hb ha).1 hba) ((lt_eq_false_iff ha hb).1 hab)))
    hpos hperm

theorem summarize_of_perm (hpos : ∀ x ∈ xs, Positive x) (hperm : xs'.Perm xs) :
    summarize xs' = summarize xs := by
  unfold summarize
  rw [rising_of_perm hpos hperm]

theorem isSignificant_of_perm (hxs : ∀ x ∈ xs, Positive x) (hys : ∀ y ∈ ys, Positive y)
    (hxperm : xs'.Perm xs) (hyperm : ys'.Perm ys) : isSignificant xs' ys' = isSignificant xs ys := by
  unfold isSignificant
  rw [summarize_of_perm hxs hxperm, summarize_of_perm hys hyperm, hxperm.length_eq, hyperm.length_eq]

theorem compareValues_of_perm (scenario : String) (m : Metric) (hxs : ∀ x ∈ xs, Positive x)
    (hys : ∀ y ∈ ys, Positive y) (hxperm : xs'.Perm xs) (hyperm : ys'.Perm ys) :
    compareValues scenario m xs' ys' = compareValues scenario m xs ys := by
  unfold compareValues
  rw [summarize_of_perm hxs hxperm, summarize_of_perm hys hyperm,
    isSignificant_of_perm hxs hys hxperm hyperm]

end Perm

/-! ## Runs -/

/-- A run of which no compared measurement is above zero. -/
def Readings.Idle (r : Readings Float) : Prop := ∀ m, ¬ 0.0 < r.get m

/-- Some runs in any order, with idle ones put in anywhere. -/
def Dilutes (runs' runs : List (Readings Float)) : Prop :=
  ∃ idle : List (Readings Float), (∀ r ∈ idle, r.Idle) ∧ runs'.Perm (runs ++ idle)

section Runs

variable {xs xs' ys ys' : List (Readings Float)}

theorem positive_of_mem_measured {m : Metric} {x : Float} (h : x ∈ measured m xs) : Positive x :=
  lt_zero_iff.1 (List.mem_filter.1 h).2

/-- Of idle runs nothing is compared. -/
theorem measured_idle {m : Metric} (h : ∀ r ∈ xs, r.Idle) : measured m xs = [] := by
  refine List.filter_eq_nil_iff.2 fun x hx hpos => ?_
  obtain ⟨r, hr, rfl⟩ := List.mem_map.1 hx
  exact h r hr m (lt_zero_iff.1 hpos)

theorem Dilutes.measured (h : Dilutes xs' xs) (m : Metric) :
    (SiteTrial.measured m xs').Perm (SiteTrial.measured m xs) := by
  obtain ⟨idle, hidle, hperm⟩ := h
  have hmeasured : (SiteTrial.measured m xs').Perm (SiteTrial.measured m (xs ++ idle)) :=
    (hperm.map _).filter _
  have happend : SiteTrial.measured m (xs ++ idle) =
      SiteTrial.measured m xs ++ SiteTrial.measured m idle := by
    unfold SiteTrial.measured
    rw [List.map_append, List.filter_append]
  rwa [happend, measured_idle hidle, List.append_nil] at hmeasured

theorem compareMetric_of_dilutes (scenario : String) (hx : Dilutes xs' xs) (hy : Dilutes ys' ys)
    (m : Metric) : compareMetric scenario xs' ys' m = compareMetric scenario xs ys m := by
  have hsame : compareValues scenario m (measured m xs') (measured m ys') =
      compareValues scenario m (measured m xs) (measured m ys) :=
    compareValues_of_perm scenario m (fun _ => positive_of_mem_measured)
      (fun _ => positive_of_mem_measured) (hx.measured m) (hy.measured m)
  unfold compareMetric
  dsimp only
  rw [hsame, (hx.measured m).isEmpty_eq, (hy.measured m).isEmpty_eq]

/-- A metric has a value above zero in some run. -/
def Metric.isMeasured (m : Metric) (runs : List (Readings Float)) : Bool :=
  runs.any fun r => 0.0 < r.get m

theorem isEmpty_measured (m : Metric) : (measured m xs).isEmpty = !m.isMeasured xs := by
  rw [Bool.eq_iff_iff, List.isEmpty_iff, measured, List.filter_eq_nil_iff, List.forall_mem_map,
    Bool.not_eq_true', Metric.isMeasured, List.any_eq_false]
  refine forall₂_congr fun r _ => not_congr ?_
  rw [lt_zero_iff, decide_eq_true_iff]
  rfl

/-! ## Comparisons -/

/-- A metric is compared exactly if both sides have measured it. -/
theorem metric_of_compareMetric {scenario : String} {m : Metric} {c : Option (Comparison Float)}
    (h : compareMetric scenario xs ys m = .ok c) :
    c.map (·.metric) = if m.isMeasured xs && m.isMeasured ys then some m.name else none := by
  unfold compareMetric at h
  dsimp only at h
  rw [isEmpty_measured, isEmpty_measured, ← Bool.not_and] at h
  cases hboth : m.isMeasured xs && m.isMeasured ys with
  | false =>
      rw [hboth] at h
      cases h
      rfl
  | true =>
      rw [hboth] at h
      obtain ⟨d, hd, rfl⟩ := exists_of_map h
      exact congrArg some (compares_of_compareValues hd).metric

theorem metrics_of_mapM {scenario : String} {ms : List Metric} {cs : List (Option (Comparison Float))}
    (h : ms.mapM (compareMetric scenario xs ys) = .ok cs) :
    (cs.filterMap id).map (·.metric) =
      (ms.filter fun m => m.isMeasured xs && m.isMeasured ys).map Metric.name := by
  induction ms generalizing cs with
  | nil =>
      cases h
      rfl
  | cons m ms ih =>
      rw [List.mapM_cons] at h
      obtain ⟨c, hc, h⟩ := exists_of_bind h
      obtain ⟨rest, hrest, h⟩ := exists_of_bind h
      cases h
      have hmetric := metric_of_compareMetric hc
      rw [List.filter_cons]
      cases hboth : m.isMeasured xs && m.isMeasured ys with
      | false =>
          rw [hboth] at hmetric
          obtain rfl := Option.map_eq_none_iff.1 hmetric
          show (rest.filterMap id).map (·.metric) = _
          exact ih hrest
      | true =>
          rw [hboth] at hmetric
          obtain ⟨d, rfl, hd⟩ := Option.map_eq_some_iff.1 hmetric
          show d.metric :: (rest.filterMap id).map (·.metric) = m.name :: _
          rw [hd, ih hrest]

/-- The metrics that are compared are those that have a value above zero on both sides. -/
theorem metrics_of_compareRuns {scenario : String} {cs : List (Comparison Float)}
    (h : compareRuns scenario xs ys = .ok cs) : cs.map (·.metric) =
      (Metric.all.filter fun m => m.isMeasured xs && m.isMeasured ys).map Metric.name := by
  unfold compareRuns at h
  obtain ⟨found, hfound, h⟩ := exists_of_bind h
  cases h
  exact metrics_of_mapM hfound

end Runs

/-- What is compared is what was measured: with the runs of either side in any order, and with idle ones
put in anywhere, there are the same comparisons, or the same failure. There is one comparison for each
metric that has a value above zero on both sides, in the order of the metrics, and no other. -/
theorem compareRuns_of_dilutes (scenario : String) {xs xs' ys ys' : List (Readings Float)}
    (hxs : Dilutes xs' xs) (hys : Dilutes ys' ys) :
    compareRuns scenario xs' ys' = compareRuns scenario xs ys ∧
      ∀ cs, compareRuns scenario xs ys = .ok cs →
        cs.map (·.metric) =
            (Metric.all.filter fun m => m.isMeasured xs && m.isMeasured ys).map Metric.name ∧
          (cs.map (·.metric)).Nodup := by
  refine ⟨?_, fun cs hcs => ?_⟩
  · unfold compareRuns
    rw [funext (compareMetric_of_dilutes scenario hxs hys)]
  · have hmetrics := metrics_of_compareRuns hcs
    refine ⟨hmetrics, ?_⟩
    rw [hmetrics]
    refine List.Nodup.map (fun a b => Metric.name_injective) (List.Nodup.filter _ ?_)
    decide

/-- A run in which only the largest contentful paint has a value. -/
def painted (lcp : Float) : Readings Float :=
  { lcp := lcp, fid := 0, inp := 0, cls := 0, ttfb := 0, fcp := 0, tti := 0, totalPageLoadTime := 0
    domContentLoaded := 0 }

/-- Two runs that have measured it, in either order, with one in between that has not. -/
theorem compareRuns_of_dilutes_painted :
    Dilutes [painted 120.5, painted (-1), painted 99.25] [painted 99.25, painted 120.5] ∧
      Dilutes [painted 80, painted 0] [painted 80] ∧
      compareRuns "login" [painted 120.5, painted (-1), painted 99.25] [painted 80, painted 0] =
        compareRuns "login" [painted 99.25, painted 120.5] [painted 80] ∧
      ∀ cs, compareRuns "login" [painted 99.25, painted 120.5] [painted 80] = .ok cs →
        cs.map (·.metric) = ["lcp"] := by
  have hzero : ¬ (0.0 : Float) < 0 := by
    decide +kernel
  have hnegative : ¬ (0.0 : Float) < -1 := by
    decide +kernel
  have hidle : ∀ lcp : Float, ¬ 0.0 < lcp → (painted lcp).Idle := by
    intro lcp hlcp m
    cases m with
    | lcp => exact hlcp
    | _ => exact hzero
  have hxs : Dilutes [painted 120.5, painted (-1), painted 99.25] [painted 99.25, painted 120.5] :=
    ⟨[painted (-1)], List.forall_mem_singleton.2 (hidle (-1) hnegative),
      @List.perm_append_comm _ [painted 120.5, painted (-1)] [painted 99.25]⟩
  have hys : Dilutes [painted 80, painted 0] [painted 80] :=
    ⟨[painted 0], List.forall_mem_singleton.2 (hidle 0 hzero), .refl _⟩
  obtain ⟨hsame, hmetrics⟩ := compareRuns_of_dilutes "login" hxs hys
  refine ⟨hxs, hys, hsame, fun cs hcs => (hmetrics cs hcs).1.trans ?_⟩
  decide +kernel

end SiteTrial
