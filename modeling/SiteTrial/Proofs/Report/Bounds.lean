import SiteTrial.Proofs.Report.Range
import SiteTrial.Proofs.Value.Kind

/-!
# Which bounds are in force

Mappings are merged onto bounds one after another, and what is written last counts. Those of a scenario
stand in its definition, which is read twice: when the scenario is run, and when its samples are looked at.

* `Bounded.assigned?` : what an entry of a mapping sets a bound to;
* `Thresholds.bound_override`, `Thresholds.bound_merged` : one entry, and a mapping of them;
  `Thresholds.foldlM_merged` : mappings one after another are as one mapping;
* `expectedMetrics_of_libraryGet` : both readers of a definition find the same mapping;
* `get?_checks_iff` : what a report files for the sides;
* `failures_sideCheck`, `passed_sideCheck_iff` : the failures of samples;
* `bounds_in_force` : all of them.
-/

namespace SiteTrial

open Told

/-! ## Merging -/

namespace Bounded

/-- The keys that name a measurement. -/
def keys : Bounded → List String
  | .lcp => ["lcp"]
  | .fid => ["fid"]
  | .cls => ["cls"]
  | .ttfb => ["ttfb"]
  | .totalLoadTime => ["totalLoadTime", "total_load_time"]

/-- What an entry sets the bound of a measurement to: its number, if its key names the measurement. Truth
values count as numbers. -/
def assigned? (b : Bounded) : Scalar × Value → Option Float
  | (.text k, v) => if k ∈ b.keys then v.numeric?.toOption.join else none
  | _ => none

theorem ofKey?_eq_some_iff {k : String} {b : Bounded} : ofKey? k = some b ↔ k ∈ b.keys := by
  unfold ofKey?
  constructor
  · intro h
    split_ifs at h with hlcp hfid hcls httfb htotal
    · cases h
      exact List.mem_singleton.2 hlcp
    · cases h
      exact List.mem_singleton.2 hfid
    · cases h
      exact List.mem_singleton.2 hcls
    · cases h
      exact List.mem_singleton.2 httfb
    · cases h
      exact List.mem_pair.2 htotal.symm
  · intro h
    cases b with
    | totalLoadTime => rcases List.mem_pair.1 h with rfl | rfl <;> rfl
    | _ =>
        obtain rfl := List.mem_singleton.1 h
        rfl

/-- An entry sets the bound that its key names, if its value is a number. -/
theorem assigned?_eq (b : Bounded) (k : Scalar) (v : Value) :
    b.assigned? (k, v) = if Thresholds.keyOf? k = some b then v.numeric?.toOption.join else none := by
  unfold assigned? Thresholds.keyOf?
  cases k with
  | text s => simp only [ofKey?_eq_some_iff]
  | _ => rfl

theorem mem_all (b : Bounded) : b ∈ all := by cases b <;> decide

end Bounded

namespace Thresholds

variable {t t' : Thresholds}

theorem bound_set (t : Thresholds) (b b' : Bounded) (x : Float) :
    (t.set b x).bound b' = if b' = b then x else t.bound b' := by
  cases b <;> cases b' <;> rfl

/-- One entry replaces the bound that it sets, and no other one. -/
theorem bound_override {e : Scalar × Value} (h : t.override e.1 e.2 = .ok t') (b : Bounded) :
    t'.bound b = (b.assigned? e).getD (t.bound b) := by
  obtain ⟨k, v⟩ := e
  rw [Bounded.assigned?_eq]
  unfold override at h
  cases hkey : keyOf? k with
  | none =>
      rw [hkey] at h
      cases h
      rfl
  | some named =>
      rw [hkey] at h
      obtain ⟨number, hnumber, rfl⟩ := exists_of_map h
      by_cases hb : b = named
      · subst hb
        rw [if_pos rfl, hnumber]
        cases number with
        | none => rfl
        | some x =>
            rw [bound_set, if_pos rfl]
            rfl
      · rw [if_neg fun h => hb (Option.some.inj h).symm]
        cases number with
        | none => rfl
        | some x =>
            rw [bound_set, if_neg hb]
            rfl

/-- The last entry that sets a bound counts. -/
theorem bound_merged {overrides : Fields} (h : t.merged overrides = .ok t') (b : Bounded) :
    t'.bound b = ((overrides.filterMap b.assigned?).getLast?).getD (t.bound b) := by
  induction overrides generalizing t with
  | nil =>
      cases h
      rfl
  | cons e overrides ih =>
      obtain ⟨first, hfirst, h⟩ := exists_of_bind h
      rw [ih h, bound_override hfirst, List.filterMap_cons]
      cases b.assigned? e with
      | none => rfl
      | some x =>
          rw [List.getLast?_cons, Option.getD_some, Option.getD_some]

theorem merged_append (first second : Fields) :
    t.merged (first ++ second) = t.merged first >>= fun t => t.merged second := List.foldlM_append

/-- Mappings that are merged one after another are as one mapping. -/
theorem foldlM_merged (layers : List Fields) (t : Thresholds) :
    layers.foldlM merged t = t.merged layers.flatten := by
  induction layers generalizing t with
  | nil => rfl
  | cons overrides layers ih =>
      rw [List.foldlM_cons, List.flatten_cons, merged_append]
      exact bind_congr ih

/-- Mappings without a number beyond the doubles can be merged, and each bound is then what the last entry
that sets it does. -/
theorem exists_foldlM_merged {layers : List Fields} (hrange : ∀ overrides ∈ layers, ∀ e ∈ overrides, ¬ e.2.IsBeyondDoubles)
    (t : Thresholds) : ∃ t', layers.foldlM merged t = .ok t' ∧
      ∀ b, t'.bound b = ((layers.flatten.filterMap b.assigned?).getLast?).getD (t.bound b) := by
  have hmerged : ∃ t', t.merged layers.flatten = .ok t' := by
    refine exists_iff_not_error.2 fun hrefused => ?_
    obtain ⟨e, he, -, hbeyond⟩ := Check.merged_eq_error_iff.1 hrefused
    obtain ⟨overrides, hoverrides, he⟩ := List.mem_flatten.1 he
    exact hrange overrides hoverrides e he hbeyond
  obtain ⟨t', ht'⟩ := hmerged
  exact ⟨t', (foldlM_merged layers t).trans ht', bound_merged ht'⟩

end Thresholds

/-! ## The definition of a scenario -/

theorem expectedMetrics_of_ofFields {fs : Fields} {s : Scenario} (h : (Scenario.ofFields fs).answer = .ok s) :
    (fs.get "expectedMetrics").fields?.getD [] = s.expectedMetrics := by
  have hread := (isReadFrom_of_ofFields h).expectedMetrics
  unfold Value.orElse at hread
  split at hread
  · rw [hread]
    rfl
  · next hempty =>
      have hnil : [] = s.expectedMetrics := Option.some.inj hread
      rw [← hnil]
      cases hfields : (fs.get "expectedMetrics").fields? with
      | none => rfl
      | some entries => exact Value.eq_nil_of_fields? (Bool.eq_false_iff.2 hempty) hfields

/-- The analysis finds the mapping of the definition that is run. -/
theorem expectedMetrics_of_libraryGet {l : Library} {name : String} {s : Scenario}
    (h : (l.get name).answer = .ok s) : l.expectedMetrics name = s.expectedMetrics := by
  unfold Library.get at h
  unfold Library.expectedMetrics
  split at h
  · cases h
  · next fs hfs =>
      exact expectedMetrics_of_ofFields h

/-! ## What is filed -/

section Filed

variable {thresholds : Thresholds} {samples : List Sample} {report after : ScenarioReport}

/-- The samples of a side are checked under the name of its application. -/
theorem get?_of_analyzeSide {application : String} (hside : ∀ s ∈ samples, s.application = application)
    (h : (analyzeSide thresholds samples report).answer = .ok after) (name : String) :
    after.thresholdChecks.get? name =
      if samples ≠ [] ∧ name = application then some (sideCheck thresholds samples)
      else report.thresholdChecks.get? name := by
  cases samples with
  | nil =>
      cases h
      rw [if_neg fun h => h.1 rfl]
  | cons first rest =>
      rw [answer_analyzeSide_cons] at h
      obtain ⟨score, -, rfl⟩ := exists_of_map h
      dsimp only
      rw [Table.get?_put, hside first (List.mem_cons_self ..)]
      simp only [ne_eq, reduceCtorEq, not_false_eq_true, true_and]
      rfl

theorem application_of_mem_samplesOf {application scenario : String} :
    ∀ s ∈ samplesOf application scenario samples, s.application = application := by
  intro s hs
  obtain ⟨-, hnames⟩ := List.mem_filter.1 hs
  rw [Bool.and_eq_true] at hnames
  exact of_decide_eq_true hnames.1

/-- A report has one entry for each name of a side that has samples, the check of these. -/
theorem get?_checks_iff {scenario : String} {config : Config} {regressionThreshold : Float}
    (h : (analyzeScenario scenario (samplesOf config.baseline.name scenario samples)
      (samplesOf config.candidate.name scenario samples) thresholds regressionThreshold).answer =
        .ok report) {application : String} {check : ThresholdReport} :
    report.thresholdChecks.get? application = some check ↔
      (∃ side, (config.application side).name = application) ∧
        samplesOf application scenario samples ≠ [] ∧
        sideCheck thresholds (samplesOf application scenario samples) = check := by
  obtain ⟨first, hfirst, h⟩ := exists_of_answer_bind (fun _ =>
    isSteady_bind (isSteady_analyzeSide _ _ _) fun report =>
      isSteady_compared scenario _ _ regressionThreshold report) h
  obtain ⟨second, hsecond, h⟩ := exists_of_answer_bind (fun report =>
    isSteady_compared scenario _ _ regressionThreshold report) h
  have hbaseline := get?_of_analyzeSide application_of_mem_samplesOf hfirst application
  rw [(entries_of_compared h).1, get?_of_analyzeSide application_of_mem_samplesOf hsecond, hbaseline]
  by_cases hofCandidate : samplesOf config.candidate.name scenario samples ≠ [] ∧
      application = config.candidate.name
  · rw [if_pos hofCandidate, Option.some.injEq]
    obtain ⟨hsome, rfl⟩ := hofCandidate
    exact ⟨fun hcheck => ⟨⟨.candidate, rfl⟩, hsome, hcheck⟩, fun h => h.2.2⟩
  rw [if_neg hofCandidate]
  by_cases hofBaseline : samplesOf config.baseline.name scenario samples ≠ [] ∧
      application = config.baseline.name
  · rw [if_pos hofBaseline, Option.some.injEq]
    obtain ⟨hsome, rfl⟩ := hofBaseline
    exact ⟨fun hcheck => ⟨⟨.baseline, rfl⟩, hsome, hcheck⟩, fun h => h.2.2⟩
  rw [if_neg hofBaseline]
  refine iff_of_false nofun ?_
  rintro ⟨⟨side, rfl⟩, hsome, -⟩
  cases side with
  | baseline => exact hofBaseline ⟨hsome, rfl⟩
  | candidate => exact hofCandidate ⟨hsome, rfl⟩

end Filed

/-! ## Failures -/

/-- What a sample and a bounded measurement are reported as if the measurement is above its bound. -/
def failureOf (t : Thresholds) (s : Sample) (b : Bounded) : String :=
  (Breach.mk s.application s.iteration b (b.value s) (t.bound b)).text

theorem text_breachesOf (t : Thresholds) (s : Sample) :
    (breachesOf t s).map Breach.text =
      (Bounded.all.filter fun b => t.bound b < b.value s).map (failureOf t s) := by
  unfold breachesOf
  induction Bounded.all with
  | nil => rfl
  | cons b rest ih =>
      by_cases habove : t.bound b < b.value s
      · rw [List.filterMap_cons_some (show breach? t s b = some _ from if_pos habove), List.map_cons, ih,
          List.filter_cons_of_pos (by simpa using habove), List.map_cons]
        rfl
      · rw [List.filterMap_cons_none (show breach? t s b = none from if_neg habove), ih,
          List.filter_cons_of_neg (by simpa using habove)]

/-- A pair of a sample and a measurement above its bound is one failure. -/
theorem failures_sideCheck (t : Thresholds) (ss : List Sample) :
    (sideCheck t ss).failures =
      ((ss ×ˢ Bounded.all).filter fun pair => t.bound pair.2 < pair.2.value pair.1).map
        fun pair => failureOf t pair.1 pair.2 := by
  show (ss.flatMap (breachesOf t)).map Breach.text = _
  induction ss with
  | nil => rfl
  | cons s ss ih =>
      rw [List.flatMap_cons, List.map_append, ih, text_breachesOf, List.product_cons, List.filter_append,
        List.map_append, List.filter_map, List.map_map]
      rfl

theorem passed_sideCheck_iff (t : Thresholds) (ss : List Sample) :
    (sideCheck t ss).passed = true ↔ ∀ s ∈ ss, ∀ b : Bounded, ¬ t.bound b < b.value s := by
  unfold ThresholdReport.passed
  rw [List.isEmpty_iff, failures_sideCheck, List.map_eq_nil_iff, List.filter_eq_nil_iff]
  constructor
  · intro h s hs b
    simpa using h (s, b) (List.mem_product.2 ⟨hs, b.mem_all⟩)
  · rintro h ⟨s, b⟩ hpair
    simpa using h s (List.mem_product.1 hpair).1 b

/-! ## All of them -/

theorem exists_bounds_of_analyze {samples : List Sample} {l : Library} {config : Config}
    {reports : List ScenarioReport} (h : (analyze ⟨samples, true⟩ l config).answer = .ok reports)
    {report : ScenarioReport} (hreport : report ∈ reports) :
    ∃ t, config.execution.thresholds.merged (l.expectedMetrics report.scenario) = .ok t ∧
      ∀ application check, report.thresholdChecks.get? application = some check ↔
        (∃ side, (config.application side).name = application) ∧
          samplesOf application report.scenario samples ≠ [] ∧
          sideCheck t (samplesOf application report.scenario samples) = check := by
  rw [answer_analyze] at h
  obtain ⟨scenario, -, hanalyzed⟩ := exists_of_mem_mapM h hreport
  obtain rfl := scenario_of_analyzeCollected hanalyzed
  rw [answer_analyzeCollected] at hanalyzed
  obtain ⟨t, ht, hanalyzed⟩ := exists_of_bind hanalyzed
  exact ⟨t, eq_of_mapError ht, fun _ _ => get?_checks_iff hanalyzed⟩

/-- The bounds that the samples of a scenario are held to. Of mappings merged onto the defaults, the last
entry that sets a bound counts; the mapping that an analysis merges is that of the definition that is run;
and a side fails once for each pair of a sample and a measurement above its bound, in the order of the
samples and then of the measurements. -/
theorem bounds_in_force :
    (∀ layers : List Fields, (∀ overrides ∈ layers, ∀ e ∈ overrides, ¬ e.2.IsBeyondDoubles) →
      ∃ t, layers.foldlM Thresholds.merged {} = .ok t ∧ ∀ b, t.bound b =
        ((layers.flatten.filterMap b.assigned?).getLast?).getD (({} : Thresholds).bound b)) ∧
    (∀ (l : Library) (name : String) (s : Scenario), (l.get name).answer = .ok s →
      l.expectedMetrics name = s.expectedMetrics ∧
      ∀ samples config reports, (analyze ⟨samples, true⟩ l config).answer = .ok reports →
        ∀ report ∈ reports, report.scenario = name →
          ∃ t, config.execution.thresholds.merged s.expectedMetrics = .ok t ∧
            ∀ application check, report.thresholdChecks.get? application = some check ↔
              (∃ side, (config.application side).name = application) ∧
                samplesOf application name samples ≠ [] ∧
                sideCheck t (samplesOf application name samples) = check) ∧
    ∀ (t : Thresholds) (samples : List Sample),
      (sideCheck t samples).failures =
        ((samples ×ˢ Bounded.all).filter fun pair => t.bound pair.2 < pair.2.value pair.1).map
          (fun pair => failureOf t pair.1 pair.2) ∧
      ((sideCheck t samples).passed = true ↔ ∀ s ∈ samples, ∀ b : Bounded, ¬ t.bound b < b.value s) := by
  refine ⟨fun layers hrange => Thresholds.exists_foldlM_merged hrange {}, fun l name s hs => ?_,
    fun t samples => ⟨failures_sideCheck t samples, passed_sideCheck_iff t samples⟩⟩
  have hexpected := expectedMetrics_of_libraryGet hs
  refine ⟨hexpected, fun samples config reports hreports report hreport hname => ?_⟩
  subst hname
  rw [← hexpected]
  exact exists_bounds_of_analyze hreports hreport

/-- Bounds that are set twice, under either name of the load time, by a truth value, and in vain. -/
def layeredBounds : List Fields :=
  [[(.text "totalLoadTime", .int 4000), (.text "lcp", .int 1800), (.text "fid", .text "50")],
    [(.text "total_load_time", .double 3500.5), (.text "lcp", .bool true), (.text "speed", .int 1)]]

/-- Two mappings one after the other; and a scenario with a bound of its own, which its sample breaks. -/
theorem bounds_in_force_demanding :
    (∃ t, layeredBounds.foldlM Thresholds.merged {} = .ok t ∧ t.totalLoadTime = 3500.5 ∧ t.lcp = 1.0 ∧
      t.fid = 100.0) ∧
    ∃ s reports, ((demanding 2000).get "login").answer = .ok s ∧
      (analyze ⟨[landing "Baseline Application" 2200.0 0.0], true⟩ (demanding 2000)
        Rehearsed.config).answer = .ok reports ∧
      ∀ report ∈ reports, report.scenario = "login" →
        ∃ check, report.thresholdChecks.get? "Baseline Application" = some check ∧ check.passed = false := by
  obtain ⟨hmerged, hscenario, hchecked⟩ := bounds_in_force
  refine ⟨?_, ?_⟩
  · have hnumbers : ∀ overrides ∈ layeredBounds, ∀ e ∈ overrides, e.2.numeric?.toOption.isSome = true := by
      decide +kernel
    obtain ⟨t, ht, hbounds⟩ := hmerged layeredBounds fun overrides hoverrides e he hbeyond => by
      obtain ⟨f, hf⟩ := Value.numeric?_eq_error_iff.2 hbeyond
      have hnumber := hnumbers overrides hoverrides e he
      rw [hf] at hnumber
      cases hnumber
    exact ⟨t, ht, (hbounds .totalLoadTime).trans (by decide +kernel), (hbounds .lcp).trans (by decide +kernel),
      (hbounds .fid).trans (by decide +kernel)⟩
  · obtain ⟨s, hs⟩ := exists_of_isSome (x := ((demanding 2000).get "login").answer) (by decide +kernel)
    obtain ⟨reports, hreports⟩ := exists_of_isSome (x := (analyze ⟨[landing "Baseline Application" 2200.0 0.0], true⟩
      (demanding 2000) Rehearsed.config).answer) (by decide +kernel)
    refine ⟨s, reports, hs, hreports, fun report hreport hname => ?_⟩
    obtain ⟨hexpected, hfiled⟩ := hscenario _ _ _ hs
    obtain ⟨t, ht, hfiled⟩ := hfiled _ _ _ hreports report hreport hname
    have hlcp : t.bound .lcp = 2000.0 := by
      rw [← hexpected] at ht
      exact (Thresholds.bound_merged ht .lcp).trans (by decide +kernel)
    refine ⟨_, (hfiled "Baseline Application" _).2 ⟨⟨.baseline, by decide +kernel⟩, by decide +kernel, rfl⟩,
      Bool.eq_false_iff.2 fun hpassed => ?_⟩
    refine (hchecked t _).2.1 hpassed (landing "Baseline Application" 2200.0 0.0) (List.mem_singleton_self _) .lcp ?_
    rw [hlcp]
    decide +kernel

end SiteTrial
