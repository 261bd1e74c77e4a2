import SiteTrial.Proofs.Decimal.Difference
import SiteTrial.Proofs.Run.Survivable
import SiteTrial.Proofs.Statistics.Doubles

/-!
# Timings are not negative

A page may report its moments in any order, leave some out, and put something else than a number in their place: the
timings of a sample are never below zero. The sizes of resources are not checked in the same way, and are below zero
where the page says so.

* `Timings.IsNonneg` : no time is below zero;
* `integerOf_nonneg_iff` : the numbers whose integer is not below zero;
* `Timings.ofEntries_nonneg` : the timings of the entries of a page, and which pages make their sizes negative;
* `Timings.ofEntries_negative_size` : a resource of negative size.
-/

namespace SiteTrial

open Decimal

variable {v : Value} {x : Float}

/-! ## Times -/

/-- A time that is not below zero is left as it is, and there is none that is no number. -/
theorem zero_le_spanOf (h : x.toModel.unpack ≠ .notANumber) : 0.0 ≤ spanOf x := by
  unfold spanOf
  split
  · exact zero_le_zero
  · next hnot => exact zero_le_iff.2 ⟨h, hnot⟩

namespace Value

theorem IsOrdinary.zero_le_nonNegative (h : v.IsOrdinary) (hx : v.nonNegative = .ok x) : 0.0 ≤ x := by
  obtain ⟨y, hy, hfinite⟩ := h.exists_numericOrZero
  unfold nonNegative at hx
  split at hx
  · next n =>
      split at hx
      · cases hx
        exact zero_le_zero
      · next hnot =>
          unfold doubleOfInt at hx
          dsimp only at hx
          split at hx
          · next hfinite =>
              cases hx
              exact zero_le_iff.2 ⟨ne_notANumber_of_isFinite hfinite, not_ofInt_lt_zero (not_lt.1 hnot)⟩
          · cases hx
  · rw [hy] at hx
    cases hx
    exact zero_le_spanOf (ne_notANumber_of_isFinite hfinite)

theorem IsEntry.zero_le_entrySpan (h : v.IsEntry) {first last : String} (hx : entrySpan v first last = .ok x) :
    0.0 ≤ x := by
  obtain ⟨finish, hfinish, hfinite⟩ := h.exists_entryNumber last
  obtain ⟨start, hstart, hfinite'⟩ := h.exists_entryNumber first
  unfold entrySpan at hx
  rw [hfinish, ok_bind, hstart, ok_bind] at hx
  cases hx
  exact zero_le_spanOf (sub_ne_notANumber hfinite hfinite')

end Value

open Value

theorem zero_le_firstPaint {vs : List Value} (h : ∀ v ∈ vs, v.IsEntry) (hx : firstPaint vs = .ok x) : 0.0 ≤ x := by
  induction vs with
  | nil =>
      cases hx
      exact zero_le_zero
  | cons v vs ih =>
      obtain ⟨fs, hfs, hordinary⟩ := h v (List.mem_cons_self ..)
      unfold firstPaint at hx
      simp only [member_of_fields hfs, ok_bind] at hx
      split at hx
      · exact (isOrdinary_get hordinary _).zero_le_nonNegative hx
      · exact ih (fun w hw => h w (List.mem_cons_of_mem _ hw)) hx

/-- No time is below zero, neither one of the page nor one of its resources. -/
structure Timings.IsNonneg (t : Timings) : Prop where
  ttfb : 0.0 ≤ t.ttfb
  fcp : 0.0 ≤ t.fcp
  tti : 0.0 ≤ t.tti
  dnsTime : 0.0 ≤ t.dnsTime
  sslTime : 0.0 ≤ t.sslTime
  totalPageLoadTime : 0.0 ≤ t.totalPageLoadTime
  domContentLoaded : 0.0 ≤ t.domContentLoaded
  loadComplete : 0.0 ≤ t.loadComplete
  durations : ∀ r ∈ t.resources, 0.0 ≤ r.duration

/-! ## Sizes -/

/-- The fraction of a number is cut off, so what is above minus one comes to zero. -/
theorem integerOf_nonneg_iff {n : Int} (h : integerOf .towardsZero x = .ok n) : 0 ≤ n ↔ -1 < number x := by
  have hfinite : x.isFinite = true := by
    by_contra hnot
    obtain ⟨f, hf⟩ := integerOf_eq_error_iff.2 (Bool.eq_false_of_not_eq_true hnot)
    cases hf.symm.trans h
  obtain ⟨negative, m, q, hparts, hnumber⟩ := exists_parts hfinite
  obtain ⟨hden, hfraction⟩ := fraction_eq m q
  unfold integerOf at h
  rw [hparts] at h
  have hn : Binary.Rounding.towardsZero.apply negative (Binary.fraction m q).1 (Binary.fraction m q).2 = n :=
    Except.ok.inj h
  rw [hnumber, ← hfraction, ← hn]
  generalize (Binary.fraction m q).1 = num at *
  generalize (Binary.fraction m q).2 = den at *
  have hpos : (0 : ℝ) < den := by exact_mod_cast hden
  unfold Binary.Rounding.apply
  cases negative with
  | false =>
      refine iff_of_true (Int.natCast_nonneg _) ?_
      have hnonneg : (0 : ℝ) ≤ num / den := by positivity
      simp only [Bool.false_eq_true, if_false]
      linarith
  | true =>
      simp only [if_true]
      rw [neg_lt_neg_iff, div_lt_one hpos, Nat.cast_lt, ← Nat.div_eq_zero_iff_lt hden]
      generalize num / den = size
      omega

/-- The sizes that an entry reports are not below zero when their fractions are cut off. -/
def Value.HasSizes (entry : Value) : Prop :=
  ∀ key ∈ ["decodedBodySize", "transferSize"], ∀ x, entryNumber entry key = .ok x → -1 < number x

namespace ResourceTiming

/-- What the load of a resource is made of. -/
theorem exists_of_ofEntry {r : ResourceTiming} (hr : ofEntry v = .ok r) :
    entrySpan v "startTime" "responseEnd" = .ok r.duration ∧
    (∃ x, entryNumber v "decodedBodySize" = .ok x ∧ integerOf .towardsZero x = .ok r.size) ∧
    ∃ x, entryNumber v "transferSize" = .ok x ∧ integerOf .towardsZero x = .ok r.transferSize := by
  obtain ⟨name, -, hr⟩ := exists_of_bind hr
  obtain ⟨kind, -, hr⟩ := exists_of_bind hr
  obtain ⟨duration, hduration, hr⟩ := exists_of_bind hr
  obtain ⟨decoded, hdecoded, hr⟩ := exists_of_bind hr
  obtain ⟨size, hsize, hr⟩ := exists_of_bind hr
  obtain ⟨transferred, htransferred, hr⟩ := exists_of_bind hr
  obtain ⟨transferSize, htransferSize, hr⟩ := exists_of_bind hr
  cases hr
  exact ⟨hduration, ⟨decoded, hdecoded, hsize⟩, transferred, htransferred, htransferSize⟩

theorem sizes_nonneg_iff {r : ResourceTiming} (hr : ofEntry v = .ok r) :
    (0 ≤ r.size ∧ 0 ≤ r.transferSize) ↔ v.HasSizes := by
  obtain ⟨-, ⟨decoded, hdecoded, hsize⟩, transferred, htransferred, htransferSize⟩ := exists_of_ofEntry hr
  rw [integerOf_nonneg_iff hsize, integerOf_nonneg_iff htransferSize]
  unfold HasSizes
  rw [List.forall_mem_cons, List.forall_mem_singleton, hdecoded, htransferred]
  exact and_congr ⟨fun h _ hx => Except.ok.inj hx ▸ h, fun h => h _ rfl⟩
    ⟨fun h _ hx => Except.ok.inj hx ▸ h, fun h => h _ rfl⟩

variable {entries : List Value} {loads : List ResourceTiming}

theorem zero_le_durations (hloads : entries.mapM ofEntry = .ok loads) (h : ∀ e ∈ entries, e.IsLoad) :
    ∀ r ∈ loads, 0.0 ≤ r.duration := by
  intro r hr
  obtain ⟨e, he, hmade⟩ := exists_of_mem_mapM hloads hr
  exact (h e he).isEntry.zero_le_entrySpan (exists_of_ofEntry hmade).1

theorem all_sizes_nonneg_iff (hloads : entries.mapM ofEntry = .ok loads) :
    (∀ r ∈ loads, 0 ≤ r.size ∧ 0 ≤ r.transferSize) ↔ ∀ e ∈ entries, e.HasSizes := by
  constructor
  · intro hnonneg e he
    obtain ⟨r, hmade⟩ := exists_of_mapM_ok hloads he
    exact (sizes_nonneg_iff hmade).1 (hnonneg r (mem_of_mapM_ok hloads he hmade))
  · intro hreported r hr
    obtain ⟨e, he, hmade⟩ := exists_of_mem_mapM hloads hr
    exact (sizes_nonneg_iff hmade).2 (hreported e he)

end ResourceTiming

namespace Timings

/-- With a navigation entry every time is made of two of its moments. -/
theorem isNonneg_of_ofNavigation {t : Timings} (hv : v.IsEntry) {fcp : Float} {loads : List ResourceTiming}
    (hfcp : 0.0 ≤ fcp) (hloads : ∀ r ∈ loads, 0.0 ≤ r.duration) (h : ofNavigation v fcp loads = .ok t) :
    t.IsNonneg ∧ t.totalPageLoadTime = t.loadComplete ∧ t.resources = loads := by
  obtain ⟨secure, -, h⟩ := exists_of_bind h
  obtain ⟨sslTime, hssl, h⟩ := exists_of_ite_bind h
  obtain ⟨loadComplete, hload, h⟩ := exists_of_bind h
  obtain ⟨ttfb, httfb, h⟩ := exists_of_bind h
  obtain ⟨tti, htti, h⟩ := exists_of_bind h
  obtain ⟨dnsTime, hdns, h⟩ := exists_of_bind h
  obtain ⟨content, hcontent, h⟩ := exists_of_bind h
  cases h
  have hsslTime : 0.0 ≤ sslTime := by
    split at hssl
    · exact hv.zero_le_entrySpan hssl
    · cases hssl
      exact zero_le_zero
  have hcomplete := hv.zero_le_entrySpan hload
  exact ⟨⟨hv.zero_le_entrySpan httfb, hfcp, hv.zero_le_entrySpan htti, hv.zero_le_entrySpan hdns, hsslTime, hcomplete,
    hv.zero_le_entrySpan hcontent, hcomplete, hloads⟩, rfl, rfl⟩

/-- Whatever the fields of its entries hold, the timings of a page are made of them, and no time is below zero. The
load of the page takes until it is complete, and without a navigation entry only paint and resources have times. The
sizes of the resources are not below zero either exactly if the page reports none that is minus one or less. -/
theorem ofEntries_nonneg {navigation paint resources : Value} (hnavigation : navigation.IsAbsentOr IsEntry)
    (hpaint : paint.IsListOf IsEntry) (hresources : resources.IsListOf IsLoad) :
    ∃ t, ofEntries navigation paint resources = .ok t ∧ t.IsNonneg ∧ t.totalPageLoadTime = t.loadComplete ∧
      (navigation.isTruthy = false → t = { fcp := t.fcp, resources := t.resources }) ∧
      ((∀ r ∈ t.resources, 0 ≤ r.size ∧ 0 ≤ r.transferSize) ↔
        ∀ entries, resources.walk = .ok entries → ∀ e ∈ entries, e.HasSizes) := by
  obtain ⟨t, ht⟩ := exists_ofEntries hnavigation hpaint hresources
  refine ⟨t, ht, ?_⟩
  obtain ⟨paints, hpaints, hpaint⟩ := walk_of_isListOf hpaint
  obtain ⟨entries, hentries, hentry⟩ := walk_of_isListOf hresources
  unfold ofEntries at ht
  rw [hentries, ok_bind] at ht
  obtain ⟨loads, hloads, ht⟩ := exists_of_bind ht
  rw [hpaints, ok_bind] at ht
  obtain ⟨fcp, hfcp, ht⟩ := exists_of_bind ht
  have hfcp : 0.0 ≤ fcp := zero_le_firstPaint hpaint hfcp
  have hdurations : ∀ r ∈ loads, 0.0 ≤ r.duration := ResourceTiming.zero_le_durations hloads hentry
  have hsizes : (∀ r ∈ loads, 0 ≤ r.size ∧ 0 ≤ r.transferSize) ↔
      ∀ vs, resources.walk = .ok vs → ∀ e ∈ vs, e.HasSizes := by
    rw [ResourceTiming.all_sizes_nonneg_iff hloads]
    exact ⟨fun h _ hvs => Except.ok.inj (hentries.symm.trans hvs) ▸ h, fun h => h entries hentries⟩
  split at ht
  · next htruthy =>
      have hv : navigation.IsEntry := hnavigation.resolve_left (ne_of_eq_of_ne htruthy nofun)
      obtain ⟨hnonneg, htotal, hresources⟩ := isNonneg_of_ofNavigation hv hfcp hdurations ht
      rw [hresources]
      exact ⟨hnonneg, htotal, fun hfalsy => absurd htruthy (ne_of_eq_of_ne hfalsy nofun), hsizes⟩
  · cases ht
    have hzero := zero_le_zero
    exact ⟨⟨hzero, hfcp, hzero, hzero, hzero, hzero, hzero, hzero, hdurations⟩, rfl, fun _ => rfl, hsizes⟩

/-- A script of which a page says how large it is. -/
def script (size : Int) : Value :=
  .record [("name", .text "app.js"), ("startTime", .int 30), ("responseEnd", .int 90), ("decodedBodySize", .int size)]

theorem isOrdinary_int {n : Int} (h : (Float.ofInt n).isFinite = true) : (Value.int n).IsOrdinary := by
  refine ⟨?_, nofun⟩
  rintro ⟨m, hm, hinfinite⟩
  cases hm
  rw [h] at hinfinite
  cases hinfinite

theorem isLoad_script {size : Int} (h : (Float.ofInt size).isFinite = true) : (script size).IsLoad := by
  have htext : (Value.text "app.js").IsOrdinary := ⟨nofun, nofun⟩
  have haddress : (Address.ofText "app.js").toOption.isSome = true := by decide +kernel
  refine ⟨_, rfl, ?_, exists_of_isSome haddress⟩
  simp only [List.map_cons, List.map_nil, List.forall_mem_cons]
  exact ⟨htext, isOrdinary_int rfl, isOrdinary_int rfl, isOrdinary_int h, nofun⟩

theorem isListOf_nil (p : Value → Prop) : (Value.list []).IsListOf p := ⟨[], rfl, nofun⟩

/-- A page that is left before it is loaded has no negative times. -/
theorem ofEntries_nonneg_early :
    ∃ t, ofEntries (.record [("fetchStart", .int 100), ("loadEventEnd", .int 40)]) (.list []) (.list [script 512]) =
      .ok t ∧ t.IsNonneg ∧ t.totalPageLoadTime = t.loadComplete := by
  have hnavigation : (Value.record [("fetchStart", .int 100), ("loadEventEnd", .int 40)]).IsEntry := by
    refine ⟨_, rfl, ?_⟩
    simp only [List.map_cons, List.map_nil, List.forall_mem_cons]
    exact ⟨isOrdinary_int rfl, isOrdinary_int rfl, nofun⟩
  have hresources : (Value.list [script 512]).IsListOf IsLoad :=
    ⟨_, rfl, List.forall_mem_singleton.2 (isLoad_script rfl)⟩
  obtain ⟨t, ht, hnonneg, htotal, -⟩ := ofEntries_nonneg (.inr hnavigation) (isListOf_nil _) hresources
  exact ⟨t, ht, hnonneg, htotal⟩

/-- A page that reports a size below zero is believed. -/
theorem ofEntries_negative_size : (Value.list [script (-5)]).IsListOf IsLoad ∧
    ∃ t, ofEntries .null (.list []) (.list [script (-5)]) = .ok t ∧ t.resources.map (·.size) = [-5] := by
  have hresources : (Value.list [script (-5)]).IsListOf IsLoad :=
    ⟨_, rfl, List.forall_mem_singleton.2 (isLoad_script rfl)⟩
  have hsizes : (ofEntries .null (.list []) (.list [script (-5)])).toOption.map (fun t => t.resources.map (·.size)) =
      some [-5] := by
    decide +kernel
  have hnone : (Value.null).IsAbsentOr IsEntry := .inl rfl
  obtain ⟨t, ht⟩ := exists_ofEntries hnone (isListOf_nil _) hresources
  rw [ht] at hsizes
  exact ⟨hresources, t, ht, Option.some.inj hsizes⟩

end Timings

end SiteTrial
