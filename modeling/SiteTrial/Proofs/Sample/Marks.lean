import SiteTrial.Proofs.Page.Heard
import SiteTrial.Proofs.Sample.Filed
import SiteTrial.Proofs.Sample.Record
import SiteTrial.Proofs.Value.Kind
import SiteTrial.Proofs.Value.Range
import SiteTrial.Sample.Sampling

/-!
# Timing marks beside recorded times

What the recorder holds and what a page keeps under labels meet in the navigation times of a sample. The recorder
comes first, no label is lost, and neither of the two is changed by it.

* `Table.putAllNew` : entries that are set where they are new; `Table.get?_putAllNew` : what is there stays;
* `Value.Keeps` : the timing marks that the state of a page holds; `mergeMarks_eq` : they are read, then set;
* `ApplicationMetrics.Merges`, `Sampling.metrics_merges` : the metrics of a recorder and a page.
-/

namespace SiteTrial

/-! ## Entries that are new -/

namespace Table

variable {β : Type}

theorem isSome_get?_iff {t : Table β} {name : String} : (t.get? name).isSome = true ↔ name ∈ t.keys := by
  induction t with
  | nil => exact iff_of_false nofun nofun
  | cons e t ih =>
      obtain ⟨k, w⟩ := e
      rw [get?_cons, keys, List.map_cons, List.mem_cons]
      by_cases h : name = k
      · rw [if_pos h]
        exact iff_of_true rfl (.inl h)
      · rw [if_neg h]
        exact ih.trans (or_iff_right h).symm

theorem get?_putNew (t : Table β) (a b : String) (v : β) :
    (t.putNew a v).get? b = (t.get? b).or (if b = a then some v else none) := by
  unfold putNew
  by_cases hknown : (t.get? a).isSome = true
  · rw [if_pos hknown]
    split
    · next h =>
        subst h
        exact (Option.or_of_isSome hknown).symm
    · exact Option.or_none.symm
  · rw [if_neg hknown]
    show List.lookup b (t ++ [(a, v)]) = _
    rw [List.lookup_append]
    exact congrArg _ (get?_cons a b v [])

theorem nodup_keys_putNew {t : Table β} (h : t.keys.Nodup) (a : String) (v : β) : (t.putNew a v).keys.Nodup := by
  unfold putNew
  split
  · exact h
  · next hnew =>
      rw [isSome_get?_iff] at hnew
      rw [keys, List.map_append]
      refine h.append (List.nodup_singleton a) fun b hb hb' => ?_
      rw [List.mem_singleton.1 hb'] at hb
      exact hnew hb

/-- Sets entries one after another where they are new. -/
def putAllNew (t entries : Table β) : Table β := entries.foldl (fun t e => t.putNew e.1 e.2) t

theorem get?_putAllNew (t entries : Table β) (name : String) :
    (t.putAllNew entries).get? name = (t.get? name).or (entries.get? name) := by
  induction entries generalizing t with
  | nil => exact Option.or_none.symm
  | cons e entries ih =>
      obtain ⟨a, v⟩ := e
      rw [putAllNew, List.foldl_cons, ← putAllNew, ih, get?_putNew, Option.or_assoc, get?_cons]
      split <;> rfl

theorem mem_keys_putAllNew {t entries : Table β} {name : String} :
    name ∈ (t.putAllNew entries).keys ↔ name ∈ t.keys ∨ name ∈ entries.keys := by
  rw [← isSome_get?_iff, get?_putAllNew, Option.isSome_or, Bool.or_eq_true, isSome_get?_iff, isSome_get?_iff]

theorem nodup_keys_putAllNew {t : Table β} (h : t.keys.Nodup) (entries : Table β) :
    (t.putAllNew entries).keys.Nodup := by
  induction entries generalizing t with
  | nil => exact h
  | cons e entries ih => exact ih (nodup_keys_putNew h e.1 e.2)

end Table

/-! ## What a page keeps -/

namespace Value

/-- The timing marks that the state of a page holds under labels. -/
inductive Keeps (state : Value) : Table Value → Prop
  | stateless (h : state.isTruthy = false) : Keeps state []
  | unmarked {fs : Fields} (hfs : state.fields? = some fs) (h : (fs.get "customTimings").isTruthy = false) :
      Keeps state []
  | marked {fs : Fields} {marks : Table Value} (hfs : state.fields? = some fs)
      (h : fs.get "customTimings" = .record marks) : Keeps state marks

theorem Keeps.exists_fields {state : Value} {marks : Table Value} (h : state.Keeps marks) :
    ∃ fs, (state.orElse (.mapping [])).fields? = some fs ∧
      (fs.get "customTimings").orElse (.mapping []) = record marks := by
  cases h with
  | stateless h =>
      rw [orElse_of_not_isTruthy h]
      exact ⟨[], rfl, rfl⟩
  | unmarked hfs h => exact ⟨_, fields?_orElse hfs, orElse_of_not_isTruthy h _⟩
  | marked hfs h => exact ⟨_, fields?_orElse hfs, by rw [h, record, orElse_mapping]⟩

theorem Keeps.marksOf_eq {state : Value} {marks : Table Value} (h : state.Keeps marks) :
    marksOf state = .ok (marks.map fun e => (.text e.1, e.2)) := by
  obtain ⟨fs, hfs, hmarks⟩ := h.exists_fields
  unfold marksOf
  simp only [member, hfs, ok_bind, hmarks]
  rfl

end Value

/-! ## Merging -/

/-- Timing marks as times, under the keys that they have in a sample. -/
def readMarks (marks : Table Value) : Except Fault (Table Float) :=
  marks.mapM fun e => e.2.toDouble.map fun x => (markKey (.text e.1), x)

/-- Marks are read, all of them, and set where no time is yet. -/
theorem mergeMarks_eq (times : Table Float) (marks : Table Value) :
    mergeMarks times (marks.map fun e => (.text e.1, e.2)) = (readMarks marks).map times.putAllNew := by
  induction marks generalizing times with
  | nil => rfl
  | cons e marks ih =>
      obtain ⟨label, v⟩ := e
      rw [List.map_cons, mergeMarks, readMarks, List.mapM_cons, ← readMarks]
      dsimp only
      -- a value that is refused ends the merging just where it ends the reading
      cases v.toDouble with
      | error f => rfl
      | ok x =>
          rw [ok_bind, ih]
          show _ = (readMarks marks >>= fun entries => .ok ((markKey (.text label), x) :: entries)).map _
          cases readMarks marks <;> rfl

section Read

variable {marks : Table Value} {entries : Table Float}

theorem exists_of_readMarks_cons {label : String} {v : Value} (h : readMarks ((label, v) :: marks) = .ok entries) :
    ∃ x rest, v.toDouble = .ok x ∧ readMarks marks = .ok rest ∧ entries = ("snapshot_" ++ label, x) :: rest := by
  rw [readMarks, List.mapM_cons] at h
  obtain ⟨e, he, h⟩ := exists_of_bind h
  obtain ⟨rest, hrest, h⟩ := exists_of_bind h
  obtain ⟨x, hx, rfl⟩ := exists_of_map he
  cases h
  exact ⟨x, rest, hx, hrest, rfl⟩

theorem keys_of_readMarks (h : readMarks marks = .ok entries) :
    entries.keys = marks.keys.map ("snapshot_" ++ ·) := by
  induction marks generalizing entries with
  | nil =>
      cases h
      rfl
  | cons e marks ih =>
      obtain ⟨x, rest, -, hrest, rfl⟩ := exists_of_readMarks_cons h
      exact congrArg (("snapshot_" ++ e.1) :: ·) (ih hrest)

theorem get?_of_readMarks (h : readMarks marks = .ok entries) {label : String} {v : Value}
    (hv : marks.get? label = some v) :
    ∃ x, v.toDouble = .ok x ∧ entries.get? ("snapshot_" ++ label) = some x := by
  induction marks generalizing entries with
  | nil => cases hv
  | cons e marks ih =>
      obtain ⟨x, rest, hx, hrest, rfl⟩ := exists_of_readMarks_cons h
      rw [Table.get?_cons] at hv ⊢
      by_cases hlabel : label = e.1
      · rw [if_pos hlabel] at hv
        cases hv
        exact ⟨x, hx, if_pos (congrArg _ hlabel)⟩
      · rw [if_neg hlabel] at hv
        -- different labels have different keys
        rw [if_neg fun hkey => hlabel ((String.append_right_inj _).1 hkey)]
        exact ih hrest hv

/-- If no number is too large, all marks are read. -/
theorem exists_readMarks (h : ∀ e ∈ marks, e.2.isNumeric = true) (hsmall : ∀ e ∈ marks, ¬ e.2.IsBeyondDoubles) :
    ∃ entries, readMarks marks = .ok entries := by
  refine exists_mapM_iff.2 fun e he => exists_map_iff.2 ?_
  obtain ⟨x, -, hx⟩ | ⟨hvast, -⟩ := Value.numeric_cases (h e he)
  · exact ⟨x, hx⟩
  · exact absurd hvast (hsmall e he)

/-- If one is, none are. -/
theorem readMarks_of_isBeyondDoubles (h : ∀ e ∈ marks, e.2.isNumeric = true)
    (hvast : ∃ e ∈ marks, e.2.IsBeyondDoubles) : readMarks marks = .error .integerTooLarge := by
  induction marks with
  | nil => simp at hvast
  | cons e marks ih =>
      obtain ⟨he, hmarks⟩ := List.forall_mem_cons.1 h
      rw [readMarks, List.mapM_cons, ← readMarks]
      obtain ⟨x, hnumeric, hx⟩ | ⟨-, hrefused⟩ := Value.numeric_cases he
      · rw [hx]
        obtain hfirst | hrest := (List.exists_mem_cons_iff ..).1 hvast
        · obtain ⟨f, hf⟩ := Value.numeric?_eq_error_iff.2 hfirst
          cases hnumeric.symm.trans hf
        · rw [ih hmarks hrest]
          rfl
      · rw [hrefused]
        rfl

end Read

/-! ## The metrics of a recorder and a page -/

theorem keys_recordedTimes (t : Table Measurement) : (recordedTimes t).keys = t.keys := List.map_map ..

theorem get?_recordedTimes (t : Table Measurement) (key : String) :
    (recordedTimes t).get? key = (t.get? key).map Measurement.milliseconds := by
  induction t with
  | nil => rfl
  | cons e t ih =>
      rw [recordedTimes, List.map_cons, ← recordedTimes, Table.get?_cons, ih, Table.get?_cons]
      split <;> rfl

/-- Times are those that were recorded and, beside them, timing marks. -/
structure MergesTimes (times : Table Float) (recorded : Table Measurement) (marks : Table Value) : Prop where
  nodup_keys : recorded.keys.Nodup → times.keys.Nodup
  mem_keys_iff : ∀ key, key ∈ times.keys ↔ key ∈ recorded.keys ∨ ∃ label ∈ marks.keys, key = "snapshot_" ++ label
  /-- Under a key that was recorded stands what was recorded, -/
  get?_recorded : ∀ key m, recorded.get? key = some m → times.get? key = some m.milliseconds
  /-- and under the key of any other label the double of its number. -/
  get?_marked : ∀ label v, marks.get? label = some v → "snapshot_" ++ label ∉ recorded.keys →
    ∃ x, v.numeric? = .ok (some x) ∧ times.get? ("snapshot_" ++ label) = some x

/-- Metrics are those of a recorder with timing marks among the navigation times. -/
structure ApplicationMetrics.Merges (a : ApplicationMetrics) (r : Recorder) (marks : Table Value) : Prop where
  navigation : ∃ times, a.navigationTimes = timeFields times ∧ MergesTimes times r.navigation marks
  apiResponse : a.apiResponseTimes = timeFields (recordedTimes r.apiResponse)
  formProcessing : a.formProcessingTimes = timeFields (recordedTimes r.formProcessing)

theorem mergesTimes_of_readMarks {recorded : Table Measurement} {marks : Table Value} {entries : Table Float}
    (hnumeric : ∀ e ∈ marks, e.2.isNumeric = true) (h : readMarks marks = .ok entries) :
    MergesTimes ((recordedTimes recorded).putAllNew entries) recorded marks where
  nodup_keys hnodup := Table.nodup_keys_putAllNew (by rwa [keys_recordedTimes]) entries
  mem_keys_iff key := by
    rw [Table.mem_keys_putAllNew, keys_recordedTimes, keys_of_readMarks h, List.mem_map]
    exact or_congr_right (exists_congr fun label => and_congr_right fun _ => eq_comm)
  get?_recorded key m hm := by
    rw [Table.get?_putAllNew, get?_recordedTimes, hm]
    rfl
  get?_marked label v hv hnew := by
    obtain ⟨x, hx, hentry⟩ := get?_of_readMarks h hv
    obtain ⟨before, behind, rfl, -⟩ := List.lookup_eq_some_iff.1 hv
    obtain ⟨y, hy, hdouble⟩ | ⟨-, hrefused⟩ := Value.numeric_cases (hnumeric (label, v) (by simp))
    · cases hdouble.symm.trans hx
      refine ⟨x, hy, ?_⟩
      rw [Table.get?_putAllNew, get?_recordedTimes, Table.get?_eq_none hnew, hentry]
      rfl
    · cases hrefused.symm.trans hx

theorem ApplicationMetrics.ofRecorder_of_keeps {state : Value} {marks : Table Value} (h : state.Keeps marks)
    (r : Recorder) :
    ofRecorder r state = (readMarks marks).map fun entries =>
      { navigationTimes := timeFields ((recordedTimes r.navigation).putAllNew entries)
        apiResponseTimes := timeFields (recordedTimes r.apiResponse)
        formProcessingTimes := timeFields (recordedTimes r.formProcessing) } := by
  rw [ofRecorder, h.marksOf_eq, ok_bind, mergeMarks_eq]
  cases readMarks marks <;> rfl

namespace Sampling

variable {σ : Type} [Page σ] {state : Value}

theorem run_metrics {v : Visit σ} (h : v.reply (.evaluate .readState) = .answer state) (r : Recorder) :
    (metrics r : Browse σ ApplicationMetrics).run.run v =
      ((ApplicationMetrics.ofRecorder r state).mapError .fault, v.called (.evaluate .readState)) := by
  show (Session.ask "performance state" (.evaluate .readState) >>= fun state =>
    Browse.ofFault (ApplicationMetrics.ofRecorder r state)).run.run v = _
  rw [run_bind, Session.run_ask, ← Visit.reply, h]
  show (Browse.ofFault (ApplicationMetrics.ofRecorder r state)).run.run _ = _
  cases ApplicationMetrics.ofRecorder r state <;> rfl

/-- Collecting the metrics leaves the recorder as it is. If a page answers with timing marks that are numbers, the
metrics are those of the recorder with the marks merged in, and the same ones again whenever the same recorder meets
the same marks; only an integer of which no double can be made is refused. -/
theorem metrics_merges {marks : Table Value} (hstate : state.Keeps marks)
    (hnumeric : ∀ e ∈ marks, e.2.isNumeric = true) {v : Visit σ}
    (hreply : v.reply (.evaluate .readState) = .answer state) :
    ((metrics v.recorder).run.run v).2.recorder = v.recorder ∧
    ((∃ e ∈ marks, e.2.IsBeyondDoubles) → ((metrics v.recorder).run.run v).1 = .error (.fault .integerTooLarge)) ∧
    ((∀ e ∈ marks, ¬ e.2.IsBeyondDoubles) → ∃ m w, (metrics v.recorder).run.run v = (.ok m, w) ∧
      m.Merges v.recorder marks ∧
      ∀ u : Visit σ, u.recorder = w.recorder → u.reply (.evaluate .readState) = .answer state →
        ((metrics u.recorder).run.run u).1 = .ok m) := by
  rw [run_metrics hreply, ApplicationMetrics.ofRecorder_of_keeps hstate]
  refine ⟨rfl, fun hvast => ?_, fun hsmall => ?_⟩
  · rw [readMarks_of_isBeyondDoubles hnumeric hvast]
    rfl
  · obtain ⟨entries, hentries⟩ := exists_readMarks hnumeric hsmall
    rw [hentries]
    refine ⟨_, _, rfl, ⟨⟨_, rfl, mergesTimes_of_readMarks hnumeric hentries⟩, rfl, rfl⟩, fun u hu hu' => ?_⟩
    rw [run_metrics hu', ApplicationMetrics.ofRecorder_of_keeps hstate, hentries, hu]
    rfl

/-- A page that keeps timing marks. -/
def keeper (marks : Table Value) : FixedPage where
  reply
    | .evaluate .readState => .answer (.record [("customTimings", .record marks)])
    | _ => .answer .null

theorem keeps_keeper (marks : Table Value) : (Value.record [("customTimings", .record marks)]).Keeps marks :=
  .marked rfl rfl

/-- A label whose key is recorded already, and two others, one with a truth value for a number. -/
theorem metrics_merges_ready :
    let marks : Table Value := [("ready", .int 3), ("form_submitted", .double 500.0), ("again", .bool true)]
    let recorder : Recorder :=
      { navigation := [("dashboard_total_load", .elapsed 64), ("snapshot_ready", .reported 7.5)] }
    let v : Visit FixedPage := { (keeper marks).visit with recorder := recorder }
    (∀ e ∈ marks, e.2.isNumeric = true ∧ ¬ e.2.IsBeyondDoubles) ∧
      ∃ m w, (metrics v.recorder).run.run v = (.ok m, w) ∧ m.Merges v.recorder marks ∧
        (m.navigationTimes.map fun e => e.1.toText) =
          ["dashboard_total_load", "snapshot_ready", "snapshot_form_submitted", "snapshot_again"] := by
  intro marks recorder v
  have hthree : ¬ (Value.int 3).IsBeyondDoubles := by
    rintro ⟨n, hn, hinfinite⟩
    cases hn
    exact absurd hinfinite (by decide +kernel)
  have hnumbers : ∀ e ∈ marks, e.2.isNumeric = true ∧ ¬ e.2.IsBeyondDoubles := by
    simp only [marks, List.forall_mem_cons]
    exact ⟨⟨rfl, hthree⟩, ⟨rfl, nofun⟩, ⟨rfl, nofun⟩, nofun⟩
  obtain ⟨-, -, hmerges⟩ := metrics_merges (keeps_keeper marks) (fun e he => (hnumbers e he).1) (v := v) rfl
  obtain ⟨m, w, hrun, hm, -⟩ := hmerges fun e he => (hnumbers e he).2
  have hkeys : ((metrics v.recorder).run.run v).1.toOption.map (fun m =>
      m.navigationTimes.map fun e => e.1.toText) =
        some ["dashboard_total_load", "snapshot_ready", "snapshot_form_submitted", "snapshot_again"] := by
    decide +kernel
  rw [hrun] at hkeys
  exact ⟨hnumbers, m, w, hrun, hm, Option.some.inj hkeys⟩

/-- A number of which no double can be made costs all metrics. -/
theorem metrics_refuse_vast :
    let marks : Table Value := [("late", .int (10 ^ 400))]
    let v := (keeper marks).visit
    (∃ state, v.reply (.evaluate .readState) = .answer state ∧ state.Keeps marks) ∧
      (∀ e ∈ marks, e.2.isNumeric = true) ∧
      ((metrics v.recorder).run.run v).1 = .error (.fault .integerTooLarge) :=
  ⟨⟨_, rfl, keeps_keeper _⟩, List.forall_mem_singleton.2 rfl, eq_error_of_refusal? (by decide +kernel)⟩

end Sampling

end SiteTrial
