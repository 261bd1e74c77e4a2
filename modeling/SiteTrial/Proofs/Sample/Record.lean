import SiteTrial.Sample.Record
import SiteTrial.Sample.Timing
import SiteTrial.Proofs.Answers
import SiteTrial.Proofs.Value.Number

/-!
# Samples and their records

* `Value.member_record`, `Value.memberD_record` : the entries of a record, by their names;
* `ResourceTiming.IsWhole` : a load with sizes that doubles hold; `Timings.isWhole_of_ofEntries` : every
  load that is measured has such sizes;
* `Sample.IsPlain` : a sample of such loads with texts in its text fields;
* `Sample.ofValue_toValue` : the record of a plain sample is read as that sample.
-/

namespace SiteTrial

namespace Value

theorem find?_record (entries : List (String × Value)) (key : String) :
    Fields.find? (entries.map fun e => (.text e.1, e.2)) (.text key) = entries.lookup key := by
  induction entries with
  | nil => rfl
  | cons e entries ih =>
      have hsame : (Scalar.text e.1).same (.text key) = (key == e.1) := by
        show decide (Scalar.text e.1 = Scalar.text key) = _
        rw [Bool.eq_iff_iff, decide_eq_true_eq, beq_iff_eq, Scalar.text.injEq]
        exact eq_comm
      rw [List.map_cons, Fields.find?, hsame, List.lookup_cons]
      cases hkey : key == e.1
      · exact ih
      · rfl

variable {entries : List (String × Value)} {key : String}

/-- The entry of a record under a name. -/
theorem member_record {v : Value} (h : entries.lookup key = some v) :
    (record entries).member key = .ok v := by
  rw [← find?_record] at h
  exact congrArg (fun found => Except.ok (Option.getD found Value.null)) h

theorem memberD_record {v : Value} (h : entries.lookup key = some v) (other : Value) :
    (record entries).memberD key other = .ok v := by
  rw [← find?_record] at h
  exact congrArg (fun found => Except.ok (Option.getD found other)) h

theorem memberDouble_record {x : Float} (h : entries.lookup key = some (.double x)) :
    (record entries).memberDouble key = .ok x := by
  rw [memberDouble, member_record h]
  rfl

theorem memberText_record {s : String} (h : entries.lookup key = some (.text s)) (other : String) :
    (record entries).memberText key other = .ok s := by
  rw [memberText, memberD_record h]
  rfl

theorem memberCount_record {n : Int} (h : entries.lookup key = some (.int n))
    (hn : IsWholePart n) : (record entries).memberCount key = .ok n := by
  obtain ⟨x, hdouble, hinteger⟩ := hn.exists_double
  have hnumber : (record entries).memberDouble key = .ok x := by
    rw [memberDouble, member_record h]
    show ((doubleOfInt n).map some).map (·.getD 0.0) = _
    rw [hdouble]
    rfl
  rw [memberCount, hnumber]
  exact hinteger

end Value

namespace Vitals

theorem ofValue_toValue (v : Vitals) : ofValue v.toValue = .ok v := by
  unfold ofValue toValue
  rw [Value.memberDouble_record (x := v.lcp) rfl, Value.memberDouble_record (x := v.cls) rfl,
    Value.memberDouble_record (x := v.fid) rfl, Value.memberDouble_record (x := v.inp) rfl]
  rfl

end Vitals

namespace ResourceTiming

/-- A load with sizes that doubles hold, as those of a page have them. -/
def IsWhole (r : ResourceTiming) : Prop := IsWholePart r.size ∧ IsWholePart r.transferSize

theorem isWhole_of_ofEntry {entry : Value} {r : ResourceTiming} (h : ofEntry entry = .ok r) :
    r.IsWhole := by
  obtain ⟨name, -, h⟩ := exists_of_bind h
  obtain ⟨kind, -, h⟩ := exists_of_bind h
  obtain ⟨duration, -, h⟩ := exists_of_bind h
  obtain ⟨x, -, h⟩ := exists_of_bind h
  obtain ⟨size, hsize, h⟩ := exists_of_bind h
  obtain ⟨y, -, h⟩ := exists_of_bind h
  obtain ⟨transferSize, htransfer, h⟩ := exists_of_bind h
  cases h
  exact ⟨⟨x, hsize⟩, ⟨y, htransfer⟩⟩

theorem ofValue_toValue {r : ResourceTiming} (h : r.IsWhole) : ofValue r.toValue = .ok r := by
  unfold ofValue toValue
  rw [Value.memberText_record (s := r.name) rfl, Value.memberText_record (s := r.kind) rfl,
    Value.memberDouble_record (x := r.duration) rfl, Value.memberCount_record rfl h.1,
    Value.memberCount_record rfl h.2]
  rfl

theorem mapM_ofValue {rs : List ResourceTiming} (h : ∀ r ∈ rs, r.IsWhole) :
    (rs.map toValue).mapM ofValue = .ok rs := by
  induction rs with
  | nil => rfl
  | cons r rs ih =>
      rw [List.map_cons, List.mapM_cons, ofValue_toValue (h r (List.mem_cons_self ..)),
        ih fun r hr => h r (List.mem_cons_of_mem _ hr)]
      rfl

end ResourceTiming

namespace Timings

theorem ofValue_toValue {t : Timings} (h : ∀ r ∈ t.resources, r.IsWhole) :
    ofValue t.toValue = .ok t := by
  have hentries : ((Value.list (t.resources.map ResourceTiming.toValue)).orElse (.list [])).walk =
      .ok (t.resources.map ResourceTiming.toValue) := by
    cases t.resources <;> rfl
  unfold ofValue toValue
  rw [Value.memberDouble_record (x := t.ttfb) rfl, Value.memberDouble_record (x := t.fcp) rfl,
    Value.memberDouble_record (x := t.tti) rfl, Value.memberDouble_record (x := t.dnsTime) rfl,
    Value.memberDouble_record (x := t.sslTime) rfl,
    Value.memberDouble_record (x := t.totalPageLoadTime) rfl,
    Value.memberDouble_record (x := t.domContentLoaded) rfl,
    Value.memberDouble_record (x := t.loadComplete) rfl,
    Value.member_record (v := .list (t.resources.map ResourceTiming.toValue)) rfl]
  simp only [ok_bind]
  rw [hentries, ok_bind, ResourceTiming.mapM_ofValue h]
  rfl

theorem resources_of_ofNavigation {navigation : Value} {fcp : Float} {rs : List ResourceTiming}
    {t : Timings} (h : ofNavigation navigation fcp rs = .ok t) : t.resources = rs := by
  obtain ⟨_, -, h⟩ := exists_of_bind h
  dsimp only at h
  split at h
  all_goals
    obtain ⟨_, -, h⟩ := exists_of_bind h
    obtain ⟨_, -, h⟩ := exists_of_bind h
    obtain ⟨_, -, h⟩ := exists_of_bind h
    obtain ⟨_, -, h⟩ := exists_of_bind h
    obtain ⟨_, -, h⟩ := exists_of_bind h
    obtain ⟨_, -, h⟩ := exists_of_bind h
    cases h
    rfl

/-- The timings that are taken of a page have whole sizes in them. -/
theorem isWhole_of_ofEntries {navigation paint resources : Value} {t : Timings}
    (h : ofEntries navigation paint resources = .ok t) : ∀ r ∈ t.resources, r.IsWhole := by
  obtain ⟨entries, -, h⟩ := exists_of_bind h
  obtain ⟨loads, hloads, h⟩ := exists_of_bind h
  obtain ⟨_, -, h⟩ := exists_of_bind h
  obtain ⟨fcp, -, h⟩ := exists_of_bind h
  have hresources : t.resources = loads := by
    split at h
    · exact resources_of_ofNavigation h
    · cases h
      rfl
  intro r hr
  rw [hresources] at hr
  obtain ⟨entry, -, hentry⟩ := exists_of_mem_mapM hloads hr
  exact ResourceTiming.isWhole_of_ofEntry hentry

end Timings

namespace ApplicationMetrics

theorem heading_record {entries : List (String × Value)} {key : String} {f : Fields}
    (h : entries.lookup key = some (.mapping f)) : heading (.record entries) key = .ok f := by
  rw [heading, Value.member_record h]
  cases f <;> rfl

theorem ofValue_toValue (m : ApplicationMetrics) : ofValue m.toValue = .ok m := by
  unfold ofValue toValue
  rw [heading_record (f := m.navigationTimes) rfl, heading_record (f := m.apiResponseTimes) rfl,
    heading_record (f := m.formProcessingTimes) rfl]
  rfl

end ApplicationMetrics

namespace Sample

/-- A sample with texts in its text fields and sizes that doubles hold. -/
structure IsPlain (s : Sample) : Prop where
  agent : ∃ name, s.userAgent = .text name
  sizes : ∀ r ∈ s.timings.resources, r.IsWhole

theorem part_record {entries : List (String × Value)} {key : String} {v : Value}
    (h : entries.lookup key = some v) (hv : v.isTruthy = true) : part (.record entries) key = .ok v := by
  rw [part, Value.member_record h]
  show Except.ok (v.orElse (.mapping [])) = _
  rw [Value.orElse, if_pos hv]

theorem ofValue_toValue {s : Sample} (h : s.IsPlain) : ofValue s.toValue = .ok s := by
  obtain ⟨name, hname⟩ := h.agent
  have hrecord : s = { s with userAgent := .text name } := by rw [← hname]
  unfold ofValue toValue
  rw [part_record (v := s.vitals.toValue) rfl rfl, part_record (v := s.timings.toValue) rfl rfl,
    part_record (v := s.metrics.toValue) rfl rfl, Value.memberText_record (s := s.timestamp) rfl,
    Value.memberText_record (s := s.url) rfl, Value.memberText_record (s := s.environment) rfl,
    Value.memberText_record (s := s.application) rfl, Value.memberText_record (s := s.scenario) rfl,
    Value.memberD_record (v := .int s.iteration) rfl,
    Value.memberText_record (s := name) (by rw [hname]; rfl)]
  simp only [ok_bind]
  rw [Vitals.ofValue_toValue, Timings.ofValue_toValue h.sizes, ApplicationMetrics.ofValue_toValue]
  exact congrArg Except.ok hrecord.symm

end Sample

end SiteTrial
