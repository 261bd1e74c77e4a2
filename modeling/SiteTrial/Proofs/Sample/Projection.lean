import SiteTrial.Proofs.Sample.Record
import SiteTrial.Proofs.Value.Kind
import SiteTrial.Rehearsal.Page
import SiteTrial.Sample.Sampling

/-!
# Reading a record settles it

A record may spell a sample in many ways: parts may be missing, numbers may stand for texts and fractions
for sizes. But what was read of it once is plain, so that its own record is read as the same sample, and
a sample that was measured is plain from the beginning.

* `Sample.isPlain_of_ofValue` : what is read of any record is a plain sample;
* `Sampling.isWhole_of_measure` : what is measured in any page has whole sizes in it;
* `Sample.ofValue_projects` : the record of either is read as the sample that it was made of.
-/

namespace SiteTrial

/-! ## What is read -/

theorem Value.isWholePart_of_memberCount {v : Value} {key : String} {n : Int}
    (h : v.memberCount key = .ok n) : IsWholePart n := by
  obtain ⟨x, -, hx⟩ := exists_of_bind h
  exact ⟨x, hx⟩

theorem ResourceTiming.isWhole_of_ofValue {v : Value} {r : ResourceTiming} (h : ofValue v = .ok r) :
    r.IsWhole := by
  obtain ⟨name, -, h⟩ := exists_of_bind h
  obtain ⟨kind, -, h⟩ := exists_of_bind h
  obtain ⟨duration, -, h⟩ := exists_of_bind h
  obtain ⟨size, hsize, h⟩ := exists_of_bind h
  obtain ⟨transferSize, htransfer, h⟩ := exists_of_bind h
  cases h
  exact ⟨Value.isWholePart_of_memberCount hsize, Value.isWholePart_of_memberCount htransfer⟩

/-- The loads that are read of a record have whole sizes. -/
theorem Timings.isWhole_of_ofValue {v : Value} {t : Timings} (h : ofValue v = .ok t) :
    ∀ r ∈ t.resources, r.IsWhole := by
  -- the eight numbers in front of the loads
  iterate 8 obtain ⟨_, -, h⟩ := exists_of_bind h
  obtain ⟨part, -, h⟩ := exists_of_bind h
  obtain ⟨entries, -, h⟩ := exists_of_bind h
  obtain ⟨loads, hloads, h⟩ := exists_of_bind h
  cases h
  intro r hr
  obtain ⟨entry, -, hentry⟩ := exists_of_mem_mapM hloads hr
  exact ResourceTiming.isWhole_of_ofValue hentry

/-- What is read of a record is a plain sample, whatever the record is. -/
theorem Sample.isPlain_of_ofValue {v : Value} {s : Sample} (h : ofValue v = .ok s) : s.IsPlain := by
  -- the three parts, the five texts, and the iteration
  iterate 3 obtain ⟨_, -, h⟩ := exists_of_bind h
  iterate 5 obtain ⟨_, -, h⟩ := exists_of_bind h
  iterate 2 obtain ⟨_, -, h⟩ := exists_of_bind h
  obtain ⟨vitals, -, h⟩ := exists_of_bind h
  obtain ⟨timings, htimings, h⟩ := exists_of_bind h
  obtain ⟨metrics, -, h⟩ := exists_of_bind h
  obtain ⟨userAgent, -, h⟩ := exists_of_bind h
  cases h
  exact ⟨⟨userAgent, rfl⟩, Timings.isWhole_of_ofValue htimings⟩

/-! ## What is measured -/

namespace Browse

variable {σ α β γ : Type} {v v' : Visit σ}

theorem eq_of_run_of {r : Except Failure α} {a : α} (h : (of r).run.run v = (.ok a, v')) :
    r = .ok a := by
  cases r with
  | ok b =>
      cases h
      rfl
  | error e => cases h

theorem eq_of_run_ofFault {r : Except Fault α} {a : α} (h : (ofFault r).run.run v = (.ok a, v')) :
    r = .ok a := by
  have hanswer := eq_of_run_of h
  cases r with
  | ok b =>
      cases hanswer
      rfl
  | error e => cases hanswer

theorem exists_of_run_attempt {b : Browse σ α} {r : Except Failure α}
    (h : b.attempt.run.run v = (.ok r, v')) : b.run.run v = (r, v') := by
  rcases hb : b.run.run v with ⟨r', t⟩
  change ((Except.ok (b.run.run v).1 : Except Failure (Except Failure α)), (b.run.run v).2) = _ at h
  rw [hb] at h
  cases h
  rfl

end Browse

namespace Sampling

variable {σ : Type} {v v' : Visit σ}

/-- Three computations come to an answer only if each of them does. -/
theorem exists_of_run_allThree {α β γ : Type} {a : Browse σ α} {b : Browse σ β} {c : Browse σ γ}
    {x : α} {y : β} {z : γ} (h : (allThree a b c).run.run v = (.ok (x, y, z), v')) :
    ∃ w w', a.run.run v = (.ok x, w) ∧ b.run.run w = (.ok y, w') ∧ c.run.run w' = (.ok z, v') := by
  obtain ⟨first, w, hfirst, h⟩ := exists_of_run_bind h
  obtain ⟨second, w', hsecond, h⟩ := exists_of_run_bind h
  obtain ⟨third, w'', hthird, h⟩ := exists_of_run_bind h
  -- nothing is asked any more: the answers are looked at
  obtain ⟨_, _, hx, h⟩ := exists_of_run_bind h
  cases Browse.eq_of_run_of hx
  cases hx
  obtain ⟨_, _, hy, h⟩ := exists_of_run_bind h
  cases Browse.eq_of_run_of hy
  cases hy
  obtain ⟨_, _, hz, h⟩ := exists_of_run_bind h
  cases Browse.eq_of_run_of hz
  cases hz
  cases h
  exact ⟨w, w', Browse.exists_of_run_attempt hfirst, Browse.exists_of_run_attempt hsecond,
    Browse.exists_of_run_attempt hthird⟩

variable [Page σ]

theorem isWhole_of_timings {t : Timings} (h : (timings : Browse σ Timings).run.run v = (.ok t, v')) :
    ∀ r ∈ t.resources, r.IsWhole := by
  obtain ⟨raw, _, -, h⟩ := exists_of_run_bind h
  obtain ⟨navigation, _, -, h⟩ := exists_of_run_bind h
  -- with or without the notice that there is no navigation entry
  have hrest : ∃ w w', (Browse.ofFault (raw.orElse (.mapping []) |>.member "paint") >>= fun paint =>
      Browse.ofFault ((raw.orElse (.mapping [])).member "resources") >>= fun resources =>
        Browse.ofFault (Timings.ofEntries navigation (paint.orElse (.list []))
          (resources.orElse (.list []))) : Browse σ Timings).run.run w = (.ok t, w') := by
    dsimp only at h
    split at h
    · obtain ⟨_, w, -, h⟩ := exists_of_run_bind h
      obtain ⟨_, w, -, h⟩ := exists_of_run_bind h
      exact ⟨w, v', h⟩
    · exact ⟨_, v', h⟩
  obtain ⟨w, w', hrest⟩ := hrest
  obtain ⟨paint, _, -, hrest⟩ := exists_of_run_bind hrest
  obtain ⟨resources, _, -, hrest⟩ := exists_of_run_bind hrest
  exact Timings.isWhole_of_ofEntries (Browse.eq_of_run_ofFault hrest)

/-- What is measured in any page, whatever was recorded before, has whole sizes in it. -/
theorem isWhole_of_measure {settle : Int} {url : String} {r : Recorder} {m : Measured}
    (h : (measure settle url r).run.run v = (.ok m, v')) : ∀ l ∈ m.timings.resources, l.IsWhole := by
  obtain ⟨_, _, -, h⟩ := exists_of_run_bind h
  obtain ⟨userAgent, _, -, h⟩ := exists_of_run_bind h
  obtain ⟨⟨vitals, timings, metrics⟩, _, hparts, h⟩ := exists_of_run_bind h
  cases h
  obtain ⟨w, w', -, htimings, -⟩ := exists_of_run_allThree hparts
  exact isWhole_of_timings htimings

end Sampling

/-! ## Records of samples -/

/-- Reading records is a projection: a sample that was read of a record, however that spelled it, is read
again of its own record. And nothing is lost where a sample is made a record that was measured in a page,
if the page's name for its browser is a text. -/
theorem Sample.ofValue_projects :
    (∀ (v : Value) (s : Sample), ofValue v = .ok s → ofValue s.toValue = .ok s) ∧
      ∀ {σ : Type} [Page σ] (settle : Int) (url : String) (r : Recorder) (before after : Visit σ)
        (m : Measured) (o : Origin), (Sampling.measure settle url r).run.run before = (.ok m, after) →
        (∃ name, m.userAgent = .text name) → ofValue (m.sample o).toValue = .ok (m.sample o) := by
  constructor
  · intro v s h
    exact ofValue_toValue (isPlain_of_ofValue h)
  · intro σ _ settle url r before after m o hmeasure hagent
    exact ofValue_toValue ⟨hagent, Sampling.isWhole_of_measure hmeasure⟩

namespace Sample

/-- A record with a text for its iteration, a list for its vitals, a truth value for a time, sizes that
are no sizes of doubles, and a list of keys and times. -/
def oddRecord : Value :=
  .record [("iteration", .text " 7 "), ("url", .null), ("coreWebVitals", .list []),
    ("performanceMetrics", .record [("ttfb", .bool true), ("resourceLoadTimes", .list [.record
      [("name", .double 1.5), ("size", .double 12.75), ("transferSize", .int 9007199254740993)]])]),
    ("applicationMetrics", .record [("navigationTimes", .list [.list [.text "login", .int 3]])])]

/-- A page with one resource. -/
def smallPage : Visit ScriptedPage where
  page :=
    { userAgent := .text "Browser/1.0"
      timing := [.record [("resources", .list [.record
        [("name", .text "app.js"), ("decodedBodySize", .double 2048.5)]])]] }
  draws := .cycle []
  date := "2024-05-01T10:00:00"

/-- The odd record is read as a sample that is read again, and so is what the small page measures. -/
theorem ofValue_projects_odd :
    (∃ s, ofValue oddRecord = .ok s ∧ s.url = "None" ∧ s.iteration = 7 ∧
      s.timings.resources.map (fun l => (l.name, l.size, l.transferSize)) =
        [("1.5", 12, 9007199254740992)] ∧ ofValue s.toValue = .ok s) ∧
      ∃ m after, (Sampling.measure 1000 "about:blank" {}).run.run smallPage = (.ok m, after) ∧
        m.timings.resources.map (fun l => (l.name, l.kind, l.size)) = [("app.js", "script", 2048)] ∧
        ofValue (m.sample ⟨"pre", "App", "login", 1⟩).toValue =
          .ok (m.sample ⟨"pre", "App", "login", 1⟩) := by
  obtain ⟨hread, hmeasured⟩ := ofValue_projects
  constructor
  · have hodd : (ofValue oddRecord).toOption.map (fun s =>
        (s.url, s.iteration, s.timings.resources.map fun l => (l.name, l.size, l.transferSize))) =
        some ("None", 7, [("1.5", 12, 9007199254740992)]) := by decide +kernel
    cases hs : ofValue oddRecord with
    | error f =>
        rw [hs] at hodd
        cases hodd
    | ok s =>
        rw [hs] at hodd
        have hparts := Option.some.inj hodd
        simp only [Prod.mk.injEq] at hparts
        exact ⟨s, rfl, hparts.1, hparts.2.1, hparts.2.2, hread _ s hs⟩
  · have hsmall : ((Sampling.measure 1000 "about:blank" {}).run.run smallPage).1.toOption.map (fun m =>
        (m.userAgent.text?, m.timings.resources.map fun l => (l.name, l.kind, l.size))) =
        some (some "Browser/1.0", [("app.js", "script", 2048)]) := by decide +kernel
    rcases hm : (Sampling.measure 1000 "about:blank" {}).run.run smallPage with ⟨r, after⟩
    rw [hm] at hsmall
    cases r with
    | error f => cases hsmall
    | ok m =>
        have hparts := Option.some.inj hsmall
        simp only [Prod.mk.injEq] at hparts
        exact ⟨m, after, rfl, hparts.2, hmeasured 1000 _ {} smallPage after m _ hm
          ⟨_, Value.eq_text_of_text? hparts.1⟩⟩

end Sample

end SiteTrial
