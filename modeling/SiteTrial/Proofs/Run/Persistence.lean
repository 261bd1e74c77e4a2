import SiteTrial.Proofs.Files.Append
import SiteTrial.Proofs.Json.Tokens
import SiteTrial.Proofs.Run.Rehearsed
import SiteTrial.Proofs.Run.Shared
import SiteTrial.Proofs.Sample.File

/-!
# The sample file and the collector

Every sample goes into the collector and, where the run has a sample file, onto the end of that file,
and nothing else a worker does touches either. So a file that was new holds what the collector has,
behind every schedule and whatever fails.

* `Plan.holds_foldl`, `Plan.read?_foldl` : what a file holds behind some samples;
* `Run.samples_read_back` : what is read of the file is what was collected.
-/

namespace SiteTrial

namespace Plan

variable {p : Plan} {path : String} {fs : Files}

theorem apply_keep (hpath : p.samplesPath = some path) (s : Sample) :
    fs.apply (p.keep s) = fs.apply (Filing.append path s.line) := by
  rw [keep, hpath]
  rfl

/-- More samples in a file that has a text. -/
theorem holds_foldl (hpath : p.samplesPath = some path) {text : String} (h : fs.Holds path text)
    (ss : List Sample) :
    (ss.foldl (fun fs s => (fs.apply (p.keep s)).2) fs).Holds path
      (text ++ String.join (ss.map Sample.line)) := by
  induction ss generalizing fs text with
  | nil =>
      rw [List.map_nil, String.join_nil, String.append_empty]
      exact h
  | cons s ss ih =>
      obtain ⟨fs', happend, hholds⟩ := h.append s.line
      rw [List.foldl_cons, apply_keep hpath, happend, List.map_cons, String.join_cons,
        ← String.append_assoc]
      exact ih hholds

/-- Samples in a file that was new; without any there is no such file. -/
theorem read?_foldl (hpath : p.samplesPath = some path) (h : fs.IsNew path) (ss : List Sample) :
    (ss.foldl (fun fs s => (fs.apply (p.keep s)).2) fs).read? path =
      if ss = [] then none else some (String.join (ss.map Sample.line)) := by
  cases ss with
  | nil => exact h.unread
  | cons s ss =>
      obtain ⟨fs', happend, hholds⟩ := h.append s.line
      rw [List.foldl_cons, apply_keep hpath, happend, (holds_foldl hpath hholds ss).read?,
        List.map_cons, String.join_cons]
      rfl

end Plan

namespace Rehearsed

/-- Every sample of a run with a metronome is its one measurement. -/
theorem sample_metronome {p : Plan} {permits : Nat} {files : Files} {m : Metronome}
    {schedule : List Nat} {s : Sample}
    (h : s ∈ ((Run.start p permits files m).log p schedule).samples) :
    s = measured.sample s.origin := by
  obtain ⟨⟨n, e⟩, he, hs⟩ := List.mem_filterMap.1 h
  match e, hs with
  | .ran o (.ok _), hs =>
      obtain ⟨_, _, _, hmeasured⟩ := Run.isAnswer_log p _ schedule _ he
      cases hmeasured
      cases hs
      rfl

/-- The origins of the samples of the small run. -/
def origins : List Origin :=
  [⟨"pre", "Baseline Application", "login", 1⟩, ⟨"pre", "Candidate Application", "login", 1⟩]

set_option maxRecDepth 4000 in
theorem isKept_measured : ∀ o ∈ origins, (measured.sample o).IsKept := by
  intro o ho
  refine ⟨⟨⟨_, rfl⟩, fun _ h => absurd h List.not_mem_nil⟩, ?_⟩
  rcases List.mem_pair.1 ho with rfl | rfl
  all_goals
    refine Json.read_line (by decide +kernel) ?_
    simp only [measured, Measured.sample, Sample.toValue, Vitals.toValue, Timings.toValue,
      ApplicationMetrics.toValue, Value.record, List.map, Json.line, Json.lineItems, Json.lineFields,
      Json.keyText, Json.bare, Json.scalarText, Scalar.toText, Json.textChars, String.toList_append,
      String.toList_intercalate, String.toList_ofList]
    decide +kernel

end Rehearsed

namespace Run

variable {η : Type} [Host η] {p : Plan} {path : String} {permits : Nat} {files : Files} {host : η}
  {schedule : List Nat}

/-- What is read of a sample file that was new is what was collected, in the same order, and nothing is
to be said about any line of it. -/
theorem samples_read_back (hpath : p.samplesPath = some path) (hnew : files.IsNew path)
    (hkept : ∀ s ∈ ((start p permits files host).follow p schedule).shared.collector.samples,
      s.IsKept) :
    ∃ samples,
      ((start p permits files host).follow p schedule).shared.collector.close.all = .ok samples ∧
      (readSamples ((start p permits files host).follow p schedule).shared.files path).outcome =
        (.ok samples, []) := by
  have hgathered := gathered p permits files host schedule
  rw [hgathered.collector] at hkept ⊢
  refine ⟨_, rfl, ?_⟩
  have hfile := Plan.read?_foldl hpath hnew ((start p permits files host).log p schedule).samples
  rw [← hgathered.files] at hfile
  split at hfile
  · next hnone =>
      rw [readSamples, hfile, hnone]
      rfl
  · exact outcome_readSamples hkept hfile

open Rehearsed (Metronome plan inTurn origins) in
/-- The two samples of a small run, one of each application, are read back. -/
theorem samples_read_back_rehearsed :
    ∃ samples,
      ((start (plan 1 (some "samples.jsonl")) 2 {} (⟨0⟩ : Metronome)).follow
        (plan 1 (some "samples.jsonl")) (inTurn 6)).shared.collector.close.all = .ok samples ∧
      samples.map Sample.origin = origins ∧
      (readSamples ((start (plan 1 (some "samples.jsonl")) 2 {} (⟨0⟩ : Metronome)).follow
        (plan 1 (some "samples.jsonl")) (inTurn 6)).shared.files "samples.jsonl").outcome =
        (.ok samples, []) := by
  have hgathered := gathered (plan 1 (some "samples.jsonl")) 2 {} (⟨0⟩ : Metronome) (inTurn 6)
  have horigins : ((start (plan 1 (some "samples.jsonl")) 2 {} (⟨0⟩ : Metronome)).follow
      (plan 1 (some "samples.jsonl")) (inTurn 6)).shared.collector.samples.map Sample.origin =
        origins := by
    decide +kernel
  obtain ⟨samples, hsamples, hread⟩ := @samples_read_back _ _ (plan 1 (some "samples.jsonl"))
    "samples.jsonl" 2 {} (⟨0⟩ : Metronome) (inTurn 6) rfl
    { unread := rfl, opens := ⟨_, _, rfl, rfl⟩ } fun s hs => by
      have horigin : s.origin ∈ origins := horigins ▸ List.mem_map_of_mem hs
      rw [hgathered.collector] at hs
      rw [Rehearsed.sample_metronome hs]
      exact Rehearsed.isKept_measured _ horigin
  refine ⟨samples, hsamples, ?_, hread⟩
  cases hsamples
  exact horigins

end Run

end SiteTrial
