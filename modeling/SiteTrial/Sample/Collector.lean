import SiteTrial.Sample.Record
import SiteTrial.Table
/-!
# The collector

Workers add samples to one collector; it is read when it is closed, after the last worker.

* `Collector.add`, `Collector.close` : writing;
* `Collector.all`, `Collector.samplesFor`, `Collector.scenarios` : reading;
* `scenariosOf`, `groupByScenario` : the scenarios of samples in the order of their first sample.
-/

namespace SiteTrial

def scenariosOf (samples : List Sample) : List String :=
  samples.foldl (fun seen s => if seen.contains s.scenario then seen else seen ++ [s.scenario]) []

/-- A scenario behind those that were seen, unless it was seen. -/
private theorem mem_seen (seen : List String) (s : Sample) (name : String) :
    name ∈ (if seen.contains s.scenario then seen else seen ++ [s.scenario]) ↔
      name ∈ seen ∨ name = s.scenario := by
  split
  · next h =>
      have hmem : s.scenario ∈ seen := List.contains_iff_mem.1 h
      exact ⟨.inl, fun h => h.elim id fun h => h ▸ hmem⟩
  · rw [List.mem_append, List.mem_singleton]

/-- The scenarios of samples are those that some sample bears. -/
theorem mem_scenariosOf {samples : List Sample} {name : String} :
    name ∈ scenariosOf samples ↔ ∃ s ∈ samples, s.scenario = name := by
  suffices h : ∀ (samples : List Sample) (seen : List String),
      name ∈ samples.foldl (fun seen s =>
        if seen.contains s.scenario then seen else seen ++ [s.scenario]) seen ↔
      name ∈ seen ∨ ∃ s ∈ samples, s.scenario = name by
    rw [scenariosOf, h]
    simp
  intro samples
  induction samples with
  | nil => simp
  | cons s samples ih =>
      intro seen
      rw [List.foldl_cons, ih, mem_seen, or_assoc, eq_comm (a := name)]
      simp only [List.mem_cons, exists_eq_or_imp]

/-- No scenario is listed twice. -/
theorem nodup_scenariosOf (samples : List Sample) : (scenariosOf samples).Nodup := by
  suffices h : ∀ (samples : List Sample) (seen : List String), seen.Nodup →
      (samples.foldl (fun seen s =>
        if seen.contains s.scenario then seen else seen ++ [s.scenario]) seen).Nodup from
    h samples [] List.nodup_nil
  intro samples
  induction samples with
  | nil => exact fun _ h => h
  | cons s samples ih =>
      intro seen h
      refine ih _ ?_
      dsimp only
      split
      · exact h
      · next hnew =>
          rw [List.contains_iff_mem] at hnew
          rw [List.nodup_append]
          refine ⟨h, by simp, ?_⟩
          rintro a ha b hb rfl
          exact hnew (List.mem_singleton.1 hb ▸ ha)

def samplesOf (application scenario : String) (samples : List Sample) : List Sample :=
  samples.filter fun s => s.application = application && s.scenario = scenario

/-- The samples by scenario, each in their order. -/
def groupByScenario (samples : List Sample) : Table (List Sample) :=
  (scenariosOf samples).map fun name => (name, samples.filter (·.scenario = name))

/-- The samples of all workers. -/
structure Collector where
  /-- The samples in the order in which they were added. -/
  samples : List Sample := []
  closed : Bool := false

namespace Collector

/-- Adds a sample to a collector that is not closed. -/
def add (c : Collector) (s : Sample) : Except Failure Collector :=
  if c.closed then .error (.collector .addAfterClose)
  else .ok { c with samples := c.samples ++ [s] }

/-- Ends the adding. -/
def close (c : Collector) : Collector := { c with closed := true }

/-- How many samples were added. -/
def size (c : Collector) : Nat := c.samples.length

/-- The samples of a closed collector. -/
def all (c : Collector) : Except Failure (List Sample) :=
  if c.closed then .ok c.samples else .error (.collector .readBeforeClose)

def samplesFor (c : Collector) (application scenario : String) : Except Failure (List Sample) :=
  c.all.map (samplesOf application scenario)

/-- The scenarios in the order of their first sample. -/
def scenarios (c : Collector) : Except Failure (List String) := c.all.map scenariosOf

end Collector

end SiteTrial
