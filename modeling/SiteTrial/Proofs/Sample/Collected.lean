import Mathlib.Data.List.Induction
import Mathlib.Data.List.Nodup
import Mathlib.Data.List.ProdSigma
import SiteTrial.Sample.Requests

/-!
# A collector is written, then read

Whatever is asked of a collector, and in whatever order, it takes samples until it is closed for the first time, and
hands them out from then on.

* `FirstSeen`, `Dealt` : names in the order in which they are seen first; a list that is dealt out to others;
* `Collector.given` : the samples that are added in time; `Collector.after_eq` : after any requests a collector holds
  just these;
* `Collector.WrittenThenRead`, `Collector.written_then_read` : which requests are granted after others, and what is
  read then.
-/

namespace SiteTrial

/-! ## Names and parts -/

/-- Names in the order in which they are seen first, each of them once. -/
structure FirstSeen (names seen : List String) : Prop where
  nodup : names.Nodup
  mem_iff : ∀ name, name ∈ names ↔ name ∈ seen
  inOrder : names.Pairwise fun a b => seen.idxOf a < seen.idxOf b

/-- A list is dealt out to others from its beginning: each member goes to one of them, behind those that it has. -/
inductive Dealt {α : Type} : List α → List (List α) → Prop
  | nil {parts : List (List α)} (h : ∀ part ∈ parts, part = []) : Dealt [] parts
  | cons {x : α} {l part : List α} {before behind : List (List α)} (h : Dealt l (before ++ part :: behind)) :
      Dealt (x :: l) (before ++ (x :: part) :: behind)

theorem scenariosOf_concat (samples : List Sample) (s : Sample) :
    scenariosOf (samples ++ [s]) = if (scenariosOf samples).contains s.scenario then scenariosOf samples
      else scenariosOf samples ++ [s.scenario] := List.foldl_append

/-- Of two scenarios the one that is listed first has its first sample first. -/
theorem pairwise_scenariosOf (samples : List Sample) :
    (scenariosOf samples).Pairwise fun a b =>
      (samples.map (·.scenario)).idxOf a < (samples.map (·.scenario)).idxOf b := by
  induction samples using List.reverseRecOn with
  | nil => exact .nil
  | append_singleton samples s ih =>
      have hseen : ∀ name ∈ scenariosOf samples, name ∈ samples.map (·.scenario) :=
        fun name hname => List.mem_map.2 (mem_scenariosOf.1 hname)
      rw [scenariosOf_concat, List.map_append]
      -- where a scenario that is listed already was seen first does not depend on what comes later
      have hold : (scenariosOf samples).Pairwise fun a b =>
          (samples.map (·.scenario) ++ [s].map (·.scenario)).idxOf a <
            (samples.map (·.scenario) ++ [s].map (·.scenario)).idxOf b := by
        refine ih.imp_of_mem fun ha hb hlt => ?_
        rwa [List.idxOf_append_of_mem (hseen _ ha), List.idxOf_append_of_mem (hseen _ hb)]
      split
      · exact hold
      · next hnew =>
          refine List.pairwise_append.2 ⟨hold, List.pairwise_singleton .., fun a ha b hb => ?_⟩
          cases List.mem_singleton.1 hb
          have hbehind : s.scenario ∉ samples.map (·.scenario) := fun h =>
            hnew (List.contains_iff_mem.2 (mem_scenariosOf.2 (List.mem_map.1 h)))
          rw [List.idxOf_append_of_mem (hseen a ha), List.idxOf_append_of_notMem hbehind]
          exact Nat.lt_of_lt_of_le (List.idxOf_lt_length_of_mem (hseen a ha)) (Nat.le_add_right ..)

theorem firstSeen_scenariosOf (samples : List Sample) :
    FirstSeen (scenariosOf samples) (samples.map (·.scenario)) where
  nodup := nodup_scenariosOf samples
  mem_iff name := by rw [mem_scenariosOf, List.mem_map]
  inOrder := pairwise_scenariosOf samples

/-- Members that are sorted by a key are dealt out to the keys. -/
theorem Dealt.of_key {α κ : Type} [DecidableEq κ] {keys : List κ} (hkeys : keys.Nodup) (key : α → κ) {l : List α}
    (hmem : ∀ x ∈ l, key x ∈ keys) : Dealt l (keys.map fun k => l.filter fun x => key x = k) := by
  induction l with
  | nil => exact .nil (by simp)
  | cons x l ih =>
      obtain ⟨hx, hl⟩ := List.forall_mem_cons.1 hmem
      have hrest := ih hl
      -- the key of the first member stands at one place only, so that no other part gets the member as well
      obtain ⟨before, behind, rfl⟩ := List.append_of_mem hx
      have hother : ∀ k ∈ before ++ behind,
          ((x :: l).filter fun y => key y = k) = l.filter fun y => key y = k := by
        intro k hk
        refine List.filter_cons_of_neg fun heq => ?_
        rw [List.nodup_middle, List.nodup_cons] at hkeys
        exact hkeys.1 (of_decide_eq_true heq ▸ hk)
      rw [List.map_append, List.map_cons] at hrest ⊢
      rw [List.map_congr_left fun k hk => hother k (List.mem_append_left _ hk),
        List.map_congr_left fun k hk => hother k (List.mem_append_right _ hk),
        List.filter_cons_of_pos (by simp)]
      exact .cons hrest

/-- Samples are dealt out to the pairs of their scenarios and applications. -/
theorem dealt_samplesOf {samples : List Sample} {scenarios applications : List String} (hscenarios : scenarios.Nodup)
    (happlications : applications.Nodup)
    (hmem : ∀ s ∈ samples, s.scenario ∈ scenarios ∧ s.application ∈ applications) :
    Dealt samples ((scenarios ×ˢ applications).map fun p => samplesOf p.2 p.1 samples) := by
  have hkey : ∀ p : String × String,
      (samples.filter fun s => (s.scenario, s.application) = p) = samplesOf p.2 p.1 samples := by
    intro p
    refine List.filter_congr fun s _ => ?_
    rw [← Bool.decide_and, decide_eq_decide, Prod.ext_iff, and_comm]
  have hparts := Dealt.of_key (hscenarios.product happlications) (fun s : Sample => (s.scenario, s.application))
    fun s hs => List.mem_product.2 (hmem s hs)
  rwa [List.map_congr_left fun p _ => hkey p] at hparts

namespace Collector

/-! ## Requests -/

namespace Request

def isClose : Request → Bool
  | .close => true
  | _ => false

/-- The sample that is to be added. -/
def sample? : Request → Option Sample
  | .add s => some s
  | _ => none

/-- What was added is to be handed out. -/
def IsRead : Request → Prop
  | .all | .samplesFor _ _ | .scenarios => True
  | _ => False

theorem isClose_iff {r : Request} : r.isClose = true ↔ r = .close := by
  cases r <;> simp [isClose]

theorem any_isClose_iff {history : List Request} : history.any isClose = true ↔ .close ∈ history := by
  simp only [List.any_eq_true, isClose_iff, exists_eq_right]

end Request

/-- The samples that are added before the collector is closed for the first time. -/
def given (history : List Request) : List Sample :=
  (history.takeWhile fun r => !r.isClose).filterMap Request.sample?

/-- The request comes to an answer after these. -/
def Granted (history : List Request) (r : Request) : Prop := ∃ a, reply history r = .ok a

/-! ## A collector after requests -/

/-- What one request does to a collector that is not closed. -/
theorem next_open (samples : List Sample) (r : Request) :
    next ⟨samples, false⟩ r = ⟨samples ++ r.sample?.toList, r.isClose⟩ := by
  cases r <;> simp [next, respond, add, close, Request.sample?, Request.isClose]

/-- To one that is closed no request does anything. -/
theorem next_closed (samples : List Sample) (r : Request) : next ⟨samples, true⟩ r = ⟨samples, true⟩ := by
  cases r <;> rfl

theorem foldl_next_closed (samples : List Sample) (history : List Request) :
    history.foldl next ⟨samples, true⟩ = ⟨samples, true⟩ := by
  induction history with
  | nil => rfl
  | cons r history ih => rw [List.foldl_cons, next_closed, ih]

theorem foldl_next_open (samples : List Sample) (history : List Request) :
    history.foldl next ⟨samples, false⟩ = ⟨samples ++ given history, history.any Request.isClose⟩ := by
  induction history generalizing samples with
  | nil => rw [given, List.takeWhile_nil, List.filterMap_nil, List.append_nil]; rfl
  | cons r history ih =>
      rw [List.foldl_cons, next_open, given, List.takeWhile_cons, List.any_cons]
      cases hclose : r.isClose with
      | true =>
          rw [foldl_next_closed, Request.isClose_iff.1 hclose]
          simp [Request.sample?]
      | false =>
          rw [ih, given, List.append_assoc]
          cases hsample : r.sample? <;> simp [hsample]

theorem after_eq (history : List Request) : after history = ⟨given history, history.any Request.isClose⟩ :=
  foldl_next_open [] history

theorem after_of_close {history : List Request} (h : .close ∈ history) : after history = ⟨given history, true⟩ := by
  rw [after_eq, Request.any_isClose_iff.2 h]

theorem after_of_not_close {history : List Request} (h : .close ∉ history) :
    after history = ⟨given history, false⟩ := by
  rw [after_eq, Bool.eq_false_iff.2 fun hany => h (Request.any_isClose_iff.1 hany)]

theorem after_append_of_close {history : List Request} (h : .close ∈ history) (later : List Request) :
    after (history ++ later) = after history := by
  rw [after, List.foldl_append, ← after, after_of_close h, foldl_next_closed]

theorem reply_of_close {history : List Request} (h : .close ∈ history) (r : Request) :
    reply history r = (respond ⟨given history, true⟩ r).1 := by rw [reply, after_of_close h]

theorem reply_of_not_close {history : List Request} (h : .close ∉ history) (r : Request) :
    reply history r = (respond ⟨given history, false⟩ r).1 := by rw [reply, after_of_not_close h]

theorem exists_of_read_closed (samples : List Sample) {r : Request} (h : r.IsRead) :
    ∃ a, (respond ⟨samples, true⟩ r).1 = .ok a := by
  cases r with
  | all | samplesFor | scenarios => exact ⟨_, rfl⟩
  | _ => exact h.elim

theorem respond_read_open (samples : List Sample) {r : Request} (h : r.IsRead) :
    (respond ⟨samples, false⟩ r).1 = .error (.collector .readBeforeClose) := by
  cases r with
  | all | samplesFor | scenarios => rfl
  | _ => exact h.elim

/-! ## What is granted and what is read -/

/-- A collector that was asked for these things is written first and read then. -/
structure WrittenThenRead (history : List Request) : Prop where
  /-- A sample is taken exactly if the collector was not closed before, -/
  granted_add_iff : ∀ s, Granted history (.add s) ↔ .close ∉ history
  /-- and one that is refused changes nothing. -/
  of_refused_add : ∀ s f, reply history (.add s) = .error f →
    f = .collector .addAfterClose ∧ after (history ++ [.add s]) = after history
  /-- What was added is handed out exactly if the collector was closed before, -/
  granted_read_iff : ∀ r, r.IsRead → (Granted history r ↔ .close ∈ history)
  of_refused_read : ∀ r f, r.IsRead → reply history r = .error f → f = .collector .readBeforeClose
  /-- while anyone may ask at any time how much it is. -/
  reply_size : reply history .size = .ok (.number (given history).length)
  /-- From the first closing on nothing changes, -/
  after_append_of_close : .close ∈ history → ∀ later, after (history ++ later) = after history
  /-- and the samples that were added before are there, in their order. -/
  reply_all_of_close : .close ∈ history → reply history .all = .ok (.samples (given history))
  /-- Their scenarios are listed as they come first, and they are dealt out to the pairs of these scenarios and
  their applications. -/
  dealt_of_close : .close ∈ history → ∃ (scenarios : List String) (part : String → String → List Sample),
    reply history .scenarios = .ok (.names scenarios) ∧
      (∀ application scenario, reply history (.samplesFor application scenario) =
        .ok (.samples (part application scenario))) ∧
      FirstSeen scenarios ((given history).map (·.scenario)) ∧
      (∀ application scenario, ∀ s ∈ part application scenario,
        s.application = application ∧ s.scenario = scenario) ∧
      ∀ applications : List String, applications.Nodup →
        (∀ application, application ∈ applications ↔ application ∈ (given history).map (·.application)) →
        Dealt (given history) ((scenarios ×ˢ applications).map fun p => part p.2 p.1)

theorem written_then_read (history : List Request) : WrittenThenRead history where
  granted_add_iff s := by
    by_cases h : .close ∈ history
    · exact iff_of_false (fun ⟨_, hok⟩ => nomatch (reply_of_close h _).symm.trans hok) (not_not.2 h)
    · exact iff_of_true ⟨_, reply_of_not_close h _⟩ h
  of_refused_add s f hrefused := by
    by_cases h : .close ∈ history
    · rw [reply_of_close h] at hrefused
      cases hrefused
      exact ⟨rfl, after_append_of_close h _⟩
    · rw [reply_of_not_close h] at hrefused
      cases hrefused
  granted_read_iff r hr := by
    by_cases h : .close ∈ history
    · rw [Granted, reply_of_close h]
      exact iff_of_true (exists_of_read_closed _ hr) h
    · rw [Granted, reply_of_not_close h, respond_read_open _ hr]
      exact iff_of_false nofun h
  of_refused_read r f hr hrefused := by
    by_cases h : .close ∈ history
    · obtain ⟨a, ha⟩ := exists_of_read_closed (given history) hr
      rw [reply_of_close h, ha] at hrefused
      cases hrefused
    · rw [reply_of_not_close h, respond_read_open _ hr] at hrefused
      cases hrefused
      rfl
  reply_size := by rw [reply, after_eq]; rfl
  after_append_of_close := after_append_of_close
  reply_all_of_close h := reply_of_close h .all
  dealt_of_close h := by
    refine ⟨scenariosOf (given history), fun application scenario => samplesOf application scenario (given history),
      reply_of_close h .scenarios, fun application scenario => reply_of_close h (.samplesFor application scenario),
      firstSeen_scenariosOf _, fun application scenario s hs => ?_, fun applications hnodup hmem => ?_⟩
    · simpa [samplesOf] using (List.mem_filter.1 hs).2
    · refine dealt_samplesOf (nodup_scenariosOf _) hnodup fun s hs => ?_
      exact ⟨mem_scenariosOf.2 ⟨s, hs, rfl⟩, (hmem _).2 (List.mem_map_of_mem hs)⟩

end Collector

end SiteTrial
