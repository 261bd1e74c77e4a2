import SiteTrial.Proofs.Run.Log
import SiteTrial.Proofs.Run.Rehearsed
import SiteTrial.Proofs.Run.Whole

/-!
# Permits

A permit is with a worker or free, whatever the workers come to and in whatever order they act. Workers
that have a session hold a permit, so there are never more sessions than permits.

* `Run.holding`, `Run.inSession` : how many workers hold a permit, and how many have a session;
* `Worker.Acts.permits_eq`, `Worker.Acts.sessions_eq`, `Worker.Acts.inUse_eq`, `Worker.Acts.peak_le` : what
  one action does to them, and to what the workers share;
* `Run.Balanced`, `Run.balanced` : the balance of permits and sessions behind every schedule;
* `Run.Balanced.permits_of_isOver`, `Run.Balanced.exists_canAct` : what follows from it at the end of a run
  and before it;
* `Run.KeepsLimit`, `Run.keepsLimit` : sessions stay within the limit, and every permit comes back;
* `peak_compareSites_le` : a whole run.
-/

namespace SiteTrial

namespace Event

/-- A session was opened. -/
def isOpened : Event → Bool
  | .opened (.ok _) => true
  | _ => false

/-- A session was closed, or could not be. -/
def isClosed : Event → Bool
  | .closed _ => true
  | _ => false

end Event

theorem Phase.holdsPermit_of_hasSession {ph : Phase} (h : ph.hasSession = true) :
    ph.holdsPermit = true := by
  cases ph with
  | iterating | resting | closing => rfl
  | _ => cases h

theorem Phase.holdsPermit_of_isOver {ph : Phase} (h : ph.isOver = true) : ph.holdsPermit = false := by
  cases ph with
  | finished | broken => rfl
  | _ => cases h

/-! ## One action -/

namespace Plan

variable {p : Plan}

theorem holdsPermit_beginning (scenario : Scenario) (session : Nat) :
    (p.beginning scenario session).holdsPermit = true := by
  unfold beginning
  split <;> rfl

theorem hasSession_beginning (scenario : Scenario) (session : Nat) :
    (p.beginning scenario session).hasSession = true := by
  unfold beginning
  split <;> rfl

theorem hasSession_following (scenario : Scenario) (session iteration failed : Nat) (pausing : Bool) :
    (p.following scenario session iteration failed pausing).hasSession = true := by
  unfold following
  split
  · split <;> rfl
  · rfl

theorem holdsPermit_following (scenario : Scenario) (session iteration failed : Nat) (pausing : Bool) :
    (p.following scenario session iteration failed pausing).holdsPermit = true :=
  Phase.holdsPermit_of_hasSession (hasSession_following ..)

/-- Who has a sample filed takes no permit for it, and no session. -/
theorem shared_of_gather {η : Type} {s s' : Shared η} {sample : Sample} {r : Except Failure Unit}
    (h : p.gather s sample = (r, s')) :
    s'.permits = s.permits ∧ s'.inUse = s.inUse ∧ s'.peak = s.peak := by
  unfold gather at h
  split at h
  · cases h
    exact ⟨rfl, rfl, rfl⟩
  · cases h
    exact ⟨rfl, rfl, rfl⟩

end Plan

namespace Worker

variable {η : Type} [Host η] {p : Plan} {w : Worker} {s s' : Shared η} {es : List Event} {ph : Phase}

/-- A permit that a worker takes is one less that is free, and one that it gives back is one more. -/
theorem Acts.permits_eq (h : w.Acts p s es ph s') :
    ph.holdsPermit.toNat + s'.permits = w.phase.holdsPermit.toNat + s.permits := by
  cases h with
  | admitted hphase hfree =>
      rw [hphase]
      show 1 + (s.permits - 1) = 0 + s.permits
      omega
  | opened hphase ht hout =>
      rw [hphase, Plan.holdsPermit_beginning]
      rfl
  | sampled hphase ht hout hfiled =>
      rw [hphase, Plan.holdsPermit_following, (Plan.shared_of_gather hfiled).1]
      rfl
  | misfiled hphase ht hout hfiled =>
      rw [hphase, (Plan.shared_of_gather hfiled).1]
      rfl
  | failed hphase ht hout hown =>
      rw [hphase, Plan.holdsPermit_following]
      rfl
  | unopened hphase | openingBroke hphase | closed hphase | ended hphase | unclosed hphase
  | closingBroke hphase =>
      rw [hphase]
      show 0 + (s.permits + 1) = 1 + s.permits
      omega
  | found hphase | refused hphase | astray hphase | runBroke hphase | paused hphase | unpaused hphase
  | pauseBroke hphase =>
      rw [hphase]
      rfl

/-- The sessions of a worker are those that it has opened and has not closed. -/
theorem Acts.sessions_eq (h : w.Acts p s es ph s') :
    ph.hasSession.toNat + es.countP Event.isClosed =
      w.phase.hasSession.toNat + es.countP Event.isOpened := by
  cases h with
  | opened hphase =>
      rw [hphase, Plan.hasSession_beginning]
      rfl
  | sampled hphase | failed hphase =>
      rw [hphase, Plan.hasSession_following]
      rfl
  | found hphase | refused hphase | astray hphase | admitted hphase | unopened hphase
  | openingBroke hphase | misfiled hphase | runBroke hphase | paused hphase | unpaused hphase
  | pauseBroke hphase | closed hphase | ended hphase | unclosed hphase | closingBroke hphase =>
      rw [hphase]
      rfl

/-- A worker that has a session is one of those that are counted. -/
theorem Acts.inUse_eq (h : w.Acts p s es ph s') (hcounted : w.phase.hasSession.toNat ≤ s.inUse) :
    s'.inUse + w.phase.hasSession.toNat = s.inUse + ph.hasSession.toNat := by
  cases h with
  | opened hphase =>
      rw [hphase, Plan.hasSession_beginning]
      rfl
  | sampled hphase ht hout hfiled =>
      rw [hphase, Plan.hasSession_following, (Plan.shared_of_gather hfiled).2.1]
      rfl
  | misfiled hphase ht hout hfiled =>
      rw [hphase, (Plan.shared_of_gather hfiled).2.1]
      rfl
  | failed hphase =>
      rw [hphase, Plan.hasSession_following]
      rfl
  | closed hphase | ended hphase | unclosed hphase | closingBroke hphase =>
      rw [hphase] at hcounted ⊢
      exact Nat.sub_add_cancel hcounted
  | found hphase | refused hphase | astray hphase | admitted hphase | unopened hphase
  | openingBroke hphase | runBroke hphase | paused hphase | unpaused hphase | pauseBroke hphase =>
      rw [hphase]
      rfl

/-- The peak is never above what it was before, or what is open now. -/
theorem Acts.peak_le (h : w.Acts p s es ph s') : s'.peak ≤ max s.peak s'.inUse := by
  cases h with
  | opened => exact Nat.le_refl _
  | sampled hphase ht hout hfiled | misfiled hphase ht hout hfiled =>
      rw [(Plan.shared_of_gather hfiled).2.2]
      exact Nat.le_max_left ..
  | _ => exact Nat.le_max_left ..

/-- Whoever asks something of the host holds a permit. -/
theorem Acts.holdsPermit_of_ne_nil (h : w.Acts p s es ph s') (hes : es ≠ []) :
    w.phase.holdsPermit = true := by
  cases h with
  | found | refused | astray | admitted => exact absurd rfl hes
  | opened hphase | unopened hphase | openingBroke hphase | sampled hphase | misfiled hphase
  | failed hphase | runBroke hphase | paused hphase | unpaused hphase | pauseBroke hphase
  | closed hphase | ended hphase | unclosed hphase | closingBroke hphase =>
      rw [hphase]
      rfl

/-- What the worker has opened it has closed again, or it is the session that the worker has. -/
def OwnsSession (w : Worker) (es : List Event) : Prop :=
  w.phase.hasSession.toNat + es.countP Event.isClosed = es.countP Event.isOpened

end Worker

/-! ## All workers -/

namespace Run

variable {η : Type}

/-- How many workers hold a permit. -/
def holding (r : Run η) : Nat := r.workers.countP fun w => w.phase.holdsPermit

/-- How many workers have a session. -/
def inSession (r : Run η) : Nat := r.workers.countP fun w => w.phase.hasSession

theorem inSession_le_holding (r : Run η) : r.inSession ≤ r.holding :=
  List.countP_mono_left fun _ _ => Phase.holdsPermit_of_hasSession

theorem countP_set_add {workers : List Worker} {n : Nat} {w v : Worker} (q : Worker → Bool)
    (hw : workers[n]? = some w) :
    (workers.set n v).countP q + (q w).toNat = workers.countP q + (q v).toNat := by
  obtain ⟨hlt, rfl⟩ := List.getElem?_eq_some_iff.1 hw
  have hcounted : (q workers[n]).toNat ≤ workers.countP q := by
    cases hq : q workers[n] with
    | false => exact Nat.zero_le _
    | true => exact List.countP_pos_iff.2 ⟨_, List.getElem_mem hlt, hq⟩
  have htoNat : ∀ b : Bool, (if b = true then 1 else 0) = b.toNat := by decide
  rw [List.countP_set hlt, htoNat, htoNat]
  omega

/-- The balance of permits and sessions behind a log. -/
structure Balanced (limit : Nat) (l : Log) (r : Run η) : Prop where
  permits : r.holding + r.shared.permits = limit
  sessions : r.inSession + l.countP (fun e => e.2.isClosed) = l.countP fun e => e.2.isOpened
  inUse : r.shared.inUse = r.inSession
  peak : r.shared.peak ≤ limit

theorem balanced_start (p : Plan) (limit : Nat) (files : Files) (host : η) :
    Balanced limit [] (start p limit files host) := by
  have hwaiting : ∀ w ∈ (start p limit files host).workers, w.phase = .waiting := by
    intro w hw
    obtain ⟨n, hn⟩ := List.mem_iff_getElem?.1 hw
    exact workers_start hn
  have hholding : (start p limit files host).holding = 0 := by
    rw [holding, List.countP_eq_zero]
    intro w hw
    rw [hwaiting w hw]
    exact Bool.false_ne_true
  have hsession : (start p limit files host).inSession = 0 :=
    Nat.le_zero.1 (hholding ▸ inSession_le_holding _)
  refine ⟨?_, ?_, hsession.symm, Nat.zero_le _⟩
  · rw [hholding]
    exact Nat.zero_add _
  · rw [hsession]
    rfl

variable [Host η] {p : Plan} {limit : Nat} {l : Log} {r : Run η}

theorem Balanced.next {n : Nat} {w : Worker} {es : List Event} {ph : Phase} {s : Shared η}
    (hw : r.workers[n]? = some w) (hact : w.Acts p r.shared es ph s) (ih : Balanced limit l r) :
    Balanced limit (l ++ es.map (n, ·)) ⟨r.workers.set n { w with phase := ph }, s⟩ := by
  have hholding := countP_set_add (v := { w with phase := ph }) (fun w => w.phase.holdsPermit) hw
  have hsession := countP_set_add (v := { w with phase := ph }) (fun w => w.phase.hasSession) hw
  change holding ⟨r.workers.set n _, s⟩ + _ = r.holding + _ at hholding
  change inSession ⟨r.workers.set n _, s⟩ + _ = r.inSession + _ at hsession
  have hcounted : w.phase.hasSession.toNat ≤ r.shared.inUse := by
    rw [ih.inUse]
    cases hhas : w.phase.hasSession with
    | false => exact Nat.zero_le _
    | true => exact List.countP_pos_iff.2 ⟨w, List.mem_of_getElem? hw, hhas⟩
  have hevents : ∀ q : Event → Bool,
      (l ++ es.map (n, ·)).countP (fun e => q e.2) = l.countP (fun e => q e.2) + es.countP q := by
    intro q
    rw [List.countP_append, List.countP_map]
    rfl
  have hpermits : holding ⟨r.workers.set n { w with phase := ph }, s⟩ + s.permits = limit := by
    have hbefore := ih.permits
    have hpermits := hact.permits_eq
    dsimp only at hholding
    omega
  have hinUse : s.inUse = inSession ⟨r.workers.set n { w with phase := ph }, s⟩ := by
    have hbefore := ih.inUse
    have hinUse := hact.inUse_eq hcounted
    dsimp only at hsession
    omega
  refine ⟨hpermits, ?_, hinUse, ?_⟩
  · rw [hevents, hevents]
    have hbefore := ih.sessions
    have hsessions := hact.sessions_eq
    dsimp only at hsession
    omega
  · have hbefore := ih.peak
    have hpeak := hact.peak_le
    have hheld := inSession_le_holding ⟨r.workers.set n { w with phase := ph }, s⟩
    dsimp only
    omega

theorem balanced (p : Plan) (limit : Nat) (files : Files) (host : η) (schedule : List Nat) :
    Balanced limit ((start p limit files host).log p schedule)
      ((start p limit files host).follow p schedule) := by
  refine follow_induction (Balanced limit) (balanced_start p limit files host) ?_ schedule
  intro l r n w es ph s hw hact ih
  exact ih.next hw hact

omit [Host η] in
theorem Balanced.permits_of_isOver (h : Balanced limit l r) (hover : r.isOver = true) :
    r.shared.permits = limit := by
  have hholding : r.holding = 0 := by
    rw [holding, List.countP_eq_zero]
    intro w hw
    rw [Phase.holdsPermit_of_isOver (List.all_eq_true.1 hover w hw)]
    exact Bool.false_ne_true
  have hpermits := h.permits
  omega

omit [Host η] in
/-- Whoever holds a permit can act, and where nobody does there are permits for all who wait. -/
theorem Balanced.exists_canAct (h : Balanced limit l r) (hlimit : 1 ≤ limit)
    (hover : r.isOver = false) :
    ∃ (n : Nat) (w : Worker), r.workers[n]? = some w ∧ w.canAct r.shared = true := by
  have hsome : ∃ w ∈ r.workers, w.canAct r.shared = true := by
    by_cases hheld : ∃ w ∈ r.workers, w.phase.holdsPermit = true
    · obtain ⟨w, hw, hholds⟩ := hheld
      refine ⟨w, hw, ?_⟩
      unfold Worker.canAct
      cases hphase : w.phase with
      | admitted | iterating | resting | closing => rfl
      | _ =>
          rw [hphase] at hholds
          cases hholds
    · obtain ⟨w, hw, hgoing⟩ := List.all_eq_false.1 hover
      have hnone : r.holding = 0 := List.countP_eq_zero.2 fun v hv hholds => hheld ⟨v, hv, hholds⟩
      have hfree : 0 < r.shared.permits := by
        have hpermits := h.permits
        omega
      refine ⟨w, hw, ?_⟩
      unfold Worker.canAct
      split
      · exact decide_eq_true hfree
      · rw [Bool.not_eq_true] at hgoing
        rw [hgoing]
        rfl
  obtain ⟨w, hw, hact⟩ := hsome
  obtain ⟨n, hn⟩ := List.mem_iff_getElem?.1 hw
  exact ⟨n, w, hn, hact⟩

theorem session_of_worker (p : Plan) (limit : Nat) (files : Files) (host : η) (schedule : List Nat) {n : Nat}
    {w : Worker} (hw : ((start p limit files host).follow p schedule).workers[n]? = some w) :
    w.OwnsSession (Log.of ((start p limit files host).log p schedule) n) := by
  refine each_worker (fun w hwaiting => ?_) (fun w s es new ph s' hact hown => ?_) schedule n w hw
  · rw [Worker.OwnsSession, hwaiting]
    rfl
  · have hsessions := hact.sessions_eq
    unfold Worker.OwnsSession at hown ⊢
    rw [List.countP_append, List.countP_append]
    dsimp only
    omega

theorem exists_of_events {n : Nat} (h : r.events p n ≠ []) :
    ∃ w, r.workers[n]? = some w ∧ w.phase.holdsPermit = true := by
  rcases turn_cases p r n with ⟨-, hevents⟩ | ⟨w, es, ph, s, hw, hact, -, hevents⟩
  · exact absurd hevents h
  · refine ⟨w, hw, hact.holdsPermit_of_ne_nil ?_⟩
    rintro rfl
    exact h hevents

/-! ## The limit -/

/-- A run with so many permits and the log behind it keep the limit. -/
structure KeepsLimit (p : Plan) (limit : Nat) (l : Log) (r : Run η) : Prop where
  /-- A permit is with a worker or free. -/
  permits : r.holding + r.shared.permits = limit
  /-- A worker has the session that it has opened and not yet closed, and holds a permit as long. -/
  own : ∀ n w, r.workers[n]? = some w →
    (Log.of l n).countP Event.isOpened =
        (Log.of l n).countP Event.isClosed + (if w.phase.hasSession then 1 else 0) ∧
      (w.phase.hasSession = true → w.phase.holdsPermit = true)
  /-- Nothing is asked of the host, to open or to close a session either, but by who holds a permit. -/
  asked : ∀ n, r.events p n ≠ [] → ∃ w, r.workers[n]? = some w ∧ w.phase.holdsPermit = true
  /-- The sessions that are open are those of the workers. -/
  opened : l.countP (fun e => e.2.isOpened) = l.countP (fun e => e.2.isClosed) + r.inSession
  inSession_le : r.inSession ≤ limit
  peak_le : r.shared.inUse = r.inSession ∧ r.shared.peak ≤ limit
  /-- Every permit comes back. -/
  returned : r.isOver = true → r.shared.permits = limit
  /-- No worker waits in vain. -/
  goesOn : 1 ≤ limit → r.isOver = false →
    ∃ (n : Nat) (w : Worker), r.workers[n]? = some w ∧ w.canAct r.shared = true

/-- Behind every schedule, whatever fails, a run keeps its limit. -/
theorem keepsLimit (p : Plan) (limit : Nat) (files : Files) (host : η) (schedule : List Nat) :
    KeepsLimit p limit ((start p limit files host).log p schedule)
      ((start p limit files host).follow p schedule) := by
  have hbalanced := balanced p limit files host schedule
  have hown := fun n w (hw : _ = some w) => session_of_worker p limit files host schedule (n := n) hw
  generalize (start p limit files host).log p schedule = l at *
  generalize (start p limit files host).follow p schedule = r at *
  have hpermits := hbalanced.permits
  have hheld := r.inSession_le_holding
  refine {
    permits := hpermits
    own := fun n w hw => ⟨?_, Phase.holdsPermit_of_hasSession⟩
    asked := fun n => exists_of_events
    opened := by rw [← hbalanced.sessions, Nat.add_comm]
    inSession_le := by omega
    peak_le := ⟨hbalanced.inUse, hbalanced.peak⟩
    returned := hbalanced.permits_of_isOver
    goesOn := hbalanced.exists_canAct }
  have hsession := hown n w hw
  rw [Worker.OwnsSession] at hsession
  rw [← hsession, Nat.add_comm]
  cases w.phase.hasSession <;> rfl

/-- With one permit for four workers: one of them is in its session while the permit is taken, and in the
end the permit is free again. -/
theorem keepsLimit_rehearsed :
    ((start (Rehearsed.plan 2 none) 1 {} Rehearsed.host).follow (Rehearsed.plan 2 none)
        (Rehearsed.inTurn 3)).inSession = 1 ∧
      ((start (Rehearsed.plan 2 none) 1 {} Rehearsed.host).follow (Rehearsed.plan 2 none)
        (Rehearsed.inTurn 3)).shared.permits = 0 ∧
      ((start (Rehearsed.plan 2 none) 1 {} Rehearsed.host).follow (Rehearsed.plan 2 none)
        (Rehearsed.inTurn 12)).shared.permits = 1 := by
  have hbefore := keepsLimit (Rehearsed.plan 2 none) 1 {} Rehearsed.host (Rehearsed.inTurn 3)
  have hafter := keepsLimit (Rehearsed.plan 2 none) 1 {} Rehearsed.host (Rehearsed.inTurn 12)
  have hinside : ((start (Rehearsed.plan 2 none) 1 {} Rehearsed.host).follow (Rehearsed.plan 2 none)
      (Rehearsed.inTurn 3)).inSession = 1 := by decide +kernel
  have hpermits := hbefore.permits
  have hheld := inSession_le_holding ((start (Rehearsed.plan 2 none) 1 {} Rehearsed.host).follow
    (Rehearsed.plan 2 none) (Rehearsed.inTurn 3))
  exact ⟨hinside, by omega, hafter.returned (by decide +kernel)⟩

end Run

/-- A whole run never has more sessions open than it may. -/
theorem peak_compareSites_le {η : Type} [Host η] (config : Config) (l : Library) (q : Request)
    (files : Files) (host : η) :
    (compareSites config l q files host).peak ≤ (q.limit config).toNat := by
  unfold compareSites
  split
  · exact Nat.zero_le _
  · obtain ⟨schedule, hdrive⟩ := Run.exists_drive_eq_follow (q.plan config l)
      (Run.start (q.plan config l) (q.limit config).toNat files host)
    have hpeak := (Run.balanced (q.plan config l) (q.limit config).toNat files host schedule).peak
    rw [← hdrive] at hpeak
    exact hpeak

end SiteTrial
