import SiteTrial.Proofs.Run.Ledger
import SiteTrial.Proofs.Run.Permits

/-!
# Pauses between iterations

Apart from its session, what a worker does is a sequence of iterations and pauses. Which iterations gave
samples determines the whole of it: one pause stands behind each of these, unless it is the last one, and
none behind an iteration that failed.

* `Beat`, `Event.beats` : the iterations and the pauses of a worker, in their order;
* `Event.given` : whether the iterations gave samples, one after another;
* `Plan.rhythm` : iterations with pauses between them, behind those that are to have one;
* `Worker.KeepsTime` : how far a worker is in its rhythm, phase by phase;
* `Run.pauses_between` : every worker of a run keeps the rhythm of its samples, and it is that of a pause
  between any two iterations exactly if none but the last one fails.
-/

namespace SiteTrial

/-- An iteration, which gave a sample or not, or a pause of so many milliseconds behind one. -/
inductive Beat where
  | ran (iteration : Int) (given : Bool)
  | paused (iteration : Int) (time : Nat)
deriving Repr, DecidableEq

namespace Event

def beat? : Event → Option Beat
  | .ran o outcome => some (.ran o.iteration outcome.toBool)
  | .paused iteration time _ => some (.paused iteration time)
  | _ => none

def beats (es : List Event) : List Beat := es.filterMap beat?

/-- Whether the scenarios that were run gave their samples, one after another. -/
def given (es : List Event) : List Bool := (es.filterMap attempt?).map (·.2.toBool)

theorem beats_append (es new : List Event) : beats (es ++ new) = beats es ++ beats new :=
  List.filterMap_append

theorem given_append (es new : List Event) : given (es ++ new) = given es ++ given new := by
  rw [given, List.filterMap_append, List.map_append]
  rfl

theorem count_false_given (es : List Event) : (given es).count false = es.countP isFailedRun := by
  induction es with
  | nil => rfl
  | cons e es ih =>
      rw [List.countP_cons, ← ih]
      cases e with
      | ran o outcome =>
          show (outcome.toBool :: given es).count false = _
          rw [List.count_cons]
          cases outcome <;> rfl
      | _ => rfl

end Event

namespace Plan

variable (p : Plan)

/-- What stands between an iteration and the next one, where those that `pauses` says have a pause. -/
def gap (pauses : Bool → Bool) (iteration : Nat) (given : Bool) : List Beat :=
  if (iteration : Int) < p.iterations ∧ pauses given = true ∧ p.config.execution.iterationDelay ≠ 0 then
    [.paused iteration p.config.execution.iterationDelay]
  else []

/-- Iterations of these outcomes, the first of them with a number, and what stands between them. -/
def rhythmFrom (pauses : Bool → Bool) : (first : Nat) → (outcomes : List Bool) → List Beat
  | _, [] => []
  | first, given :: rest =>
    .ran first given :: (p.gap pauses first given ++ rhythmFrom pauses (first + 1) rest)

def rhythm (pauses : Bool → Bool) (outcomes : List Bool) : List Beat :=
  p.rhythmFrom pauses 1 outcomes

variable {p} {pauses : Bool → Bool}

theorem rhythmFrom_cons (pauses : Bool → Bool) (first : Nat) (given : Bool) (rest : List Bool) :
    p.rhythmFrom pauses first (given :: rest) =
      .ran first given :: (p.gap pauses first given ++ p.rhythmFrom pauses (first + 1) rest) := rfl

theorem rhythmFrom_concat (first : Nat) (outcomes : List Bool) (given : Bool) :
    p.rhythmFrom pauses first (outcomes ++ [given]) = p.rhythmFrom pauses first outcomes ++
      .ran (first + outcomes.length : Nat) given :: p.gap pauses (first + outcomes.length) given := by
  induction outcomes generalizing first with
  | nil => simp [rhythmFrom]
  | cons x rest ih =>
      have hnumber : first + 1 + rest.length = first + (x :: rest).length := by
        rw [List.length_cons]
        omega
      rw [List.cons_append, rhythmFrom_cons, ih, rhythmFrom_cons, hnumber]
      simp

theorem rhythm_concat (outcomes : List Bool) (given : Bool) :
    p.rhythm pauses (outcomes ++ [given]) = p.rhythm pauses outcomes ++
      .ran (outcomes.length + 1 : Nat) given :: p.gap pauses (outcomes.length + 1) given := by
  rw [rhythm, rhythmFrom_concat, Nat.add_comm 1]
  rfl

theorem gap_of_le {iteration : Nat} (h : p.iterations ≤ iteration) (given : Bool) :
    p.gap pauses iteration given = [] := by
  rw [gap, if_neg fun hgap => by omega]

/-- All iterations have the rhythm of a pause between any two of them exactly if a pause stands behind
each but the last one. -/
theorem rhythmFrom_eq_iff (hdelay : p.config.execution.iterationDelay ≠ 0) {first : Nat}
    {outcomes : List Bool} (hall : (first + outcomes.length : Int) = p.iterations + 1) :
    p.rhythmFrom pauses first outcomes = p.rhythmFrom (fun _ => true) first outcomes ↔
      ∀ given ∈ outcomes.dropLast, pauses given = true := by
  induction outcomes generalizing first with
  | nil => simp [rhythmFrom]
  | cons x rest ih =>
      cases rest with
      | nil =>
          have hlast : p.iterations ≤ first := by
            rw [List.length_singleton] at hall
            omega
          simp [rhythmFrom, gap_of_le hlast]
      | cons y rest =>
          have hnext : (first : Int) < p.iterations := by
            simp only [List.length_cons] at hall
            omega
          have hrest : ((first + 1 : Nat) + (y :: rest).length : Int) = p.iterations + 1 := by
            simp only [List.length_cons] at hall ⊢
            omega
          rw [rhythmFrom_cons pauses, rhythmFrom_cons fun _ => true, List.dropLast_cons_cons,
            List.forall_mem_cons, ← ih hrest, List.cons_inj_right]
          by_cases hx : pauses x = true
          · have hgap : p.gap pauses first x = p.gap (fun _ => true) first x := by simp [gap, hx]
            rw [hgap, List.append_right_inj]
            exact (and_iff_right hx).symm
          · -- where the pause is missing the next iteration stands in its place
            refine iff_of_false (fun h => ?_) fun h => hx h.1
            simp [gap, hnext, hx, hdelay, rhythmFrom_cons] at h

theorem rhythm_eq_iff (hdelay : p.config.execution.iterationDelay ≠ 0) {outcomes : List Bool}
    (hall : outcomes.length = p.iterations.toNat) :
    p.rhythm pauses outcomes = p.rhythm (fun _ => true) outcomes ↔
      ∀ given ∈ outcomes.dropLast, pauses given = true := by
  by_cases hsome : outcomes = []
  · simp [hsome, rhythm, rhythmFrom]
  · have hpos : 0 < outcomes.length := List.length_pos_iff.2 hsome
    exact rhythmFrom_eq_iff hdelay (by omega)

end Plan

/-! ## One worker -/

/-- Events in the rhythm of their samples, at least up to a fault that breaks the iterations off. -/
def Plan.InTime (p : Plan) (es : List Event) : Prop :=
  Event.beats es = p.rhythm id (Event.given es) ∨
    ((∃ e ∈ es, e.Breaks) ∧ Event.beats es <+: p.rhythm id (Event.given es))

/-- What is neither an iteration nor a pause may follow. -/
theorem Plan.InTime.quiet {p : Plan} {es new : List Event} (h : p.InTime es)
    (hbeats : Event.beats new = []) (hgiven : Event.given new = []) : p.InTime (es ++ new) := by
  rw [InTime, Event.beats_append, Event.given_append, hbeats, hgiven, List.append_nil, List.append_nil]
  refine h.imp_right fun ⟨⟨e, he, hbreaks⟩, hprefix⟩ => ⟨⟨e, ?_, hbreaks⟩, hprefix⟩
  exact List.mem_append_left new he

/-- How far a worker is in its rhythm, unless a fault has broken off its iterations. -/
def Worker.KeepsTime (p : Plan) (w : Worker) (es : List Event) : Prop :=
  match w.phase with
  | .waiting | .queued _ | .admitted _ => es = []
  | .iterating _ _ iteration _ =>
    iteration = (Event.given es).length + 1 ∧ Event.beats es = p.rhythm id (Event.given es)
  | .resting _ _ iteration _ =>
    iteration = (Event.given es).length ∧
      Event.beats es ++ [.paused iteration p.config.execution.iterationDelay] =
        p.rhythm id (Event.given es)
  | .closing _ (.ok _) => Event.beats es = p.rhythm id (Event.given es)
  | .closing _ (.error _) | .broken _ | .finished _ => p.InTime es

namespace Worker

variable {p : Plan} {w : Worker} {es new : List Event}

/-- An iteration more: what is missing then is the pause behind it. -/
theorem ran_next {iteration : Nat} {given : Bool} (hes : iteration = (Event.given es).length + 1)
    (hbeats : Event.beats es = p.rhythm id (Event.given es))
    (hnewBeats : Event.beats new = [.ran iteration given]) (hnewGiven : Event.given new = [given]) :
    iteration = (Event.given (es ++ new)).length ∧
      Event.beats (es ++ new) ++ p.gap id iteration given = p.rhythm id (Event.given (es ++ new)) := by
  rw [Event.given_append, Event.beats_append, hnewGiven, hnewBeats, Plan.rhythm_concat, ← hes, hbeats,
    List.length_append]
  exact ⟨hes, by simp⟩

/-- A pause, whatever comes of it. -/
theorem paused_next {iteration time : Nat} {outcome : Except Failure Unit}
    (hes : iteration = (Event.given es).length)
    (hbeats : Event.beats es ++ [.paused iteration time] = p.rhythm id (Event.given es)) :
    iteration = (Event.given (es ++ [.paused iteration time outcome])).length ∧
      Event.beats (es ++ [.paused iteration time outcome]) =
        p.rhythm id (Event.given (es ++ [.paused iteration time outcome])) := by
  have hgiven : Event.given [.paused iteration time outcome] = [] := rfl
  rw [Event.given_append, Event.beats_append, hgiven, List.append_nil]
  exact ⟨hes, hbeats⟩

theorem keepsTime_following {scenario : Scenario} {session iteration failed : Nat} {given : Bool}
    (h : iteration = (Event.given es).length ∧
      Event.beats es ++ p.gap id iteration given = p.rhythm id (Event.given es)) :
    KeepsTime p { w with phase := p.following scenario session iteration failed given } es := by
  obtain ⟨hes, hbeats⟩ := h
  unfold Plan.following
  by_cases hnext : (iteration : Int) < p.iterations
  · rw [if_pos hnext]
    by_cases hpause : (given && p.config.execution.iterationDelay != 0) = true
    · rw [if_pos hpause]
      obtain ⟨hgiven, hdelay⟩ := Bool.and_eq_true_iff.1 hpause
      rw [Plan.gap, if_pos ⟨hnext, hgiven, bne_iff_ne.1 hdelay⟩] at hbeats
      exact ⟨hes, hbeats⟩
    · rw [if_neg hpause]
      rw [Plan.gap, if_neg fun h => hpause (Bool.and_eq_true_iff.2 ⟨h.2.1, bne_iff_ne.2 h.2.2⟩),
        List.append_nil] at hbeats
      exact ⟨congrArg (· + 1) hes, hbeats⟩
  · rw [if_neg hnext]
    rw [Plan.gap_of_le (Int.not_lt.1 hnext), List.append_nil] at hbeats
    exact hbeats

theorem keepsTime_beginning {scenario : Scenario} {session : Nat} :
    KeepsTime p { w with phase := p.beginning scenario session } [.opened (.ok session)] := by
  unfold Plan.beginning
  split
  · exact ⟨rfl, rfl⟩
  · exact rfl

theorem inTime_of_closing {session : Nat} {outcome : Except Failure Nat}
    (hphase : w.phase = .closing session outcome) (h : w.KeepsTime p es) : p.InTime es := by
  rw [KeepsTime, hphase] at h
  cases outcome with
  | ok failed => exact .inl h
  | error f => exact h

variable {η : Type} [Host η] {s s' : Shared η} {ph : Phase}

theorem Acts.keepsTime (h : w.Acts p s new ph s') (htime : w.KeepsTime p es) :
    KeepsTime p { w with phase := ph } (es ++ new) := by
  cases h with
  -- before there is a session
  | found hphase | admitted hphase =>
      rw [KeepsTime, hphase] at htime
      rw [List.append_nil]
      exact htime
  | refused hphase | astray hphase | unopened hphase | openingBroke hphase =>
      rw [KeepsTime, hphase] at htime
      rw [htime]
      exact .inl rfl
  | opened hphase =>
      rw [KeepsTime, hphase] at htime
      rw [htime]
      exact keepsTime_beginning
  -- a scenario was run
  | sampled hphase | failed hphase =>
      rw [KeepsTime, hphase] at htime
      exact keepsTime_following (ran_next htime.1 htime.2 rfl rfl)
  | @misfiled _ _ _ _ _ m f _ hphase =>
      rw [KeepsTime, hphase] at htime
      refine .inr ⟨⟨.filed (.error f), ?_, .inr ⟨f, rfl⟩⟩, _, (ran_next htime.1 htime.2 rfl rfl).2⟩
      exact List.mem_append_right es (List.mem_cons_of_mem _ (List.mem_singleton.2 rfl))
  | runBroke hphase ht hout hown =>
      rw [KeepsTime, hphase] at htime
      exact .inr ⟨⟨_, List.mem_append_right es (List.mem_singleton.2 rfl),
        Event.breaks_of_sessionFailure rfl hown⟩, _, (ran_next htime.1 htime.2 rfl rfl).2⟩
  -- between two iterations
  | paused hphase | unpaused hphase =>
      rw [KeepsTime, hphase] at htime
      obtain ⟨hes, hbeats⟩ := paused_next htime.1 htime.2
      exact ⟨congrArg (· + 1) hes, hbeats⟩
  | pauseBroke hphase =>
      rw [KeepsTime, hphase] at htime
      exact .inl (paused_next htime.1 htime.2).2
  -- the session is closed
  | closed hphase | ended hphase | unclosed hphase | closingBroke hphase =>
      exact (inTime_of_closing hphase htime).quiet rfl rfl

/-- Wherever a worker is, it has kept to its rhythm. -/
theorem KeepsTime.isPrefix (h : w.KeepsTime p es) : Event.beats es <+: p.rhythm id (Event.given es) := by
  unfold KeepsTime at h
  split at h
  case h_1 | h_2 | h_3 =>
    subst h
    exact List.nil_prefix
  case h_4 => exact h.2 ▸ List.prefix_rfl
  case h_5 => exact ⟨_, h.2⟩
  case h_6 => exact h ▸ List.prefix_rfl
  case h_7 | h_8 | h_9 =>
    rcases h with h | h
    · exact h ▸ List.prefix_rfl
    · exact h.2

end Worker

/-! ## Every worker of a run -/

namespace Run

variable {η : Type} [Host η] {p : Plan} {permits : Nat} {files : Files} {host : η}
  {schedule : List Nat}

theorem keepsTime {n : Nat} {w : Worker}
    (hw : ((start p permits files host).follow p schedule).workers[n]? = some w) :
    w.KeepsTime p (Log.of ((start p permits files host).log p schedule) n) := by
  refine each_worker (fun w hw => ?_) (fun w s es new ph s' h htime => h.keepsTime htime) schedule n w hw
  rw [Worker.KeepsTime, hw]

/-- A worker that has come to its end, and had a session that no fault broke off, has run every iteration
and reports those that gave no sample. -/
theorem all_given_of_isOver {n : Nat} {w : Worker}
    (hw : ((start p permits files host).follow p schedule).workers[n]? = some w)
    (hover : w.phase.isOver = true) {es : List Event}
    (hes : es = Log.of ((start p permits files host).log p schedule) n)
    (hopened : ∃ e ∈ es, e.isOpened = true) (hclean : ∀ e ∈ es, ¬ e.Breaks) :
    (Event.given es).length = p.iterations.toNat ∧
      w.phase = .finished ((Event.given es).count false) := by
  have hacc := accounts schedule hw
  rw [← hes] at hacc
  have hbroken : ¬ ∃ e ∈ es, e.Breaks := fun ⟨e, he, hbreaks⟩ => hclean e he hbreaks
  cases hphase : w.phase with
  | finished failed =>
      rw [Worker.Accounts, hphase] at hacc
      cases hacc with
      | refused hget hown hes => simp [hes] at hopened
      | unopened hget hes => simp [hes, Event.isOpened] at hopened
      | done hran =>
          rw [Event.count_false_given, Event.given, List.length_map]
          exact ⟨hran.length_attempts, rfl⟩
      | masked hran hbreaks => exact absurd hbreaks hbroken
  | broken f =>
      rw [Worker.Accounts, hphase] at hacc
      cases hacc with
      | astray hget hown hes => simp [hes] at hopened
      | unopened hget hes => simp [hes, Event.isOpened] at hopened
      | running hran hbreaks => exact absurd hbreaks hbroken
  | _ =>
      rw [hphase] at hover
      cases hover

/-- Every worker of a run keeps the rhythm in which one pause stands behind each iteration that gave a
sample, unless it is the last one. At its end, unless a fault has broken it off, it has run all iterations and
counts those that gave no sample, whatever came of its pauses; and it has paused between any two iterations
exactly if none but the last one failed. -/
theorem pauses_between {n : Nat} {w : Worker}
    (hw : ((start p permits files host).follow p schedule).workers[n]? = some w) {es : List Event}
    (hes : es = Log.of ((start p permits files host).log p schedule) n) :
    Event.beats es <+: p.rhythm id (Event.given es) ∧
      (w.phase.isOver = true → (∃ e ∈ es, e.isOpened = true) → (∀ e ∈ es, ¬ e.Breaks) →
        (Event.given es).length = p.iterations.toNat ∧
          w.phase = .finished ((Event.given es).count false) ∧
          Event.beats es = p.rhythm id (Event.given es) ∧
          (0 < p.config.execution.iterationDelay →
            (Event.beats es = p.rhythm (fun _ => true) (Event.given es) ↔
              ∀ given ∈ (Event.given es).dropLast, given = true))) := by
  have htime := keepsTime hw
  rw [← hes] at htime
  refine ⟨htime.isPrefix, fun hover hopened hclean => ?_⟩
  obtain ⟨hall, hphase⟩ := all_given_of_isOver hw hover hes hopened hclean
  have hbeats : Event.beats es = p.rhythm id (Event.given es) := by
    rw [Worker.KeepsTime, hphase] at htime
    exact htime.resolve_right fun ⟨⟨e, he, hbreaks⟩, _⟩ => hclean e he hbreaks
  refine ⟨hall, hphase, hbeats, fun hdelay => ?_⟩
  rw [hbeats]
  exact Plan.rhythm_eq_iff hdelay.ne' hall

/-- A host of which the pages fail in some of their calls. -/
def stumbling (mishaps : List Mishap) : Rehearsal where
  staging := .direct
  offers := [{ page := { mishaps := mishaps } }]
  surroundings := { draws := .cycle [], date := "2024-05-01T10:00:00" }

/-- A pause that fails, and a last iteration that does. -/
theorem pauses_between_stumbling :
    let p := Rehearsed.plan 3 none
    let r := start p 2 {} (stumbling
      [⟨"wait_for_timeout", some [1], .timedOut⟩, ⟨"wait_for_load_state", some [2], .timedOut⟩])
    ∃ w, (r.follow p (Rehearsed.inTurn 12)).workers[0]? = some w ∧ w.phase = .finished 1 ∧
      Event.beats (Log.of (r.log p (Rehearsed.inTurn 12)) 0) =
        [.ran 1 true, .paused 1 2000, .ran 2 true, .paused 2 2000, .ran 3 false] := by
  intro p r
  have hover : (r.follow p (Rehearsed.inTurn 12)).workers[0]?.any (fun w => w.phase.isOver) = true := by
    decide +kernel
  have hgiven : Event.given (Log.of (r.log p (Rehearsed.inTurn 12)) 0) = [true, true, false] := by
    decide +kernel
  obtain ⟨w, hw, hover⟩ := (Option.any_eq_true _ _).1 hover
  obtain ⟨-, hend⟩ := pauses_between hw rfl
  obtain ⟨-, hphase, hbeats, -⟩ := hend hover (by decide +kernel) (by decide +kernel)
  rw [hgiven] at hphase hbeats
  exact ⟨w, hw, hphase, hbeats⟩

/-- An iteration that fails is followed by the next one at once, although there is a pause between any two
of them. -/
theorem failed_iteration_without_pause :
    let p := Rehearsed.plan 2 none
    let r := start p 2 {} (stumbling [⟨"wait_for_load_state", some [0], .timedOut⟩])
    p.config.execution.iterationDelay = 2000 ∧
      Event.given (Log.of (r.log p (Rehearsed.inTurn 12)) 0) = [false, true] ∧
      p.rhythm (fun _ => true) [false, true] = [.ran 1 false, .paused 1 2000, .ran 2 true] ∧
      Event.beats (Log.of (r.log p (Rehearsed.inTurn 12)) 0) = [.ran 1 false, .ran 2 true] := by
  decide +kernel

end Run

end SiteTrial
