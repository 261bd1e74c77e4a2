import SiteTrial.Proofs.Run.Action

/-!
# What a run came to

Workers act in any order, so what a run came to is told by a log of what each of them asked for.
Two things about a run are then separate: what one worker does, which depends on its own events
alone, and how the actions of all workers mix.

* `Log` : the events of a run, each with the number of its worker; `Log.of` : those of one worker;
* `Run.log` : the log of the turns of a schedule;
* `Run.follow_induction` : what holds at first and is kept by every action holds behind every schedule;
* `Run.each_worker` : the same for what is said of one worker and its events.
-/

namespace SiteTrial

abbrev Log := List (Nat × Event)

/-- The events of one worker. -/
def Log.of (l : Log) (number : Nat) : List Event :=
  l.filterMap fun e => if e.1 = number then some e.2 else none

namespace Log

@[simp] theorem of_nil (n : Nat) : Log.of [] n = [] := rfl

theorem of_append (l m : Log) (n : Nat) : Log.of (l ++ m) n = l.of n ++ m.of n :=
  List.filterMap_append

theorem of_cons (e : Nat × Event) (l : Log) (n : Nat) :
    Log.of (e :: l) n = if e.1 = n then e.2 :: Log.of l n else Log.of l n := by
  unfold Log.of
  rw [List.filterMap_cons]
  by_cases h : e.1 = n
  · rw [if_pos h, if_pos h]
  · rw [if_neg h, if_neg h]

theorem of_map_self (n : Nat) (es : List Event) : Log.of (es.map (n, ·)) n = es := by
  induction es with
  | nil => rfl
  | cons e es ih => rw [List.map_cons, of_cons, if_pos rfl, ih]

theorem of_map_ne {m n : Nat} (h : m ≠ n) (es : List Event) : Log.of (es.map (m, ·)) n = [] := by
  rw [Log.of, List.filterMap_eq_nil_iff]
  intro e he
  obtain ⟨_, _, rfl⟩ := List.mem_map.1 he
  simp [h]

theorem mem_of_iff {l : Log} {n : Nat} {e : Event} : e ∈ l.of n ↔ (n, e) ∈ l := by
  simp [Log.of]

end Log

variable {η : Type}

/-- The workers of a run have not acted at first. -/
theorem Run.workers_start {p : Plan} {permits : Nat} {files : Files} {host : η} {n : Nat} {w : Worker}
    (h : (Run.start p permits files host).workers[n]? = some w) : w.phase = .waiting := by
  have hmem : w ∈ workersOf p.names := List.mem_of_getElem? h
  obtain ⟨_, _, hw⟩ := List.mem_flatMap.1 hmem
  obtain ⟨_, _, rfl⟩ := List.mem_map.1 hw
  rfl

variable [Host η]

namespace Run

/-- What comes of the turn of a worker. -/
def events (p : Plan) (r : Run η) (number : Nat) : Log :=
  match r.workers[number]? with
  | none => []
  | some w => if w.canAct r.shared then (w.events p r.shared).map (number, ·) else []

def log (p : Plan) (r : Run η) : (schedule : List Nat) → Log
  | [] => []
  | number :: rest => r.events p number ++ (r.turn p number).log p rest

theorem isAnswer_log (p : Plan) (r : Run η) (schedule : List Nat) :
    ∀ e ∈ r.log p schedule, e.2.IsAnswer η := by
  induction schedule generalizing r with
  | nil => exact fun _ h => absurd h List.not_mem_nil
  | cons n rest ih =>
      intro e he
      rcases List.mem_append.1 he with he | he
      · unfold events at he
        split at he
        · cases he
        · split at he
          · obtain ⟨e, hmem, rfl⟩ := List.mem_map.1 he
            exact Worker.isAnswer_events e hmem
          · cases he
      · exact ih _ e he

/-- A turn is an action of a worker that can act, or nothing happens in it. -/
theorem turn_cases (p : Plan) (r : Run η) (number : Nat) :
    (r.turn p number = r ∧ r.events p number = []) ∨
    ∃ w es ph s, r.workers[number]? = some w ∧ w.Acts p r.shared es ph s ∧
      r.turn p number = ⟨r.workers.set number { w with phase := ph }, s⟩ ∧
      r.events p number = es.map (number, ·) := by
  unfold turn events
  cases hw : r.workers[number]? with
  | none => exact .inl ⟨rfl, rfl⟩
  | some w =>
      by_cases hact : w.canAct r.shared = true
      · have hacts := w.acts (p := p) hact
        simp only [hact, if_true]
        -- what the action is need not be known
        generalize w.act p r.shared = next at hacts ⊢
        exact .inr ⟨w, _, _, _, rfl, hacts, rfl, rfl⟩
      · simp only [hact]
        exact .inl ⟨rfl, rfl⟩

theorem follow_induction {p : Plan} {start : Run η} (Inv : Log → Run η → Prop)
    (first : Inv [] start)
    (next : ∀ l (r : Run η) n w es ph s, r.workers[n]? = some w → w.Acts p r.shared es ph s →
      Inv l r → Inv (l ++ es.map (n, ·)) ⟨r.workers.set n { w with phase := ph }, s⟩)
    (schedule : List Nat) : Inv (start.log p schedule) (start.follow p schedule) := by
  suffices h : ∀ (schedule : List Nat) l (r : Run η), Inv l r →
      Inv (l ++ r.log p schedule) (r.follow p schedule) from h schedule [] start first
  intro schedule
  induction schedule with
  | nil =>
      intro l r h
      rw [log, List.append_nil]
      exact h
  | cons n rest ih =>
      intro l r h
      rw [log, ← List.append_assoc]
      apply ih
      rcases turn_cases p r n with ⟨hturn, hevents⟩ | ⟨w, es, ph, s, hw, hact, hturn, hevents⟩
      · rw [hturn, hevents, List.append_nil]
        exact h
      · rw [hturn, hevents]
        exact next l r n w es ph s hw hact h

omit [Host η] in
theorem getElem?_set_cases {workers : List Worker} {n k : Nat} {w w' v : Worker}
    (hw : workers[n]? = some w) (hv : (workers.set n w')[k]? = some v) :
    (k = n ∧ v = w') ∨ (k ≠ n ∧ workers[k]? = some v) := by
  rw [List.getElem?_set] at hv
  by_cases hk : n = k
  · subst hk
    obtain ⟨hlt, -⟩ := List.getElem?_eq_some_iff.1 hw
    rw [if_pos rfl, if_pos hlt] at hv
    exact .inl ⟨rfl, (Option.some.inj hv).symm⟩
  · rw [if_neg hk] at hv
    exact .inr ⟨fun h => hk h.symm, hv⟩

/-- What holds of a worker that has not acted and is kept by its own actions, whatever the others have
done to what they share, holds of every worker of a run and its events. -/
theorem each_worker {p : Plan} {permits : Nat} {files : Files} {host : η}
    {Inv : Worker → List Event → Prop}
    (first : ∀ w, w.phase = .waiting → Inv w [])
    (next : ∀ (w : Worker) (s : Shared η) es new ph s', w.Acts p s new ph s' → Inv w es →
      Inv { w with phase := ph } (es ++ new))
    (schedule : List Nat) (n : Nat) (w : Worker)
    (hw : ((Run.start p permits files host).follow p schedule).workers[n]? = some w) :
    Inv w (Log.of ((Run.start p permits files host).log p schedule) n) := by
  -- said of all workers at once, since a turn of one leaves the others their events and phases
  revert n w
  apply follow_induction fun l r => ∀ n w, r.workers[n]? = some w → Inv w (l.of n)
  · intro n w hw
    exact first w (workers_start hw)
  · intro l r n w es ph s hw hact ih k v hv
    rw [Log.of_append]
    rcases getElem?_set_cases hw hv with ⟨rfl, rfl⟩ | ⟨hk, hv⟩
    · rw [Log.of_map_self]
      exact next w r.shared _ es ph s hact (ih k w hw)
    · rw [Log.of_map_ne (Ne.symm hk), List.append_nil]
      exact ih k v hv

end Run

end SiteTrial
