import SiteTrial.Proofs.Page.Heard

/-!
# Calls up to one that fails

Most computations make call after call and end with the first one that fails. Which calls they make may depend on the
answers, so here it is only said which calls can be among them.

* `Session.Course` : calls that were all answered, or all but the last one, and what they came to; `Course.refused_or` :
  the ways in which they end;
* `Browse.Halts` : a computation that halts where a call fails; `Halts.bind`, `Halts.ask` and the others are its rules.
-/

namespace SiteTrial

variable {σ α β : Type}

/-- What calls one after another came to: all of them succeeded, or the last one failed, and this is the failure. -/
inductive Session.Course (Q : α → Prop) : List (Call × Reply) → Except Failure α → Prop
  | through {heard : List (Call × Reply)} {a : α} (answered : ∀ e ∈ heard, e.2.IsAnswer) (h : Q a) :
      Course Q heard (.ok a)
  | halted {heard before : List (Call × Reply)} {c : Call} {reply : Reply} {f : Failure} (what : String)
      (hheard : heard = before ++ [(c, reply)]) (answered : ∀ e ∈ before, e.2.IsAnswer)
      (h : answerOf what reply = .error f) : Course Q heard (.error f)

namespace Session.Course

variable {Q : α → Prop} {first heard : List (Call × Reply)} {r : Except Failure α}

theorem mono {P : α → Prop} (h : Course P heard r) (hQ : ∀ a, P a → Q a) : Course Q heard r := by
  cases h with
  | through answered h => exact .through answered (hQ _ h)
  | halted what hheard answered h => exact .halted what hheard answered h

/-- Calls that were answered go before. -/
theorem after (hfirst : ∀ e ∈ first, e.2.IsAnswer) (h : Course Q heard r) : Course Q (first ++ heard) r := by
  cases h with
  | through answered h => exact .through (List.forall_mem_append.2 ⟨hfirst, answered⟩) h
  | halted what hheard answered h =>
      rw [hheard, ← List.append_assoc]
      exact .halted what rfl (List.forall_mem_append.2 ⟨hfirst, answered⟩) h

theorem of_ok {a : α} (h : Course Q heard (.ok a)) : (∀ e ∈ heard, e.2.IsAnswer) ∧ Q a := by
  cases h with
  | through answered h => exact ⟨answered, h⟩

/-- A failure stays the failure of what was to follow. -/
theorem of_error {Q' : β → Prop} {f : Failure} (h : Course Q heard (.error f)) : Course Q' heard (.error f) := by
  cases h with
  | halted what hheard answered h => exact .halted what hheard answered h

/-- Where no call breaks the page, calls end well, with one that took too long, or with one that was refused, and only
in this last case one is refused among them. -/
theorem refused_or (h : Course Q heard r) (hwhole : ∀ e ∈ heard, ∀ f, e.2 ≠ .broke f) :
    (((∃ a, r = .ok a) ∨ ∃ what, r = .error (.automation (.timedOut what))) ∧ ∀ c m, (c, .refused m) ∉ heard) ∨
      ∃ what c m, r = .error (.automation (.refused what m)) ∧ (c, .refused m) ∈ heard := by
  have hnever {first : List (Call × Reply)} (answered : ∀ e ∈ first, e.2.IsAnswer) (c : Call) (m : String) :
      (c, .refused m) ∉ first := by
    intro hrefused
    obtain ⟨_, ⟨⟩⟩ := answered _ hrefused
  cases h with
  | through answered h => exact .inl ⟨.inl ⟨_, rfl⟩, hnever answered⟩
  | @halted before c reply f what hheard answered hf =>
      have hlast : (c, reply) ∈ heard := hheard ▸ List.mem_concat_self
      cases reply with
      | answer a => cases hf
      | broke f => exact absurd rfl (hwhole _ hlast f)
      | timedOut =>
          cases hf
          refine .inl ⟨.inr ⟨what, rfl⟩, fun d m hrefused => ?_⟩
          rw [hheard, List.mem_append, List.mem_singleton] at hrefused
          rcases hrefused with hrefused | ⟨⟨⟩⟩
          exact hnever answered d m hrefused
      | refused m =>
          cases hf
          exact .inr ⟨what, c, m, rfl, hlast⟩

end Session.Course

namespace Browse

open Session (Course)

variable [Page σ]

/-- On a page with such replies a computation makes some of these calls and does nothing else, and ends with the first
one that fails; if none does, its answer is such an answer for the calls that were made. -/
def Halts (R : Call → Reply → Prop) (cs : List Call) (b : Browse σ α) (Q : List Call → α → Prop) : Prop :=
  ∀ v, Page.Replies R v.page → ∃ log r, log.Sublist cs ∧ b.run.run v = (r, v.calledAll log) ∧
    Course (Q log) (v.heard log) r

namespace Halts

variable {R : Call → Reply → Prop} {cs ds : List Call} {b : Browse σ α} {Q : List Call → α → Prop}
  {Q' : List Call → β → Prop}

theorem of_quiet (h : ∀ v, ∃ a, b.run.run v = (.ok a, v) ∧ Q [] a) : Halts R [] b Q := by
  intro v _
  obtain ⟨a, ha, hQ⟩ := h v
  exact ⟨[], .ok a, .slnil, ha, .through (List.forall_mem_nil _) hQ⟩

theorem pure {a : α} (h : Q [] a) : Halts R [] (Pure.pure a : Browse σ α) Q := of_quiet fun _ => ⟨a, rfl, h⟩

theorem now : Halts R [] (Browse.now : Browse σ Nat) fun log _ => log = [] := of_quiet fun v => ⟨v.clock, rfl, rfl⟩

theorem ofFault {x : Except Fault α} {a : α} (hx : x = .ok a) :
    Halts R [] (Browse.ofFault x : Browse σ α) fun log _ => log = [] :=
  of_quiet fun v => ⟨a, by rw [hx]; rfl, rfl⟩

theorem mono {P : List Call → α → Prop} (h : Halts R cs b P) (hcs : cs.Sublist ds) (hQ : ∀ log a, P log a → Q log a) :
    Halts R ds b Q := by
  intro v hv
  obtain ⟨log, r, hlog, hrun, hcourse⟩ := h v hv
  exact ⟨log, r, hlog.trans hcs, hrun, hcourse.mono (hQ log)⟩

theorem bind {k : α → Browse σ β} (h : Halts R cs b Q)
    (hk : ∀ log a, Q log a → Halts R ds (k a) fun log' => Q' (log ++ log')) : Halts R (cs ++ ds) (b >>= k) Q' := by
  intro v hv
  obtain ⟨log, r, hlog, hrun, hcourse⟩ := h v hv
  rw [run_bind, hrun]
  cases r with
  | ok a =>
      obtain ⟨answered, hQ⟩ := hcourse.of_ok
      obtain ⟨log', r, hlog', hrun, hcourse⟩ := hk log a hQ (v.calledAll log) (Visit.replies_calledAll hv log)
      refine ⟨log ++ log', r, hlog.append hlog', ?_, ?_⟩
      · rw [Visit.calledAll_append]
        exact hrun
      · rw [Visit.heard_append]
        exact hcourse.after answered
  | error f => exact ⟨log, .error f, hlog.trans (List.sublist_append_left ..), rfl, hcourse.of_error⟩

theorem discard {P : List Call → Prop} (h : Halts R cs b fun log _ => P log) :
    Halts R cs (Functor.discard b) fun log _ => P log := by
  have hall : Halts R (cs ++ []) (b >>= fun _ => Pure.pure ()) fun log _ => P log :=
    h.bind fun log _ hP => .pure (by rwa [List.append_nil])
  rwa [List.append_nil] at hall

theorem timed {b : Browse σ Unit} {P : List Call → Prop} (h : Halts R cs b fun log _ => P log) :
    Halts R cs b.timed fun log _ => P log := by
  have hall : Halts R ([] ++ (cs ++ ([] ++ []))) b.timed fun log _ => P log := by
    refine now.bind fun _ _ hlog => h.bind fun _ _ hP => now.bind fun _ _ hlog' => .pure ?_
    rwa [hlog, hlog', List.nil_append, List.append_nil, List.append_nil]
  simpa using hall

theorem ask (what : String) {c : Call} {P : List Call → Value → Prop} (hP : ∀ a, R c (.answer a) → P [c] a) :
    Halts R [c] (Session.ask what c : Browse σ Value) P := by
  intro v hv
  have hreply : R c (v.reply c) := hv v.page .here c v.clock
  refine ⟨[c], Session.answerOf what (v.reply c), .refl _, Session.run_ask what c v, ?_⟩
  show Course (P [c]) [(c, v.reply c)] _
  by_cases hanswer : (v.reply c).IsAnswer
  · obtain ⟨a, ha⟩ := hanswer
    rw [ha] at hreply ⊢
    exact .through (List.forall_mem_singleton.2 ⟨a, rfl⟩) (hP a hreply)
  · obtain ⟨f, hf⟩ := Session.exists_error_of_not_isAnswer hanswer what
    rw [hf]
    exact .halted what (List.nil_append _).symm (List.forall_mem_nil _) hf

theorem order (what : String) (c : Call) :
    Halts R [c] (Session.order what c : Browse σ Unit) fun log _ => log = [c] :=
  discard (ask what fun _ _ => rfl)

theorem askAbout (s : String) (what : String → String) {c : Call} {P : List Call → Value → Prop}
    (hP : ∀ a, R c (.answer a) → P [c] a) : Halts R [c] (Session.askAbout (.text s) what c : Browse σ Value) P :=
  ask (what s) hP

theorem orderAbout (s : String) (what : String → String) (c : Call) :
    Halts R [c] (Session.orderAbout (.text s) what c : Browse σ Unit) fun log _ => log = [c] :=
  discard (askAbout s what fun _ _ => rfl)

end Halts

end Browse

end SiteTrial
