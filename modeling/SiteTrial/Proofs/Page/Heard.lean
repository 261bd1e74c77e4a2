import Mathlib.Data.List.Nodup
import SiteTrial.Proofs.Page.Along
import SiteTrial.Proofs.Page.Ends

/-!
# What a page replies to calls one after another

What a computation comes to is decided by the replies of the page to the calls that it makes. Here these are told
apart from the computation, so that a statement can speak of both.

* `Visit.reply`, `Visit.heard` : the reply to a call, and to calls one after another; `Visit.calledAll` : the visit
  afterwards;
* `Reply.IsAnswer` : the call succeeded;
* `Session.run_order`, `Session.run_askAbout`, `Session.run_orderAbout` : what a call comes to;
* `Browse.Demands` : a computation makes certain calls, and comes to an answer exactly if the page replies to each of
  them as is demanded; `Demands.bind`, `Demands.judge` and the others are its rules;
* `Page.WaitsForUrl` : a page that is true to its word about its address.
-/

namespace SiteTrial

variable {σ α β : Type} [Page σ]

/-- The call succeeded. -/
def Reply.IsAnswer (reply : Reply) : Prop := ∃ a, reply = .answer a

namespace Visit

/-- What the page of a visit replies to a call. -/
def reply (v : Visit σ) (c : Call) : Reply := (Page.respond c v.clock v.page).reply

/-- A visit after calls one after another. -/
def calledAll (v : Visit σ) (cs : List Call) : Visit σ := cs.foldl called v

/-- Calls that are made one after another, each with what the page replies to it. -/
def heard (v : Visit σ) : List Call → List (Call × Reply)
  | [] => []
  | c :: cs => (c, v.reply c) :: (v.called c).heard cs

theorem calledAll_append (v : Visit σ) (cs ds : List Call) :
    v.calledAll (cs ++ ds) = (v.calledAll cs).calledAll ds := List.foldl_append

theorem heard_append (v : Visit σ) (cs ds : List Call) :
    v.heard (cs ++ ds) = v.heard cs ++ (v.calledAll cs).heard ds := by
  induction cs generalizing v with
  | nil => rfl
  | cons c cs ih => exact congrArg ((c, v.reply c) :: ·) (ih (v.called c))

theorem map_fst_heard (v : Visit σ) (cs : List Call) : (v.heard cs).map Prod.fst = cs := by
  induction cs generalizing v with
  | nil => rfl
  | cons c cs ih => exact congrArg (c :: ·) (ih (v.called c))

theorem mem_of_mem_heard {v : Visit σ} {cs : List Call} {c : Call} {reply : Reply} (h : (c, reply) ∈ v.heard cs) :
    c ∈ cs := by
  rw [← map_fst_heard v cs]
  exact List.mem_map_of_mem h

theorem calls_calledAll (v : Visit σ) (cs : List Call) : (v.calledAll cs).calls = v.calls ++ cs := by
  induction cs generalizing v with
  | nil => exact (List.append_nil _).symm
  | cons c cs ih => exact (ih (v.called c)).trans (List.append_assoc ..)

/-- Calls leave the recorder alone. -/
theorem recorder_calledAll (v : Visit σ) (cs : List Call) : (v.calledAll cs).recorder = v.recorder := by
  induction cs generalizing v with
  | nil => rfl
  | cons c cs ih => exact ih (v.called c)

/-- Nobody is told anything by a call. -/
theorem notices_calledAll (v : Visit σ) (cs : List Call) : (v.calledAll cs).notices = v.notices := by
  induction cs generalizing v with
  | nil => rfl
  | cons c cs ih => exact ih (v.called c)

theorem reaches_calledAll (v : Visit σ) (cs : List Call) : Page.Reaches v.page (v.calledAll cs).page := by
  induction cs generalizing v with
  | nil => exact .here
  | cons c cs ih => exact (Page.Reaches.next c v.clock .here).trans (ih (v.called c))

theorem replies_calledAll {R : Call → Reply → Prop} {v : Visit σ} (h : Page.Replies R v.page) (cs : List Call) :
    Page.Replies R (v.calledAll cs).page := fun q hq => h q ((v.reaches_calledAll cs).trans hq)

theorem replies_heard {R : Call → Reply → Prop} {v : Visit σ} (h : Page.Replies R v.page) {cs : List Call}
    {e : Call × Reply} (he : e ∈ v.heard cs) : R e.1 e.2 := by
  induction cs generalizing v with
  | nil => cases he
  | cons c cs ih =>
      rcases List.mem_cons.1 he with rfl | he
      · exact h v.page .here c v.clock
      · exact ih (h.next c v.clock) he

/-- What was told before makes no difference. -/
theorem calledAll_notices (v : Visit σ) (ns : List Notice) (cs : List Call) :
    ({ v with notices := ns }).calledAll cs = { v.calledAll cs with notices := ns } := by
  induction cs generalizing v with
  | nil => rfl
  | cons c cs ih => exact ih (v.called c)

theorem heard_notices (v : Visit σ) (ns : List Notice) (cs : List Call) :
    ({ v with notices := ns }).heard cs = v.heard cs := by
  induction cs generalizing v with
  | nil => rfl
  | cons c cs ih => exact congrArg ((c, v.reply c) :: ·) (ih (v.called c))

/-- A call that is made once is replied to in one way. -/
theorem heard_unique {v : Visit σ} {cs : List Call} (hcs : cs.Nodup) {c : Call} {r r' : Reply}
    (h : (c, r) ∈ v.heard cs) (h' : (c, r') ∈ v.heard cs) : r = r' := by
  rw [← map_fst_heard v cs] at hcs
  exact (Prod.mk.inj (List.inj_on_of_nodup_map hcs h h' rfl)).2

end Visit

/-! ## Single calls -/

namespace Session

theorem run_order (what : String) (c : Call) (v : Visit σ) :
    (order what c).run.run v = ((answerOf what (v.reply c)).map fun _ => (), v.called c) := by
  show (ask what c >>= fun _ => pure ()).run.run v = _
  rw [run_bind, run_ask]
  show _ = ((answerOf what (Page.respond c v.clock v.page).reply).map fun _ => (), v.called c)
  cases answerOf what (Page.respond c v.clock v.page).reply <;> rfl

theorem run_askAbout (s : String) (what : String → String) (c : Call) (v : Visit σ) :
    (askAbout (.text s) what c).run.run v = (answerOf (what s) (v.reply c), v.called c) := run_ask (what s) c v

theorem run_orderAbout (s : String) (what : String → String) (c : Call) (v : Visit σ) :
    (orderAbout (.text s) what c).run.run v = ((answerOf (what s) (v.reply c)).map fun _ => (), v.called c) :=
  run_order (what s) c v

theorem exists_answerOf_of_isAnswer {reply : Reply} (h : reply.IsAnswer) (what : String) :
    ∃ a, answerOf what reply = .ok a := by
  obtain ⟨a, rfl⟩ := h
  exact ⟨a, rfl⟩

theorem exists_error_of_not_isAnswer {reply : Reply} (h : ¬ reply.IsAnswer) (what : String) :
    ∃ f, answerOf what reply = .error f := by
  cases reply with
  | answer a => exact absurd ⟨a, rfl⟩ h
  | timedOut | refused _ | broke _ => exact ⟨_, rfl⟩

end Session

/-! ## Calls that must succeed -/

namespace Browse

omit [Page σ] in
/-- Whatever a computation comes to is judged in the visit that it leaves. -/
theorem run_attempt_bind (b : Browse σ α) (k : Except Failure α → Browse σ β) (v : Visit σ) :
    (b.attempt >>= k).run.run v = (k (b.run.run v).1).run.run (b.run.run v).2 := run_bind b.attempt k v

omit [Page σ] in
theorem run_timed (b : Browse σ Unit) (v : Visit σ) : b.timed.run.run v =
    ((b.run.run v).1.map fun _ => (b.run.run v).2.clock - v.clock, (b.run.run v).2) := by
  show (b >>= fun _ => _).run.run v = _
  rw [run_bind]
  rcases b.run.run v with ⟨_ | _, _⟩ <;> rfl

/-- A computation makes these calls one after another, and comes to an answer exactly if the page replies to each of
them as is demanded. -/
def Demands (P : Call → Reply → Prop) (cs : List Call) (b : Browse σ α) : Prop :=
  ∀ v, ((∀ e ∈ v.heard cs, P e.1 e.2) → ∃ a, b.run.run v = (.ok a, v.calledAll cs)) ∧
    ((¬ ∀ e ∈ v.heard cs, P e.1 e.2) → ∃ f w, b.run.run v = (.error f, w))

namespace Demands

variable {P : Call → Reply → Prop} {cs ds : List Call} {b : Browse σ α}

theorem of_quiet (h : ∀ v, ∃ a, b.run.run v = (.ok a, v)) : Demands P [] b :=
  fun v => ⟨fun _ => h v, fun hno => absurd (fun _ he => nomatch he) hno⟩

theorem pure (a : α) : Demands P [] (Pure.pure a : Browse σ α) := of_quiet fun _ => ⟨a, rfl⟩

theorem now : Demands P [] (Browse.now : Browse σ Nat) := of_quiet fun v => ⟨v.clock, rfl⟩

/-- What the second computation demands is demanded of the page that the first one leaves. -/
theorem bind {k : α → Browse σ β} (h : Demands P cs b) (hk : ∀ a, Demands P ds (k a)) :
    Demands P (cs ++ ds) (b >>= k) := by
  intro v
  rw [Visit.heard_append, Visit.calledAll_append, List.forall_mem_append, run_bind]
  constructor
  · rintro ⟨hfirst, hsecond⟩
    obtain ⟨a, ha⟩ := (h v).1 hfirst
    obtain ⟨c, hc⟩ := (hk a (v.calledAll cs)).1 hsecond
    exact ⟨c, by rw [ha]; exact hc⟩
  · intro hno
    by_cases hfirst : ∀ e ∈ v.heard cs, P e.1 e.2
    · obtain ⟨a, ha⟩ := (h v).1 hfirst
      obtain ⟨f, w, hf⟩ := (hk a (v.calledAll cs)).2 fun hsecond => hno ⟨hfirst, hsecond⟩
      exact ⟨f, w, by rw [ha]; exact hf⟩
    · obtain ⟨f, w, hf⟩ := (h v).2 hfirst
      exact ⟨f, w, by rw [hf]⟩

theorem andThen {b : Browse σ Unit} {k : Unit → Browse σ β} (h : Demands P cs b) (hk : Demands P ds (k ())) :
    Demands P (cs ++ ds) (b >>= k) := h.bind fun _ => hk

theorem timed {b : Browse σ Unit} (h : Demands P cs b) : Demands P cs b.timed := by
  have hall : Demands P ([] ++ (cs ++ ([] ++ []))) b.timed := now.bind fun _ => h.andThen (now.bind fun _ => pure _)
  simpa using hall

/-- A failure is thrown again, in one form or another. -/
theorem judge {k : Except Failure α → Browse σ β} (h : Demands P cs b)
    (hok : ∀ a v, ∃ c, (k (.ok a)).run.run v = (.ok c, v))
    (herror : ∀ f v, ∃ g w, (k (.error f)).run.run v = (.error g, w)) : Demands P cs (b.attempt >>= k) := by
  intro v
  rw [run_attempt_bind]
  constructor
  · intro hall
    obtain ⟨a, ha⟩ := (h v).1 hall
    rw [ha]
    exact hok a _
  · intro hno
    obtain ⟨f, w, hf⟩ := (h v).2 hno
    rw [hf]
    exact herror f w

/-- A call of which nothing but success is demanded. -/
theorem order {c : Call} (hP : ∀ reply, P c reply ↔ reply.IsAnswer) (what : String) :
    Demands P [c] (Session.order what c : Browse σ Unit) := by
  intro v
  have hone : (∀ e ∈ v.heard [c], P e.1 e.2) ↔ (v.reply c).IsAnswer :=
    List.forall_mem_singleton.trans (hP (v.reply c))
  rw [hone, Session.run_order]
  constructor
  · intro h
    obtain ⟨a, ha⟩ := Session.exists_answerOf_of_isAnswer h what
    exact ⟨(), by rw [ha]; rfl⟩
  · intro h
    obtain ⟨f, hf⟩ := Session.exists_error_of_not_isAnswer h what
    exact ⟨f, _, by rw [hf]; rfl⟩

theorem orderAbout {c : Call} (hP : ∀ reply, P c reply ↔ reply.IsAnswer) (s : String) (what : String → String) :
    Demands P [c] (Session.orderAbout (.text s) what c : Browse σ Unit) := order hP (what s)

end Demands

end Browse

/-! ## Waiting for an address -/

/-- Where the page says that an address of some kind is there, such an address is there. -/
def Page.WaitsForUrl (p : σ) : Prop :=
  ∀ q, Reaches p q → ∀ test limit now, (respond (.waitForUrl test limit) now q).reply.IsAnswer →
    test.accepts (url (respond (.waitForUrl test limit) now q).page) = true

end SiteTrial
