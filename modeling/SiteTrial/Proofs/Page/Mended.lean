import SiteTrial.Proofs.Page.Failing
import SiteTrial.Proofs.Page.Heard

/-!
# A page that does not fail some calls

That a failing call has no effect but a notice says something about two pages: the one that fails it, and one that
answers it and is otherwise the same. A visit on the one does what it does on the other, notices apart.

* `Mended` : a page that answers some calls whatever another page replies to them;
* `Visit.mended` : a visit with such a page in it, without the notices that tell of failing calls;
* `Browse.Indifferent` : a computation that does the same in both visits; `Indifferent.bind`, `Indifferent.judge` and
  the others are its rules.
-/

namespace SiteTrial

variable {σ α β : Type}

/-- A page that answers some calls, and to every other call replies as another page does. -/
structure Mended (σ : Type) where
  page : σ
  /-- The calls that it answers. -/
  mends : Call → Bool

instance [Page σ] : Page (Mended σ) where
  url p := Page.url p.page
  respond c now p :=
    let r := Page.respond c now p.page
    ⟨r.elapsed, if p.mends c then .answer .null else r.reply, { p with page := r.page }⟩

/-- The same visit with such a page in it, and only some of its notices. -/
def Visit.mended (v : Visit σ) (mends : Call → Bool) (keeps : Notice → Bool) : Visit (Mended σ) :=
  { v.on (⟨v.page, mends⟩ : Mended σ) with notices := v.notices.filter keeps }

namespace Visit

variable [Page σ] {mends : Call → Bool} {keeps : Notice → Bool}

theorem calledAll_mended (v : Visit σ) (cs : List Call) :
    (v.mended mends keeps).calledAll cs = (v.calledAll cs).mended mends keeps := by
  induction cs generalizing v with
  | nil => rfl
  | cons c cs ih => exact ih (v.called c)

/-- What that page answers is answered. -/
theorem isAnswer_of_mem_heard_mended {v : Visit σ} {cs : List Call} (hcs : ∀ c ∈ cs, mends c = true)
    {e : Call × Reply} (he : e ∈ (v.mended mends keeps).heard cs) : e.2.IsAnswer := by
  induction cs generalizing v with
  | nil => cases he
  | cons c cs ih =>
      obtain ⟨hc, hcs⟩ := List.forall_mem_cons.1 hcs
      rcases List.mem_cons.1 he with rfl | he
      · exact ⟨.null, if_pos hc⟩
      · exact ih (v := v.called c) hcs he

end Visit

namespace Browse

variable [Page σ]

/-- On a page with such replies a computation comes to the same as another one on the page that answers some calls,
and the visits that they leave differ in nothing else; the first one leaves a page with such replies. -/
def Indifferent (R : Call → Reply → Prop) (mends : Call → Bool) (keeps : Notice → Bool) (b : Browse σ α)
    (b' : Browse (Mended σ) α) : Prop :=
  ∀ v, Page.Replies R v.page → Page.Replies R (b.run.run v).2.page ∧
    b'.run.run (v.mended mends keeps) = ((b.run.run v).1, (b.run.run v).2.mended mends keeps)

namespace Indifferent

variable {R : Call → Reply → Prop} {mends : Call → Bool} {keeps : Notice → Bool} {b : Browse σ α}
  {b' : Browse (Mended σ) α}

/-! ## Putting computations together -/

theorem of_quiet (h : ∀ v, (b.run.run v).2.page = v.page ∧
    b'.run.run (v.mended mends keeps) = ((b.run.run v).1, (b.run.run v).2.mended mends keeps)) :
    Indifferent R mends keeps b b' := by
  intro v hv
  obtain ⟨hpage, hsame⟩ := h v
  rw [hpage]
  exact ⟨hv, hsame⟩

theorem pure (a : α) :
    Indifferent R mends keeps (Pure.pure a : Browse σ α) (Pure.pure a : Browse (Mended σ) α) :=
  of_quiet fun _ => ⟨rfl, rfl⟩

theorem throw (f : Failure) :
    Indifferent R mends keeps (MonadExcept.throw f : Browse σ α) (MonadExcept.throw f : Browse (Mended σ) α) :=
  of_quiet fun _ => ⟨rfl, rfl⟩

theorem bind {k : α → Browse σ β} {k' : α → Browse (Mended σ) β} (h : Indifferent R mends keeps b b')
    (hk : ∀ a, Indifferent R mends keeps (k a) (k' a)) : Indifferent R mends keeps (b >>= k) (b' >>= k') := by
  intro v hv
  obtain ⟨hpage, hsame⟩ := h v hv
  rw [run_bind, run_bind, hsame]
  rcases hb : b.run.run v with ⟨r, w⟩
  rw [hb] at hpage
  cases r with
  | ok a => exact hk a w hpage
  | error f => exact ⟨hpage, rfl⟩

/-- Two computations of which the second does not look at what the first one answers. -/
theorem andThen {b : Browse σ Unit} {b' : Browse (Mended σ) Unit} {k : Unit → Browse σ β}
    {k' : Unit → Browse (Mended σ) β} (h : Indifferent R mends keeps b b')
    (hk : Indifferent R mends keeps (k ()) (k' ())) : Indifferent R mends keeps (b >>= k) (b' >>= k') :=
  h.bind fun _ => hk

theorem judge {k : Except Failure α → Browse σ β} {k' : Except Failure α → Browse (Mended σ) β}
    (h : Indifferent R mends keeps b b') (hk : ∀ r, Indifferent R mends keeps (k r) (k' r)) :
    Indifferent R mends keeps (b.attempt >>= k) (b'.attempt >>= k') := by
  intro v hv
  obtain ⟨hpage, hsame⟩ := h v hv
  rw [run_attempt_bind, run_attempt_bind, hsame]
  exact hk _ _ hpage

theorem discard (h : Indifferent R mends keeps b b') :
    Indifferent R mends keeps (Functor.discard b) (Functor.discard b') := by
  show Indifferent R mends keeps (b >>= fun _ => Pure.pure ()) (b' >>= fun _ => Pure.pure ())
  exact h.bind fun _ => pure ()

theorem ite {c : Browse σ α} {c' : Browse (Mended σ) α} {p : Prop} [Decidable p] (h : Indifferent R mends keeps b b')
    (hc : Indifferent R mends keeps c c') : Indifferent R mends keeps (if p then b else c) (if p then b' else c') := by
  split
  · exact h
  · exact hc

theorem forM {f : α → Browse σ Unit} {f' : α → Browse (Mended σ) Unit} {l : List α}
    (h : ∀ a ∈ l, Indifferent R mends keeps (f a) (f' a)) :
    Indifferent R mends keeps (l.forM f) (l.forM f') := by
  induction l with
  | nil => exact pure ()
  | cons a l ih =>
      refine (h a (List.mem_cons_self ..)).andThen ?_
      exact ih fun b hb => h b (List.mem_cons_of_mem _ hb)

/-! ## What does not ask the page -/

theorem ofFault (x : Except Fault α) :
    Indifferent R mends keeps (Browse.ofFault x : Browse σ α) (Browse.ofFault x : Browse (Mended σ) α) := by
  cases x with
  | ok a => exact pure a
  | error f => exact throw _

theorem tell {n : Notice} (hn : keeps n = true) :
    Indifferent R mends keeps (Browse.tell n : Browse σ Unit) (Browse.tell n : Browse (Mended σ) Unit) := by
  refine of_quiet fun v => ⟨rfl, ?_⟩
  have hnotices : (v.notices ++ [n]).filter keeps = v.notices.filter keeps ++ [n] := by
    rw [List.filter_append, List.filter_cons_of_pos hn, List.filter_nil]
  show (Except.ok (), { v.mended mends keeps with notices := v.notices.filter keeps ++ [n] }) =
    (Except.ok (), { v.mended mends keeps with notices := (v.notices ++ [n]).filter keeps })
  rw [hnotices]

theorem now : Indifferent R mends keeps (Browse.now : Browse σ Nat) (Browse.now : Browse (Mended σ) Nat) :=
  of_quiet fun _ => ⟨rfl, rfl⟩

theorem record (c : Category) (key : String) (m : Measurement) : Indifferent R mends keeps
    (Browse.record c key m : Browse σ Unit) (Browse.record c key m : Browse (Mended σ) Unit) :=
  of_quiet fun _ => ⟨rfl, rfl⟩

theorem timed {b : Browse σ Unit} {b' : Browse (Mended σ) Unit} (h : Indifferent R mends keeps b b') :
    Indifferent R mends keeps b.timed b'.timed :=
  now.bind fun _ => h.andThen (now.bind fun _ => pure _)

/-! ## Calls that both pages reply to alike -/

theorem ask (what : String) {c : Call} (hc : mends c = false) :
    Indifferent R mends keeps (Session.ask what c : Browse σ Value) (Session.ask what c) := by
  intro v hv
  rw [Session.run_ask, Session.run_ask]
  refine ⟨hv.next c v.clock, Prod.ext ?_ rfl⟩
  show Session.answerOf what (if mends c then .answer .null else v.reply c) = _
  rw [hc]
  rfl

theorem order (what : String) {c : Call} (hc : mends c = false) :
    Indifferent R mends keeps (Session.order what c : Browse σ Unit) (Session.order what c) := (ask what hc).discard

theorem askAbout (selector : Value) (what : String → String) {c : Call} (hc : mends c = false) :
    Indifferent R mends keeps (Session.askAbout selector what c : Browse σ Value) (Session.askAbout selector what c) :=
  (ofFault selector.toText?).bind fun _ => ask _ hc

theorem orderAbout (selector : Value) (what : String → String) {c : Call} (hc : mends c = false) :
    Indifferent R mends keeps (Session.orderAbout selector what c : Browse σ Unit)
      (Session.orderAbout selector what c) := (askAbout selector what hc).discard

end Indifferent

end Browse

end SiteTrial
