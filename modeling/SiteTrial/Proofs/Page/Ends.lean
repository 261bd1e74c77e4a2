import SiteTrial.Page.Session
import SiteTrial.Proofs.Answers

/-!
# What a computation in a visit can come to

A page may reply to anything at any time, so what a visit comes to is said under a condition on all the
replies that its page can ever give. One rule for each way of putting computations together carries such a
statement from single calls to whole scripts; which replies and which failures are meant is left open.

* `Page.Reaches`, `Page.Replies` : the pages that calls lead to, and what all of them reply;
* `Browse.Ends` : on such a page a computation comes to an answer or a failure of certain kinds, and leaves
  such a page; `Ends.bind`, `Ends.forM`, `Ends.attempt` and the others are its rules;
* `FixedPage` : a page to try them with, which never changes;
* `Page.Terms` : replies that make failures of the meant kind; `Session.ends_ask` : a call on these terms.
-/

namespace SiteTrial

variable {σ α β : Type} [Page σ]

namespace Page

/-- The pages to which calls can lead, at any moments. -/
inductive Reaches (p : σ) : σ → Prop
  | here : Reaches p p
  | next {q : σ} (c : Call) (now : Nat) (h : Reaches p q) : Reaches p (respond c now q).page

theorem Reaches.trans {p q r : σ} (h : Reaches p q) (h' : Reaches q r) : Reaches p r := by
  induction h' with
  | here => exact h
  | next c now _ ih => exact .next c now ih

/-- Whatever is asked of a page, and in whatever order, the replies are of a kind. -/
def Replies (R : Call → Reply → Prop) (p : σ) : Prop :=
  ∀ q, Reaches p q → ∀ c now, R c (respond c now q).reply

theorem Replies.next {R : Call → Reply → Prop} {p : σ} (h : Replies R p) (c : Call) (now : Nat) :
    Replies R (respond c now p).page :=
  fun q hq => h q ((Reaches.next c now .here).trans hq)

/-- Replies that fail a call in ways that are meant: what a browser does is among them, and so is a page
that breaks, if the replies let it. -/
structure Terms (R : Call → Reply → Prop) (E : Failure → Prop) : Prop where
  automation : ∀ e, E (.automation e)
  broke : ∀ c f, R c (.broke f) → E (.fault f)

end Page

/-- A page that replies to a call in the same way whenever it is made. -/
structure FixedPage where
  reply : Call → Reply

instance : Page FixedPage where
  url _ := "about:blank"
  respond c _ p := ⟨1, p.reply c, p⟩

theorem FixedPage.replies {R : Call → Reply → Prop} {p : FixedPage} (h : ∀ c, R c (p.reply c)) :
    Page.Replies R p := by
  intro q hq c now
  have hsame : q = p := by
    induction hq with
    | here => rfl
    | next _ _ _ ih => exact ih
  rw [hsame]
  exact h c

/-- A visit to such a page, at the beginning. -/
def FixedPage.visit (p : FixedPage) : Visit FixedPage :=
  { page := p, draws := .cycle [], date := "2024-05-01T10:00:00" }

namespace Browse

/-- On a page with such replies a computation comes to such an answer or such a failure, and it leaves a page
with such replies. -/
def Ends (R : Call → Reply → Prop) (E : Failure → Prop) (b : Browse σ α) (Q : α → Prop) : Prop :=
  ∀ v v' r, Page.Replies R v.page → b.run.run v = (r, v') →
    Page.Replies R v'.page ∧ (∀ a, r = .ok a → Q a) ∧ ∀ f, r = .error f → E f

namespace Ends

variable {R : Call → Reply → Prop} {E : Failure → Prop} {Q : α → Prop} {Q' : β → Prop} {b : Browse σ α}

/-! ## Putting computations together -/

theorem pure {a : α} (h : Q a) : Ends R E (Pure.pure a : Browse σ α) Q := by
  intro v v' r hv hr
  cases hr
  refine ⟨hv, fun a' ha => ?_, nofun⟩
  cases ha
  exact h

theorem throw {f : Failure} (h : E f) : Ends R E (MonadExcept.throw f : Browse σ α) Q := by
  intro v v' r hv hr
  cases hr
  refine ⟨hv, nofun, fun g hg => ?_⟩
  cases hg
  exact h

theorem bind {k : α → Browse σ β} (h : Ends R E b Q) (hk : ∀ a, Q a → Ends R E (k a) Q') :
    Ends R E (b >>= k) Q' := by
  intro v v' r hv hr
  rw [run_bind] at hr
  rcases hb : b.run.run v with ⟨r₁, v₁⟩
  rw [hb] at hr
  obtain ⟨hv₁, hanswer, hfailure⟩ := h v v₁ r₁ hv hb
  cases r₁ with
  | ok a => exact hk a (hanswer a rfl) v₁ v' r hv₁ hr
  | error f =>
      cases hr
      refine ⟨hv₁, nofun, fun g hg => ?_⟩
      cases hg
      exact hfailure f rfl

/-- Two computations of which the second does not look at what the first one answers. -/
theorem andThen {b' : Browse σ Unit} {k : Unit → Browse σ β} (h : Ends R E b' fun _ => True)
    (hk : Ends R E (k ()) Q') : Ends R E (b' >>= k) Q' := h.bind fun _ _ => hk

theorem discard (h : Ends R E b Q) : Ends R E (Functor.discard b) fun _ => True := by
  show Ends R E (b >>= fun _ => Pure.pure ()) _
  exact h.bind fun _ _ => .pure trivial

/-- What is known of a result without effects is known of it in a visit. -/
theorem of {x : Except Failure α} (hanswer : ∀ a, x = .ok a → Q a) (hfailure : ∀ f, x = .error f → E f) :
    Ends R E (Browse.of x : Browse σ α) Q := by
  cases x with
  | ok a => exact .pure (hanswer a rfl)
  | error f => exact .throw (hfailure f rfl)

theorem ofFault {x : Except Fault α} (hanswer : ∀ a, x = .ok a → Q a)
    (hfailure : ∀ f, x = .error f → E (.fault f)) : Ends R E (Browse.ofFault x : Browse σ α) Q := by
  cases x with
  | ok a => exact .pure (hanswer a rfl)
  | error f => exact .throw (hfailure f rfl)

/-- A computation that leaves the page alone, and cannot fail. -/
theorem of_quiet (h : ∀ v, ∃ a v', b.run.run v = (.ok a, v') ∧ v'.page = v.page) :
    Ends R E b fun _ => True := by
  intro v v' r hv hr
  obtain ⟨a, w, hw, hpage⟩ := h v
  rw [hr] at hw
  cases hw
  refine ⟨?_, fun _ _ => trivial, nofun⟩
  rw [hpage]
  exact hv

theorem get : Ends R E (MonadStateOf.get : Browse σ (Visit σ)) fun _ => True :=
  of_quiet fun v => ⟨v, v, rfl, rfl⟩

theorem modify {f : Visit σ → Visit σ} (h : ∀ v, (f v).page = v.page) :
    Ends R E (modify f : Browse σ Unit) fun _ => True :=
  of_quiet fun v => ⟨(), f v, rfl, h v⟩

/-- Whatever a computation comes to is an answer. -/
theorem attempt (h : Ends R E b Q) : Ends R E b.attempt fun r =>
    (∀ a, r = .ok a → Q a) ∧ ∀ f, r = .error f → E f := by
  intro v v' r hv hr
  rcases hb : b.run.run v with ⟨r₁, v₁⟩
  obtain ⟨hv₁, hends⟩ := h v v₁ r₁ hv hb
  change ((Except.ok (b.run.run v).1 : Except Failure (Except Failure α)), (b.run.run v).2) = _ at hr
  rw [hb] at hr
  cases hr
  refine ⟨hv₁, fun a ha => ?_, nofun⟩
  cases ha
  exact hends

theorem forM {f : α → Browse σ Unit} {l : List α} (h : ∀ a ∈ l, Ends R E (f a) fun _ => True) :
    Ends R E (l.forM f) fun _ => True := by
  induction l with
  | nil => exact .pure trivial
  | cons a l ih =>
      refine (h a (List.mem_cons_self ..)).andThen ?_
      exact ih fun b hb => h b (List.mem_cons_of_mem _ hb)

theorem mapM {f : α → Browse σ β} {l : List α} (h : ∀ a ∈ l, Ends R E (f a) Q') :
    Ends R E (l.mapM f) fun bs => ∀ b ∈ bs, Q' b := by
  induction l with
  | nil =>
      rw [List.mapM_nil]
      exact .pure nofun
  | cons a l ih =>
      rw [List.mapM_cons]
      refine (h a (List.mem_cons_self ..)).bind fun b hb => ?_
      refine (ih fun c hc => h c (List.mem_cons_of_mem _ hc)).bind fun bs hbs => .pure ?_
      exact List.forall_mem_cons.2 ⟨hb, hbs⟩

/-! ## What does not ask the page -/

theorem tell (n : Notice) : Ends R E (Browse.tell n : Browse σ Unit) fun _ => True := modify fun _ => rfl

theorem now : Ends R E (Browse.now : Browse σ Nat) fun _ => True := get.bind fun _ _ => .pure trivial

theorem record (c : Category) (key : String) (m : Measurement) :
    Ends R E (Browse.record c key m : Browse σ Unit) fun _ => True := modify fun _ => rfl

theorem drawBelow (bound : Int) : Ends R E (Browse.drawBelow bound : Browse σ Int) fun _ => True := by
  refine get.bind fun _ _ => andThen (modify ?_) (.pure trivial)
  exact fun _ => rfl

theorem drawFraction : Ends R E (Browse.drawFraction : Browse σ Float) fun _ => True := by
  refine get.bind fun _ _ => andThen (modify ?_) (.pure trivial)
  exact fun _ => rfl

theorem timed {b : Browse σ Unit} (h : Ends R E b fun _ => True) :
    Ends R E b.timed fun _ => True :=
  now.bind fun _ _ => h.andThen (now.bind fun _ _ => .pure trivial)

end Ends

end Browse

/-! ## Calls -/

namespace Session

open Browse (Ends)

variable {R : Call → Reply → Prop} {E : Failure → Prop}

theorem ends_url : Ends R E (url : Browse σ String) fun _ => True := Ends.get.bind fun _ _ => .pure trivial

/-- What a call comes to is what the page replies to it. -/
theorem ends_ask {Q : Value → Prop} {what : String} {c : Call} (h : Page.Terms R E)
    (hQ : ∀ v, R c (.answer v) → Q v) : Ends R E (ask what c : Browse σ Value) Q := by
  intro v v' r hv hr
  have hreply := hv v.page .here c v.clock
  have hnext := hv.next c v.clock
  change (Browse.of (answerOf what (Page.respond c v.clock v.page).reply)).run.run _ = _ at hr
  generalize (Page.respond c v.clock v.page) = response at hr hreply hnext
  have hends : Ends R E (Browse.of (answerOf what response.reply) : Browse σ Value) Q := by
    refine .of (fun a ha => ?_) fun f hf => ?_
    · cases hkind : response.reply with
      | answer w =>
          rw [hkind] at ha hreply
          cases ha
          exact hQ _ hreply
      | timedOut | refused _ | broke _ =>
          rw [hkind] at ha
          cases ha
    · cases hkind : response.reply with
      | answer w =>
          rw [hkind] at hf
          cases hf
      | timedOut =>
          rw [hkind] at hf
          cases hf
          exact h.automation _
      | refused message =>
          rw [hkind] at hf
          cases hf
          exact h.automation _
      | broke g =>
          rw [hkind] at hf hreply
          cases hf
          exact h.broke c g hreply
  exact hends _ v' r hnext hr

/-- A call for its effect. -/
theorem ends_order (h : Page.Terms R E) (what : String) (c : Call) :
    Ends R E (order what c : Browse σ Unit) fun _ => True :=
  (ends_ask h fun _ _ => trivial).discard

/-- A call about the elements of a text selector. -/
theorem ends_askAbout {Q : Value → Prop} {s : String} {what : String → String} {c : Call}
    (h : Page.Terms R E) (hQ : ∀ v, R c (.answer v) → Q v) :
    Ends R E (askAbout (.text s) what c : Browse σ Value) Q := by
  have htext : Ends R E (Browse.ofFault (Value.text s).toText? : Browse σ String) fun _ => True :=
    .ofFault (fun _ _ => trivial) nofun
  exact htext.bind fun _ _ => ends_ask h hQ

theorem ends_orderAbout (h : Page.Terms R E) (s : String) (what : String → String) (c : Call) :
    Ends R E (orderAbout (.text s) what c : Browse σ Unit) fun _ => True :=
  (ends_askAbout h fun _ _ => trivial).discard

theorem ends_installInstrumentation (h : Page.Terms R E) :
    Ends R E (installInstrumentation : Browse σ Unit) fun _ => True := by
  refine Ends.get.bind fun v _ => ?_
  have hrun := ends_order h "instrumentation" (.evaluate .instrumentation) (σ := σ)
  dsimp only
  split
  · refine (ends_order h _ _).andThen (Ends.andThen (Ends.modify ?_) hrun)
    exact fun _ => rfl
  · exact hrun

end Session

end SiteTrial
