import SiteTrial.Proofs.Page.Along

/-!
# A page that fails a call

Two pages may be alike until one of them fails a call. What a visit does on the one it does on the other up to this
call, and no further, unless somebody makes nothing of the failure. One rule for each way of putting computations
together carries this from single calls to whole scripts.

* `Page.FailsAfter` : a page that is like another one for some calls, and fails the next one;
* `Failing`, `Failing.failsAfter` : every page has one like it;
* `Visit.on` : a visit with another page in it;
* `Browse.Stops` : two computations of which the second one, on such a page, goes as far as the failing call and
  ends there; `Stops.bind`, `Stops.forM`, `Stops.judge` and the others are its rules;
* `Session.stops_ask` : a call.
-/

namespace SiteTrial

variable {σ τ α β : Type}

/-- The browser failed the call: it took too long, or was refused. -/
def Reply.IsFailure : Reply → Prop
  | .timedOut | .refused _ => True
  | .answer _ | .broke _ => False

theorem Session.answerOf_of_isFailure {reply : Reply} (h : reply.IsFailure) (what : String) :
    ∃ e, answerOf what reply = .error (.automation e) := by
  cases reply with
  | timedOut => exact ⟨_, rfl⟩
  | refused message => exact ⟨_, rfl⟩
  | answer _ | broke _ => exact h.elim

/-! ## Pages -/

/-- A page shows what another one shows and replies as it does for so many calls, and the browser fails the next
one, whichever that is. -/
def Page.FailsAfter [Page σ] [Page τ] : Nat → σ → τ → Prop
  | 0, p, q => url q = url p ∧ ∀ c now, (respond c now q).reply.IsFailure
  | n + 1, p, q => url q = url p ∧ ∀ c now, (respond c now q).reply = (respond c now p).reply ∧
      (respond c now q).elapsed = (respond c now p).elapsed ∧
      FailsAfter n (respond c now p).page (respond c now q).page

theorem Page.FailsAfter.url_eq [Page σ] [Page τ] {n : Nat} {p : σ} {q : τ} (h : FailsAfter n p q) :
    url q = url p := by
  cases n with
  | zero => exact h.1
  | succ n => exact h.1

/-- A page of which the browser fails a call after some others. -/
structure Failing (σ : Type) where
  page : σ
  /-- How many calls are left before that. -/
  left : Nat
  /-- How it fails. -/
  mishap : Reply

instance [Page σ] : Page (Failing σ) where
  url p := Page.url p.page
  respond c now p :=
    match p.left with
    | 0 => ⟨0, p.mishap, p⟩
    | n + 1 =>
      let r := Page.respond c now p.page
      ⟨r.elapsed, r.reply, { p with page := r.page, left := n }⟩

theorem Failing.failsAfter [Page σ] (p : σ) (n : Nat) {mishap : Reply} (h : mishap.IsFailure) :
    Page.FailsAfter n p (⟨p, n, mishap⟩ : Failing σ) := by
  induction n generalizing p with
  | zero => exact ⟨rfl, fun _ _ => h⟩
  | succ n ih => exact ⟨rfl, fun c now => ⟨rfl, rfl, ih (Page.respond c now p).page⟩⟩

/-- The same visit with another page in it. -/
def Visit.on (v : Visit σ) (q : τ) : Visit τ where
  page := q
  instrumented := v.instrumented
  calls := v.calls
  toSurroundings := v.toSurroundings
  recorder := v.recorder

/-! ## Putting computations together -/

namespace Browse

variable [Page σ] [Page τ]

/-- Whatever calls a computation makes on a page: if the other page does not fail one of them, the other
computation does the same there, and otherwise it makes them up to the one that fails, and ends with it. -/
def Stops (b : Browse σ α) (b' : Browse τ α) : Prop :=
  ∀ v v' r, b.run.run v = (r, v') → ∃ log, v'.calls = v.calls ++ log ∧ ∀ n q, Page.FailsAfter n v.page q →
    (log.length ≤ n ∧ ∃ q', Page.FailsAfter (n - log.length) v'.page q' ∧
      b'.run.run (v.on q) = (r, v'.on q')) ∨
    (n < log.length ∧ ∃ e w, b'.run.run (v.on q) = (.error (.automation e), w) ∧
      w.calls = v.calls ++ log.take (n + 1))

namespace Stops

variable {b : Browse σ α} {b' : Browse τ α}

/-- A computation that makes no call, and looks at nothing of the page but what both have in common. -/
theorem of_quiet (h : ∀ v, ∃ r v', b.run.run v = (r, v') ∧ v'.page = v.page ∧ v'.calls = v.calls ∧
    ∀ n (q : τ), Page.FailsAfter n v.page q → b'.run.run (v.on q) = (r, v'.on q)) : Stops b b' := by
  intro v v' r hr
  obtain ⟨r₁, v₁, hr₁, hpage, hcalls, hsame⟩ := h v
  rw [hr] at hr₁
  cases hr₁
  refine ⟨[], by simpa using hcalls, fun n q hq => .inl ⟨Nat.zero_le n, q, ?_, hsame n q hq⟩⟩
  rw [hpage]
  exact hq

theorem pure (a : α) : Stops (Pure.pure a : Browse σ α) (Pure.pure a : Browse τ α) :=
  of_quiet fun v => ⟨.ok a, v, rfl, rfl, rfl, fun _ _ _ => rfl⟩

theorem throw (f : Failure) :
    Stops (MonadExcept.throw f : Browse σ α) (MonadExcept.throw f : Browse τ α) :=
  of_quiet fun v => ⟨.error f, v, rfl, rfl, rfl, fun _ _ _ => rfl⟩

theorem of (x : Except Failure α) : Stops (Browse.of x : Browse σ α) (Browse.of x : Browse τ α) := by
  cases x with
  | ok a => exact pure a
  | error f => exact throw f

theorem modify {f : Visit σ → Visit σ} {f' : Visit τ → Visit τ} (hpage : ∀ v, (f v).page = v.page)
    (hcalls : ∀ v, (f v).calls = v.calls) (hsame : ∀ v q, f' (v.on q) = (f v).on q) :
    Stops (modify f : Browse σ Unit) (modify f' : Browse τ Unit) := by
  refine of_quiet fun v => ⟨.ok (), f v, rfl, hpage v, hcalls v, fun _ q _ => ?_⟩
  show (Except.ok (), f' (v.on q)) = _
  rw [hsame]

/-- What follows may look at what the first computation came to, as long as it does not make good again that the
browser failed a call. -/
theorem follow {c : Browse σ β} {c' : Browse τ β} (k : Except Failure α → Browse σ β)
    (k' : Except Failure α → Browse τ β) (h : Stops b b')
    (hc : ∀ v, c.run.run v = (k (b.run.run v).1).run.run (b.run.run v).2)
    (hc' : ∀ w, c'.run.run w = (k' (b'.run.run w).1).run.run (b'.run.run w).2)
    (hk : ∀ r, Stops (k r) (k' r))
    (hagain : ∀ e w, ∃ e', (k' (.error (.automation e))).run.run w = (.error (.automation e'), w)) :
    Stops c c' := by
  intro v v' r hr
  rw [hc] at hr
  rcases hb : b.run.run v with ⟨r₁, v₁⟩
  rw [hb] at hr
  obtain ⟨log₁, hlog₁, hends₁⟩ := h v v₁ r₁ hb
  obtain ⟨log₂, hlog₂, hends₂⟩ := hk r₁ v₁ v' r hr
  refine ⟨log₁ ++ log₂, by rw [hlog₂, hlog₁, List.append_assoc], fun n q hq => ?_⟩
  rw [List.length_append, hc']
  rcases hends₁ n q hq with ⟨hle, q₁, hq₁, hsame⟩ | ⟨hlt, e, w, hfail, hcalls⟩
  · rw [hsame]
    rcases hends₂ _ q₁ hq₁ with ⟨hle₂, q', hq', hsame₂⟩ | ⟨hlt₂, e, w, hfail, hcalls⟩
    · refine .inl ⟨by omega, q', ?_, hsame₂⟩
      rw [Nat.sub_add_eq]
      exact hq'
    · have htake : (log₁ ++ log₂).take (n + 1) = log₁ ++ log₂.take (n - log₁.length + 1) := by
        rw [List.take_append, List.take_of_length_le (by omega), Nat.sub_add_comm hle]
      refine .inr ⟨by omega, e, w, hfail, ?_⟩
      rw [hcalls, hlog₁, htake, List.append_assoc]
  · -- the failing call was made: what the other computation goes on to do is not done here
    obtain ⟨e', hagain⟩ := hagain e w
    refine .inr ⟨by omega, e', w, by rw [hfail, hagain], ?_⟩
    rw [hcalls, List.take_append_of_le_length (by omega)]

/-- A failure of the browser may be judged, if it is thrown again in one form or another. -/
theorem judge {k : Except Failure α → Browse σ β} {k' : Except Failure α → Browse τ β} (h : Stops b b')
    (hk : ∀ r, Stops (k r) (k' r))
    (hagain : ∀ e w, ∃ e', (k' (.error (.automation e))).run.run w = (.error (.automation e'), w)) :
    Stops (b.attempt >>= k) (b'.attempt >>= k') :=
  follow k k' h (fun v => run_bind b.attempt k v) (fun w => run_bind b'.attempt k' w) hk hagain

/-- The second one of two computations is not begun if the first one fails. -/
theorem bind {k : α → Browse σ β} {k' : α → Browse τ β} (h : Stops b b') (hk : ∀ a, Stops (k a) (k' a)) :
    Stops (b >>= k) (b' >>= k') := by
  refine follow (fun r => Browse.of r >>= k) (fun r => Browse.of r >>= k') h (fun v => ?_) (fun w => ?_)
    (fun r => ?_) fun e w => ⟨e, rfl⟩
  · rw [run_bind]
    rcases b.run.run v with ⟨_ | _, _⟩ <;> rfl
  · rw [run_bind]
    rcases b'.run.run w with ⟨_ | _, _⟩ <;> rfl
  · cases r with
    | ok a => exact hk a
    | error f => exact throw f

/-- Two computations of which the second does not look at what the first one answers. -/
theorem andThen {b : Browse σ Unit} {b' : Browse τ Unit} {k : Unit → Browse σ β} {k' : Unit → Browse τ β}
    (h : Stops b b') (hk : Stops (k ()) (k' ())) : Stops (b >>= k) (b' >>= k') := h.bind fun _ => hk

theorem discard (h : Stops b b') : Stops (Functor.discard b) (Functor.discard b') := by
  show Stops (b >>= fun _ => Pure.pure ()) (b' >>= fun _ => Pure.pure ())
  exact h.bind fun _ => pure ()

theorem ite {c : Browse σ α} {c' : Browse τ α} {p : Prop} [Decidable p] (h : Stops b b') (hc : Stops c c') :
    Stops (if p then b else c) (if p then b' else c') := by
  split
  · exact h
  · exact hc

theorem forM {f : α → Browse σ Unit} {f' : α → Browse τ Unit} {l : List α}
    (h : ∀ a ∈ l, Stops (f a) (f' a)) : Stops (l.forM f) (l.forM f') := by
  induction l with
  | nil => exact pure ()
  | cons a l ih =>
      refine (h a (List.mem_cons_self ..)).andThen ?_
      exact ih fun b hb => h b (List.mem_cons_of_mem _ hb)

/-- What a visit holds beside its page may be looked at: in each visit the computations are like two others. -/
theorem of_each (h : ∀ v : Visit σ, ∃ (c : Browse σ α) (c' : Browse τ α), Stops c c' ∧
    b.run.run v = c.run.run v ∧ ∀ q, b'.run.run (v.on q) = c'.run.run (v.on q)) : Stops b b' := by
  intro v v' r hr
  obtain ⟨c, c', hstops, hsame, hsame'⟩ := h v
  rw [hsame] at hr
  obtain ⟨log, hlog, hends⟩ := hstops v v' r hr
  refine ⟨log, hlog, fun n q hq => ?_⟩
  rw [hsame']
  exact hends n q hq

/-! ## What does not ask the page -/

theorem ofFault (x : Except Fault α) :
    Stops (Browse.ofFault x : Browse σ α) (Browse.ofFault x : Browse τ α) := of _

theorem tell (n : Notice) : Stops (Browse.tell n : Browse σ Unit) (Browse.tell n : Browse τ Unit) :=
  modify (fun _ => rfl) (fun _ => rfl) fun _ _ => rfl

theorem now : Stops (Browse.now : Browse σ Nat) (Browse.now : Browse τ Nat) :=
  of_quiet fun v => ⟨.ok v.clock, v, rfl, rfl, rfl, fun _ _ _ => rfl⟩

theorem record (c : Category) (key : String) (m : Measurement) :
    Stops (Browse.record c key m : Browse σ Unit) (Browse.record c key m : Browse τ Unit) :=
  modify (fun _ => rfl) (fun _ => rfl) fun _ _ => rfl

theorem timed {b : Browse σ Unit} {b' : Browse τ Unit} (h : Stops b b') : Stops b.timed b'.timed :=
  now.bind fun _ => h.andThen (now.bind fun _ => pure _)

end Stops

end Browse

/-! ## Calls -/

namespace Session

open Browse (Stops)

variable [Page σ] [Page τ]

/-- A call is made, and the other page may fail it. -/
theorem stops_ask (what : String) (c : Call) :
    Stops (ask what c : Browse σ Value) (ask what c : Browse τ Value) := by
  intro v v' r hr
  rw [run_ask] at hr
  cases hr
  refine ⟨[c], rfl, fun n q hq => ?_⟩
  rw [run_ask]
  cases n with
  | zero =>
      obtain ⟨e, he⟩ := answerOf_of_isFailure (hq.2 c v.clock) what
      exact .inr ⟨Nat.one_pos, e, _, Prod.ext he rfl, rfl⟩
  | succ n =>
      obtain ⟨-, hall⟩ := hq
      obtain ⟨hreply, helapsed, hnext⟩ := hall c v.clock
      refine .inl ⟨by simp, _, hnext, ?_⟩
      show (answerOf what (Page.respond c v.clock q).reply, (v.on q).called c) = _
      have hcalled : (v.on q).called c = (v.called c).on (Page.respond c v.clock q).page := by
        simp only [Visit.called, Visit.on, helapsed]
      rw [hreply, hcalled]

theorem stops_order (what : String) (c : Call) :
    Stops (order what c : Browse σ Unit) (order what c : Browse τ Unit) :=
  (stops_ask what c).discard

theorem stops_askAbout (selector : Value) (what : String → String) (c : Call) :
    Stops (askAbout selector what c : Browse σ Value) (askAbout selector what c : Browse τ Value) :=
  (Stops.ofFault selector.toText?).bind fun _ => stops_ask _ c

theorem stops_orderAbout (selector : Value) (what : String → String) (c : Call) :
    Stops (orderAbout selector what c : Browse σ Unit) (orderAbout selector what c : Browse τ Unit) :=
  (stops_askAbout selector what c).discard

/-- The two pages show the same address as long as no call has failed. -/
theorem stops_url : Stops (url : Browse σ String) (url : Browse τ String) := by
  refine Stops.of_quiet fun v => ⟨.ok (Page.url v.page), v, rfl, rfl, rfl, fun _ q hq => ?_⟩
  show (Except.ok (Page.url q), v.on q) = _
  rw [hq.url_eq]

theorem stops_installInstrumentation :
    Stops (installInstrumentation : Browse σ Unit) (installInstrumentation : Browse τ Unit) := by
  have hrun := stops_order (σ := σ) (τ := τ) "instrumentation" (.evaluate .instrumentation)
  have hinstall := stops_order (σ := σ) (τ := τ) "instrumentation" .addInitScript
  have hset : Stops (modify fun v => { v with instrumented := true } : Browse σ Unit)
      (modify fun v => { v with instrumented := true } : Browse τ Unit) :=
    .modify (fun _ => rfl) (fun _ => rfl) fun _ _ => rfl
  refine Stops.of_each fun ⟨⟨_, instrumented, _⟩, _, _⟩ => ?_
  cases instrumented with
  | false => exact ⟨_, _, hinstall.andThen (hset.andThen hrun), rfl, fun _ => rfl⟩
  | true => exact ⟨_, _, hrun, rfl, fun _ => rfl⟩

end Session

end SiteTrial
