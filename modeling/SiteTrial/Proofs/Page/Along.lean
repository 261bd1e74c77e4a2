import SiteTrial.Page.Session
import SiteTrial.Proofs.Answers

/-!
# What holds from the beginning of a computation to its end

Whatever a computation comes to, it has led from one state of the visit to another by calls, notices and draws, and
by what it recorded. So a relation between an earlier and a later state that holds across each of them, and across
several in a row, holds across the whole computation.

* `Visit.called`, `Session.run_ask` : a visit after a call;
* `Visit.Track` : relations that hold across everything but recording; `Visit.FullTrack` : and across that as well;
* `Browse.Along` : a relation holds across a computation; `Track.bind`, `Track.forM`, `Track.attempt` and the others
  are its rules.
-/

namespace SiteTrial

variable {σ α β : Type}

/-- A visit after a call. -/
def Visit.called [Page σ] (v : Visit σ) (c : Call) : Visit σ :=
  { v with
    page := (Page.respond c v.clock v.page).page
    clock := v.clock + (Page.respond c v.clock v.page).elapsed
    calls := v.calls ++ [c] }

theorem Session.run_ask [Page σ] (what : String) (c : Call) (v : Visit σ) :
    (ask what c).run.run v = (answerOf what (Page.respond c v.clock v.page).reply, v.called c) := by
  show (Browse.of (answerOf what (Page.respond c v.clock v.page).reply)).run.run _ = _
  cases answerOf what (Page.respond c v.clock v.page).reply <;> rfl

/-- However a computation ends, the relation holds between the visit before and the visit behind it. -/
def Browse.Along (ρ : Visit σ → Visit σ → Prop) (b : Browse σ α) : Prop := ∀ v, ρ v (b.run.run v).2

theorem Browse.Along.of_run {ρ : Visit σ → Visit σ → Prop} {b : Browse σ α} {r : Except Failure α} {v w : Visit σ}
    (h : Along ρ b) (hrun : b.run.run v = (r, w)) : ρ v w := by
  have hv := h v
  rwa [hrun] at hv

theorem Browse.Along.ite {ρ : Visit σ → Visit σ → Prop} {b b' : Browse σ α} {p : Prop} [Decidable p]
    (h : Along ρ b) (h' : Along ρ b') : Along ρ (if p then b else b') := by
  split
  · exact h
  · exact h'

namespace Visit

/-- A relation between earlier and later states of a visit that holds across calls, notices, draws and the setting up
of the instrumentation. -/
structure Track [Page σ] (ρ : Visit σ → Visit σ → Prop) : Prop where
  refl : ∀ v, ρ v v
  trans : ∀ u v w, ρ u v → ρ v w → ρ u w
  call : ∀ v c, ρ v (v.called c)
  tell : ∀ v n, ρ v { v with notices := v.notices ++ [n] }
  draw : ∀ v d, ρ v { v with draws := d }
  instrument : ∀ v, ρ v { v with instrumented := true }

/-- A relation that holds across recording as well. -/
structure FullTrack [Page σ] (ρ : Visit σ → Visit σ → Prop) : Prop extends Track ρ where
  record : ∀ v c key m, ρ v { v with recorder := v.recorder.set c key m }

namespace Track

open Browse (Along)

variable [Page σ] {ρ : Visit σ → Visit σ → Prop} {b : Browse σ α}

/-! ## Putting computations together -/

theorem pure (t : Track ρ) (a : α) : Along ρ (Pure.pure a : Browse σ α) := t.refl

theorem throw (t : Track ρ) (f : Failure) : Along ρ (MonadExcept.throw f : Browse σ α) := t.refl

theorem of (t : Track ρ) (x : Except Failure α) : Along ρ (Browse.of x : Browse σ α) := by
  cases x <;> exact t.refl

theorem ofFault (t : Track ρ) (x : Except Fault α) : Along ρ (Browse.ofFault x : Browse σ α) := t.of _

theorem get (t : Track ρ) : Along ρ (MonadStateOf.get : Browse σ (Visit σ)) := t.refl

theorem bind {k : α → Browse σ β} (t : Track ρ) (h : Along ρ b) (hk : ∀ a, Along ρ (k a)) :
    Along ρ (b >>= k) := by
  intro v
  rw [run_bind]
  have hfirst := h v
  rcases hb : b.run.run v with ⟨r, w⟩
  rw [hb] at hfirst
  cases r with
  | ok a => exact t.trans _ _ _ hfirst (hk a w)
  | error f => exact hfirst

/-- Two computations of which the second does not look at what the first one answers. -/
theorem andThen {b : Browse σ Unit} {k : Unit → Browse σ β} (t : Track ρ) (h : Along ρ b)
    (hk : Along ρ (k ())) : Along ρ (b >>= k) := t.bind h fun _ => hk

theorem discard (t : Track ρ) (h : Along ρ b) : Along ρ (Functor.discard b) := by
  show Along ρ (b >>= fun _ => Pure.pure ())
  exact t.bind h fun _ => t.pure ()

/-- Failures may be made good again: what was done until then stays done. -/
theorem attempt (_ : Track ρ) (h : Along ρ b) : Along ρ b.attempt := h

/-- A failure may be judged, and thrown again or not. -/
theorem judge {k : Except Failure α → Browse σ β} (t : Track ρ) (h : Along ρ b) (hk : ∀ r, Along ρ (k r)) :
    Along ρ (b.attempt >>= k) := t.bind (t.attempt h) hk

theorem forM {f : α → Browse σ Unit} {l : List α} (t : Track ρ) (h : ∀ a ∈ l, Along ρ (f a)) :
    Along ρ (l.forM f) := by
  induction l with
  | nil => exact t.pure ()
  | cons a l ih =>
      refine t.andThen (h a (List.mem_cons_self ..)) ?_
      exact ih fun b hb => h b (List.mem_cons_of_mem _ hb)

theorem mapM {f : α → Browse σ β} {l : List α} (t : Track ρ) (h : ∀ a ∈ l, Along ρ (f a)) :
    Along ρ (l.mapM f) := by
  induction l with
  | nil =>
      rw [List.mapM_nil]
      exact t.pure []
  | cons a l ih =>
      rw [List.mapM_cons]
      refine t.bind (h a (List.mem_cons_self ..)) fun b => ?_
      exact t.bind (ih fun c hc => h c (List.mem_cons_of_mem _ hc)) fun bs => t.pure _

/-! ## What does not ask the page -/

theorem notice (t : Track ρ) (n : Notice) : Along ρ (Browse.tell n : Browse σ Unit) := fun v => t.tell v n

theorem now (t : Track ρ) : Along ρ (Browse.now : Browse σ Nat) := t.bind t.get fun _ => t.pure _

theorem drawBelow (t : Track ρ) (bound : Int) : Along ρ (Browse.drawBelow bound : Browse σ Int) :=
  fun v => t.draw v v.draws.next

theorem drawFraction (t : Track ρ) : Along ρ (Browse.drawFraction : Browse σ Float) :=
  fun v => t.draw v v.draws.next

theorem timed {b : Browse σ Unit} (t : Track ρ) (h : Along ρ b) : Along ρ b.timed :=
  t.bind t.now fun _ => t.andThen h (t.bind t.now fun _ => t.pure _)

/-! ## Calls -/

theorem url (t : Track ρ) : Along ρ (Session.url : Browse σ String) := t.bind t.get fun _ => t.pure _

theorem ask (t : Track ρ) (what : String) (c : Call) : Along ρ (Session.ask what c : Browse σ Value) := by
  intro v
  rw [Session.run_ask]
  exact t.call v c

theorem order (t : Track ρ) (what : String) (c : Call) : Along ρ (Session.order what c : Browse σ Unit) :=
  t.discard (t.ask what c)

theorem askAbout (t : Track ρ) (selector : Value) (what : String → String) (c : Call) :
    Along ρ (Session.askAbout selector what c : Browse σ Value) :=
  t.bind (t.ofFault selector.toText?) fun _ => t.ask _ c

theorem orderAbout (t : Track ρ) (selector : Value) (what : String → String) (c : Call) :
    Along ρ (Session.orderAbout selector what c : Browse σ Unit) :=
  t.discard (t.askAbout selector what c)

theorem installInstrumentation (t : Track ρ) : Along ρ (Session.installInstrumentation : Browse σ Unit) := by
  refine t.bind t.get fun v => ?_
  have hrun := t.order "instrumentation" (.evaluate .instrumentation)
  dsimp only
  split
  · refine t.andThen (t.order _ _) (t.andThen ?_ hrun)
    exact t.instrument
  · exact hrun

end Track

end Visit

end SiteTrial
