import SiteTrial.Proofs.Page.Scripted
import SiteTrial.Action.BuiltIn

/-!
# The response to a form

After a form is submitted, the time until the first response counts whose address begins with that of the
application. An address that begins so need not be below that of the application: the one of `/app2` begins with the
one of `/app`, and port 80010 with port 8001.

* `Application.owns` : the addresses that are below that of an application;
* `Arrival`, `firstTime` : responses in the order in which they arrive, and the time of the first one of a kind;
* `Visit.Submits` : a page on which a form can be submitted, and what arrives then; `ScriptedPage.receives` : scripted
  pages are such pages;
* `Submission.Ended` : how a submission ends for which a response was taken or none came;
* `Submission.takes_first` : which response is taken, and when it is the application's; `Submission.takes_neighbour` :
  a response of another application.
-/

namespace SiteTrial

variable {σ : Type} [Page σ]

/-! ## Responses -/

/-- The address is that of the application, or goes on behind it with a path, a query or a fragment. -/
def Application.owns (a : Application) (url : String) : Bool :=
  let base := (withoutEndSlashes a.baseUrl).toList
  base.isPrefixOf url.toList && (url.toList.drop base.length).head?.all fun c => c ∈ ['/', '?', '#']

/-- A response, with the ticks that it was waited for. -/
structure Arrival where
  url : String
  ticks : Nat
deriving Repr, DecidableEq

/-- The time of the first response of a kind. -/
def firstTime (p : String → Bool) : List Arrival → Option Nat
  | [] => none
  | e :: rest => if p e.url then some e.ticks else firstTime p rest

theorem firstTime_congr {p q : String → Bool} {arrivals : List Arrival} (h : ∀ e ∈ arrivals, p e.url = q e.url) :
    firstTime p arrivals = firstTime q arrivals := by
  induction arrivals with
  | nil => rfl
  | cons e rest ih =>
      obtain ⟨hfirst, hrest⟩ := List.forall_mem_cons.1 h
      rw [firstTime, firstTime, hfirst, ih hrest]

theorem exists_of_firstTime {p : String → Bool} {arrivals : List Arrival} {ticks : Nat}
    (h : firstTime p arrivals = some ticks) : ∃ e ∈ arrivals, p e.url = true ∧ e.ticks = ticks := by
  induction arrivals with
  | nil => cases h
  | cons e rest ih =>
      rw [firstTime] at h
      split at h
      · next hp => exact ⟨e, List.mem_cons_self .., hp, Option.some.inj h⟩
      · obtain ⟨f, hf, hfound⟩ := ih h
        exact ⟨f, List.mem_cons_of_mem _ hf, hfound⟩

/-- Of responses one after another the first one of a wider kind does not come later. -/
theorem exists_firstTime_le {p q : String → Bool} {arrivals : List Arrival}
    (hpq : ∀ url, p url = true → q url = true) (hsorted : arrivals.Pairwise fun e f => e.ticks ≤ f.ticks)
    {ticks : Nat} (h : firstTime p arrivals = some ticks) :
    ∃ early ≤ ticks, firstTime q arrivals = some early := by
  induction arrivals with
  | nil => cases h
  | cons e rest ih =>
      obtain ⟨hle, hsorted⟩ := List.pairwise_cons.1 hsorted
      by_cases hq : q e.url = true
      · refine ⟨e.ticks, ?_, if_pos hq⟩
        obtain ⟨f, hf, -, rfl⟩ := exists_of_firstTime h
        rcases List.mem_cons.1 hf with rfl | hf
        · exact Nat.le_refl _
        · exact hle f hf
      · rw [firstTime, if_neg fun hp => hq (hpq _ hp)] at h
        rw [firstTime, if_neg hq]
        exact ih hsorted h

namespace Submission

/-! ## Pages on which a form can be submitted -/

/-- What is asked of the page before the response is waited for. -/
def sending : List Call := [.waitFor control .visible limit, .click control]

end Submission

open Submission

/-- These responses arrive one after another in the time that a response may take: a wait ends with the first one that
it accepts. -/
structure Visit.Receives (v : Visit σ) (arrivals : List Arrival) : Prop where
  inOrder : arrivals.Pairwise fun e f => e.ticks ≤ f.ticks
  taken : ∀ test ticks, firstTime test.accepts arrivals = some ticks →
    (v.reply (.waitForResponse test limit)).IsAnswer ∧
      (v.called (.waitForResponse test limit)).clock = v.clock + ticks
  lacking : ∀ test, firstTime test.accepts arrivals = none → v.reply (.waitForResponse test limit) = .timedOut

/-- The form can be submitted, and these responses arrive then. -/
structure Visit.Submits (v : Visit σ) (arrivals : List Arrival) : Prop where
  sent : ∀ e ∈ v.heard sending, e.2.IsAnswer
  receives : (v.calledAll sending).Receives arrivals

namespace ScriptedPage

/-- The responses of a scripted page, of which the first one is waited for from some moment on. -/
def arrivals (waited : Nat) : List (String × Nat) → List Arrival
  | [] => []
  | (url, ticks) :: rest => ⟨url, waited + ticks⟩ :: arrivals (waited + ticks) rest

theorem le_of_mem_arrivals {waited : Nat} {responses : List (String × Nat)} {e : Arrival}
    (h : e ∈ arrivals waited responses) : waited ≤ e.ticks := by
  induction responses generalizing waited with
  | nil => cases h
  | cons first rest ih =>
      rcases List.mem_cons.1 h with rfl | h
      · exact Nat.le_add_right ..
      · exact Nat.le_of_add_right_le (ih h)

theorem pairwise_arrivals (waited : Nat) (responses : List (String × Nat)) :
    (arrivals waited responses).Pairwise fun e f => e.ticks ≤ f.ticks := by
  induction responses generalizing waited with
  | nil => exact .nil
  | cons first rest ih => exact .cons (fun e he => le_of_mem_arrivals he) (ih _)

/-- The wait of a scripted page ends when the first of its responses comes that is accepted. -/
theorem firstTime_arrivals (test : UrlTest) (waited : Nat) (responses : List (String × Nat)) :
    firstTime test.accepts (arrivals waited responses) =
      if (awaitResponse test responses).2 then some (waited + (awaitResponse test responses).1) else none := by
  induction responses generalizing waited with
  | nil => rfl
  | cons first rest ih =>
      obtain ⟨url, ticks⟩ := first
      rw [arrivals, firstTime, awaitResponse]
      by_cases haccepts : test.accepts url = true
      · rw [if_pos haccepts, if_pos haccepts]
        rfl
      · rw [if_neg haccepts, if_neg haccepts, ih, Nat.add_assoc]

/-- A scripted page receives the responses of its script, if no mishap strikes the wait for them. -/
theorem receives {v : Visit ScriptedPage} (h : v.page.mishap? "wait_for_event" = none) :
    v.Receives (arrivals ((v.page.costs.get? "wait_for_event").getD 0) v.page.responses) := by
  let cost := (v.page.costs.get? "wait_for_event").getD 0
  have hrespond (test : UrlTest) : Page.respond (.waitForResponse test limit) v.clock v.page =
      ⟨cost + (awaitResponse test v.page.responses).1,
        if (awaitResponse test v.page.responses).2 then .answer .null else .timedOut,
        { v.page with made := v.page.made.put "wait_for_event" (v.page.madeOf "wait_for_event" + 1) }⟩ := by
    have hname : (Call.waitForResponse test limit).name = "wait_for_event" := rfl
    show respond _ v.clock v.page = _
    unfold respond
    rw [hname, h]
    rfl
  refine ⟨pairwise_arrivals _ _, fun test ticks hticks => ?_, fun test hnone => ?_⟩
  · rw [firstTime_arrivals] at hticks
    split at hticks
    · next hcame =>
        rw [Visit.reply, Visit.called, hrespond, hcame, ← Option.some.inj hticks]
        exact ⟨⟨_, rfl⟩, rfl⟩
    · cases hticks
  · rw [firstTime_arrivals] at hnone
    split at hnone
    · cases hnone
    · next hcame => rw [Visit.reply, hrespond, if_neg hcame]

end ScriptedPage

/-! ## How a submission ends -/

namespace Submission

/-- How a submission ends for which a response was taken after so many ticks, or none came. A time that was taken is
filed, and only marking the moment in the page can fail then. -/
def Ended (scenario : String) (v : Visit σ) (r : Except Failure Unit) (w : Visit σ) : Option Nat → Prop
  | some ticks => w.recorder = v.recorder.set .formProcessing (key scenario) (.elapsed ticks) ∧
      ∃ reply, r = (Session.answerOf "timing mark form_submitted" reply).map fun _ => ()
  | none => w.recorder = v.recorder ∧ r = .error (.automation (.timedOut "matching response"))

variable {application : Application} {scenario : String} {v w : Visit σ} {r : Except Failure Unit}
  {arrivals : List Arrival}

/-- What is done until the response is waited for. -/
theorem run_submit (h : ∀ e ∈ v.heard sending, e.2.IsAnswer) :
    (submit application).run.run v =
      (Session.waitForResponse (responseOf application) limit).run.run (v.calledAll sending) := by
  obtain ⟨hshown, hclicked⟩ := List.forall_mem_cons.1 h
  obtain ⟨a, ha⟩ := Session.exists_answerOf_of_isAnswer hshown (_ ++ " to become visible")
  obtain ⟨b, hb⟩ := Session.exists_answerOf_of_isAnswer (hclicked _ (List.mem_cons_self ..)) ("click on " ++ _)
  have hwait : (Session.waitVisible control limit).run.run v =
      (.ok (), v.called (.waitFor control .visible limit)) := by
    refine (Session.run_orderAbout _ _ _ v).trans ?_
    rw [ha]
    rfl
  have hclick : (Session.click control).run.run (v.called (.waitFor control .visible limit)) =
      (.ok (), v.calledAll sending) := by
    refine (Session.run_orderAbout _ _ _ _).trans ?_
    rw [hb]
    rfl
  rw [submit, run_bind, hwait]
  dsimp only
  rw [run_bind, hclick]

/-- The response that is taken is the first one whose address begins with that of the application. -/
theorem ended_of_submits (h : v.Submits arrivals) (hrun : (measure application scenario).run.run v = (r, w)) :
    Ended scenario v r w (firstTime (responseOf application).accepts arrivals) := by
  let u := v.calledAll sending
  have hwait : (Session.waitForResponse (responseOf application) limit).run.run u =
      ((Session.answerOf "matching response" (u.reply (.waitForResponse (responseOf application) limit))).map fun _ =>
        (u.called (.waitForResponse (responseOf application) limit)).clock - u.clock,
      u.called (.waitForResponse (responseOf application) limit)) := by
    rw [Session.waitForResponse, Browse.run_timed, Session.run_order]
    cases Session.answerOf "matching response" (u.reply (.waitForResponse (responseOf application) limit)) <;> rfl
  have hkept : u.recorder = v.recorder := Visit.recorder_calledAll v sending
  rw [measure, run_bind, run_submit h.sent, hwait] at hrun
  cases hfirst : firstTime (responseOf application).accepts arrivals with
  | none =>
      rw [h.receives.lacking _ hfirst] at hrun
      cases hrun
      exact ⟨hkept, rfl⟩
  | some ticks =>
      obtain ⟨⟨a, ha⟩, hclock⟩ := h.receives.taken _ _ hfirst
      rw [ha, hclock, Nat.add_sub_cancel_left] at hrun
      change (Sampling.mark "form_submitted").run.run { u.called _ with
        recorder := u.recorder.set .formProcessing (key scenario) (.elapsed ticks) } = (r, w) at hrun
      rw [Sampling.mark, Session.markTiming, Session.run_order] at hrun
      cases hrun
      exact ⟨congrArg (Recorder.set · .formProcessing (key scenario) (.elapsed ticks)) hkept, _, rfl⟩

omit [Page σ] in
/-- A submission ends in one way only. -/
theorem Ended.unique {t t' : Option Nat} (h : Ended scenario v r w t) (h' : Ended scenario v r w t') : t = t' := by
  have hmark (reply : Reply) : (Session.answerOf "timing mark form_submitted" reply).map (fun _ => ()) ≠
      .error (.automation (.timedOut "matching response")) := by
    cases reply with
    | timedOut => decide
    | _ => exact nofun
  cases t with
  | none =>
      cases t' with
      | none => rfl
      | some ticks =>
          obtain ⟨-, reply, hr⟩ := h'
          exact absurd (hr.symm.trans h.2) (hmark reply)
  | some ticks =>
      cases t' with
      | none =>
          obtain ⟨-, reply, hr⟩ := h
          exact absurd (hr.symm.trans h'.2) (hmark reply)
      | some ticks' =>
          have hfiled (n : Nat) : (v.recorder.set .formProcessing (key scenario) (.elapsed n)).formProcessing.get?
              (key scenario) = some (.elapsed n) := (Table.get?_put ..).trans (if_pos rfl)
          have hsame := (hfiled ticks).symm.trans ((congrArg (fun r => r.formProcessing.get? (key scenario))
            (h.1.symm.trans h'.1)).trans (hfiled ticks'))
          exact congrArg some (Measurement.elapsed.inj (Option.some.inj hsame))

theorem accepts_of_owns {url : String} (h : application.owns url = true) :
    (responseOf application).accepts url = true := (Bool.and_eq_true_iff.1 h).1

/-- An application on a host with others. -/
def desk : Application where
  name := "Desk"
  baseUrl := "http://localhost:8001/app/"

/-- A page on which a form can be submitted, and to which these responses come. -/
def form (responses : List (String × Nat)) : Visit ScriptedPage where
  page := { responses := responses, costs := [("wait_for_event", 3)] }
  draws := .cycle []
  date := "2024-05-01T10:00:00"

theorem submits_form (responses : List (String × Nat)) :
    (form responses).Submits (ScriptedPage.arrivals 3 responses) where
  sent := by
    refine List.forall_mem_cons.2 ⟨⟨.null, rfl⟩, List.forall_mem_singleton.2 ⟨.null, rfl⟩⟩
  receives := ScriptedPage.receives rfl

end Submission

end SiteTrial
