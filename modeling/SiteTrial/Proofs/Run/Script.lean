import SiteTrial.Proofs.Page.Ends
import SiteTrial.Run.Step

/-!
# What a script can come to

A step looks at a page's answers in three places only: where elements are counted, where the height of the
page is asked for, and where a fetch is timed. On terms for these, every built-in action and every step whose
fields are texts where texts belong ends as it is meant to.

* `Page.ActionTerms` : the terms;
* `ends_signIn`, `BuiltIn.ends_perform` : signing in, and the built-in actions;
* `Step.IsTyped` : a step's fields are of the types that they are declared with;
* `Step.ends_perform` : one such step.
-/

namespace SiteTrial

open Browse (Ends)

/-- Answers with which the built-in actions fail only in ways that are meant. -/
structure Page.ActionTerms (R : Call → Reply → Prop) (E : Failure → Prop) : Prop
    extends Page.Terms R E where
  count : ∀ s v, R (.count s) (.answer v) → ∀ f,
    (v.exceeds 0 = .error f ∨ v.toInteger = .error f) → E (.fault f)
  height : ∀ v, R (.evaluate .scrollHeight) (.answer v) → v.isTruthy = true → ∀ n f,
    v.exceeds n = .error f → E (.fault f)
  time : ∀ url v, R (.evaluate (.apiTiming url)) (.answer v) → v.isNull = false → ∀ f,
    v.toDouble = .error f → E (.fault f)

variable {σ : Type} [Page σ] {R : Call → Reply → Prop} {E : Failure → Prop}

namespace Browse

/-- A failure that is meant may be judged and thrown again. -/
theorem ends_judge {α : Type} {Q : α → Prop} {b : Browse σ α} {k : Except Failure α → Browse σ Unit}
    (h : Ends R E b Q) (hok : ∀ a, Q a → Ends R E (k (.ok a)) fun _ => True)
    (herror : ∀ f, E f → Ends R E (k (.error f)) fun _ => True) :
    Ends R E (b.attempt >>= k) fun _ => True := by
  refine h.attempt.bind fun r hr => ?_
  cases r with
  | ok a => exact hok a (hr.1 a rfl)
  | error f => exact herror f (hr.2 f rfl)

end Browse

/-! ## Signing in -/

namespace SignIn

theorem ends_fillField (h : Page.Terms R E) (field text : String) :
    Ends R E (fillField (.text field) text : Browse σ Unit) fun _ => True :=
  (Session.ends_orderAbout h _ _ _).andThen (Session.ends_orderAbout h _ _ _)

theorem ends_leave (h : Page.Terms R E) (application : String) :
    Ends R E (leave application : Browse σ Unit) fun _ => True := by
  refine Browse.ends_judge (Session.ends_order h _ _) (fun _ _ => .pure trivial) fun f hf => ?_
  cases f with
  | automation e =>
      dsimp only
      split
      · exact .throw (h.automation _)
      · exact .throw hf
  | _ => exact .throw hf

theorem ends_checkAccepted (h : Page.ActionTerms R E) (application : String) :
    Ends R E (checkAccepted application : Browse σ Unit) fun _ => True := by
  refine (Session.ends_askAbout h.toTerms fun v hv => h.count _ v hv).bind fun errors herrors => ?_
  have hexceeds : Ends R E (Browse.ofFault (errors.exceeds 0) : Browse σ Bool) fun _ => True :=
    .ofFault (fun _ _ => trivial) fun f hf => herrors f (.inl hf)
  refine hexceeds.bind fun any _ => ?_
  split
  · exact .throw (h.automation _)
  · exact .pure trivial

end SignIn

theorem ends_signInAs (h : Page.ActionTerms R E) (application : Application) (account : Credentials) :
    Ends R E (signInAs application account : Browse σ SignInTimes) fun _ => True := by
  have hfill := fun field text => (SignIn.ends_fillField h.toTerms field text (σ := σ)).timed
  refine Ends.now.bind fun start _ => ?_
  refine (Session.ends_order h.toTerms _ _).andThen ?_
  refine (hfill _ _).bind fun username _ => ?_
  refine (hfill _ _).bind fun password _ => ?_
  refine (Session.ends_orderAbout h.toTerms _ _ _).timed.bind fun submit _ => ?_
  refine (SignIn.ends_leave h.toTerms _).timed.bind fun redirect _ => ?_
  refine (SignIn.ends_checkAccepted h _).andThen ?_
  exact Ends.now.bind fun _ _ => .pure trivial

theorem ends_signIn (h : Page.ActionTerms R E) (application : Application) :
    Ends R E (signIn application : Browse σ Unit) fun _ => True := by
  unfold signIn
  split
  · exact .throw (h.automation _)
  · exact (ends_signInAs h _ _).bind fun times _ => Ends.forM fun _ _ => Ends.record _ _ _

/-! ## Built-in actions -/

namespace Dashboard

theorem ends_awaitWidgets (h : Page.Terms R E) :
    Ends R E (awaitWidgets : Browse σ Unit) fun _ => True := by
  have hwait : ∀ w ∈ widgets, Ends R E (do return (w.1, ← (Session.waitVisible w.2 appearLimit).attempt) :
      Browse σ (String × Except Failure Unit)) fun o => ∀ f, o.2 = .error f → E f := by
    intro w hw
    have htext : ∃ s, w.2 = .text s := by
      simp only [widgets, List.mem_cons, List.not_mem_nil, or_false] at hw
      rcases hw with rfl | rfl | rfl | rfl <;> exact ⟨_, rfl⟩
    obtain ⟨s, hs⟩ := htext
    rw [hs]
    exact (Session.ends_orderAbout h s _ _).attempt.bind fun r hr => .pure hr.2
  refine (Ends.mapM hwait).bind fun outcomes hmeant => Ends.forM fun o ho => ?_
  have hend := hmeant o ho
  unfold judgeGroup
  cases hr : o.2 with
  | ok u => exact .pure trivial
  | error f =>
      cases f with
      | automation e => exact Ends.tell _
      | _ => exact .throw (hend _ hr)

theorem ends_settle (h : Page.ActionTerms R E) : Ends R E (settle : Browse σ Unit) fun _ => True := by
  refine (Session.ends_askAbout h.toTerms fun v hv => h.count _ v hv).bind fun spinners hspinners => ?_
  have hexceeds : Ends R E (Browse.ofFault (spinners.exceeds 0) : Browse σ Bool) fun _ => True :=
    .ofFault (fun _ _ => trivial) fun f hf => hspinners f (.inl hf)
  have hidle := Session.ends_order h.toTerms "network idle" (.waitForNetworkIdle dataLimit) (σ := σ)
  refine hexceeds.bind fun any _ => ?_
  dsimp only
  split
  · exact (Session.ends_orderAbout h.toTerms _ _ _).andThen hidle
  · exact hidle

theorem ends_awaitData (h : Page.ActionTerms R E) : Ends R E (awaitData : Browse σ Unit) fun _ => True := by
  refine Browse.ends_judge (ends_settle h) (fun _ _ => .pure trivial) fun f hf => ?_
  cases f with
  | automation e =>
      dsimp only
      split
      · exact Ends.tell _
      · exact .throw hf
  | _ => exact .throw hf

theorem ends_measure (h : Page.ActionTerms R E) : Ends R E (measure : Browse σ Unit) fun _ => True := by
  have hwait := fun s what c => (Session.ends_orderAbout h.toTerms s what c (σ := σ)).timed
  have hwatch : Ends R E (watch : Browse σ Times) fun _ => True := by
    refine Ends.now.bind fun start _ => ?_
    refine (hwait _ _ _).bind fun containerTime _ => ?_
    refine (hwait _ _ _).bind fun navigationTime _ => ?_
    refine (ends_awaitWidgets h.toTerms).timed.bind fun widgetsTime _ => ?_
    refine (ends_awaitData h).timed.bind fun dataTime _ => ?_
    exact Ends.now.bind fun _ _ => .pure trivial
  exact hwatch.bind fun times _ => Ends.forM fun _ _ => Ends.record _ _ _

end Dashboard

namespace Upload

theorem ends_perform (h : Page.Terms R E) : Ends R E (perform : Browse σ Unit) fun _ => True := by
  refine Browse.ends_judge (Session.ends_orderAbout h _ _ _) (fun _ _ => .pure trivial) fun f hf => ?_
  cases f with
  | automation e => exact Ends.tell _
  | _ => exact .throw hf

end Upload

namespace ApiTiming

theorem ends_measure (h : Page.ActionTerms R E) (application : Application) :
    Ends R E (measure application : Browse σ Unit) fun _ => True := by
  refine Ends.forM fun endpoint _ => ?_
  have htime : ∀ url, Ends R E (Sampling.apiResponseTime url : Browse σ Float) fun _ => True := by
    intro url
    refine (Session.ends_ask h.toTerms fun v hv => h.time url v hv).bind fun v hv => ?_
    split
    · exact .pure trivial
    · next hnull => exact .ofFault (fun _ _ => trivial) (hv (Bool.eq_false_iff.2 hnull))
  refine (htime _).bind fun time _ => ?_
  unfold record
  split
  · exact Ends.record _ _ _
  · exact .pure trivial

end ApiTiming

namespace Interaction

theorem ends_scroll (h : Page.ActionTerms R E) : Ends R E (scroll : Browse σ Unit) fun _ => True := by
  have hcall := fun what c => Session.ends_order h.toTerms what c (σ := σ)
  refine (Session.ends_ask h.toTerms fun v hv => h.height v hv).bind fun height hheight => ?_
  split
  · next htruthy =>
      have hexceeds : Ends R E (Browse.ofFault (height.exceeds tallPage) : Browse σ Bool) fun _ => True :=
        .ofFault (fun _ _ => trivial) (hheight htruthy _)
      refine hexceeds.bind fun tall _ => ?_
      split
      · exact (hcall _ _).andThen ((hcall _ _).andThen (hcall _ _))
      · exact .pure trivial
  · exact .pure trivial

theorem ends_visitField (h : Page.ActionTerms R E) :
    Ends R E (visitField : Browse σ Unit) fun _ => True := by
  have hcall := fun what c => Session.ends_order h.toTerms what c (σ := σ)
  have hcallAbout := fun s what c => Session.ends_orderAbout h.toTerms s what c (σ := σ)
  refine (Session.ends_askAbout h.toTerms fun v hv => h.count _ v hv).bind fun fields hfields => ?_
  have hexceeds : Ends R E (Browse.ofFault (fields.exceeds 0) : Browse σ Bool) fun _ => True :=
    .ofFault (fun _ _ => trivial) fun f hf => hfields f (.inl hf)
  have hcount : Ends R E (Browse.ofFault fields.toInteger : Browse σ Int) fun _ => True :=
    .ofFault (fun _ _ => trivial) fun f hf => hfields f (.inr hf)
  refine hexceeds.bind fun any _ => ?_
  split
  · refine hcount.bind fun n _ => ?_
    refine (Ends.drawBelow n).bind fun index _ => ?_
    exact (hcallAbout _ _ _).andThen ((hcall _ _).andThen ((hcall _ _).andThen (hcallAbout _ _ _)))
  · exact .pure trivial

theorem ends_simulate (h : Page.ActionTerms R E) : Ends R E (simulate : Browse σ Unit) fun _ => True := by
  have hcall := fun what c => Session.ends_order h.toTerms what c (σ := σ)
  refine Ends.drawFraction.bind fun fraction _ => ?_
  refine (hcall _ _).andThen ((hcall _ _).andThen ((hcall _ _).andThen ((hcall _ _).andThen ?_)))
  exact (ends_scroll h).andThen (ends_visitField h)

end Interaction

namespace Submission

theorem ends_measure (h : Page.Terms R E) (application : Application) (scenario : String) :
    Ends R E (measure application scenario : Browse σ Unit) fun _ => True := by
  have hsubmit : Ends R E (submit application : Browse σ Nat) fun _ => True := by
    refine (Session.ends_orderAbout h _ _ _).andThen ?_
    exact (Session.ends_orderAbout h _ _ _).andThen (Session.ends_order h _ _).timed
  refine hsubmit.bind fun time _ => ?_
  exact (Ends.record _ _ _).andThen (Session.ends_order h _ _)

end Submission

theorem BuiltIn.ends_perform (h : Page.ActionTerms R E) (application : Application) (scenario : String)
    (b : BuiltIn) : Ends R E (b.perform application scenario : Browse σ Unit) fun _ => True := by
  cases b with
  | dashboard => exact Dashboard.ends_measure h
  | upload => exact Upload.ends_perform h.toTerms
  | apiTiming => exact ApiTiming.ends_measure h application
  | interaction => exact Interaction.ends_simulate h
  | submission => exact Submission.ends_measure h.toTerms application scenario
  | login =>
      show Ends R E (signInIfPossible application) _
      unfold signInIfPossible
      split
      · exact Ends.tell _
      · exact ends_signIn h application

/-! ## Steps -/

namespace Step

/-- The fields of a step are of the types that they are declared with; its limit of time and the value to be
filled in are so by nature. -/
def IsTyped : Step → Prop
  | .navigate url _ => ∃ s, url = .text s
  | .click selector _ | .fill selector _ _ => ∃ s, selector = .text s ∧ s ≠ ""
  | .wait selector _ => selector = .null ∨ ∃ s, selector = .text s
  | .custom function _ => ∃ s, function = .text s ∧ s ≠ ""

theorem ends_valueOf (data : TestData) (value : String) :
    Ends R E (valueOf data value : Browse σ String) fun _ => True := by
  refine Ends.get.bind fun v _ => ?_
  refine Ends.andThen (Ends.modify ?_) ?_
  · exact fun _ => rfl
  · exact (Ends.forM fun _ _ => Ends.tell _).andThen (.pure trivial)

theorem ends_call (h : Page.ActionTerms R E) (application : Application) (scenario name : String) :
    Ends R E (call application scenario (.text name) : Browse σ Unit) fun _ => True := by
  unfold call
  dsimp only
  -- the registry need not be known
  generalize BuiltIn.registry.get? name = found
  cases found with
  | some action => exact BuiltIn.ends_perform h application scenario action
  | none => exact Ends.tell _

/-- A step of which the fields are of their types ends as it is meant to. -/
theorem ends_perform (h : Page.ActionTerms R E) (application : Application) (data : TestData)
    (scenario : String) {st : Step} (hst : st.IsTyped) :
    Ends R E (st.perform application data scenario : Browse σ Unit) fun _ => True := by
  have hcall := fun what c => Session.ends_order h.toTerms what c (σ := σ)
  have hcallAbout := fun s what c => Session.ends_orderAbout h.toTerms s what c (σ := σ)
  cases st with
  | navigate url timeout =>
      obtain ⟨s, rfl⟩ := hst
      have haddress : Ends R E (Browse.ofFault (resolveValue application.baseUrl (.text s)) :
          Browse σ String) fun _ => True := .pure trivial
      exact haddress.bind fun _ _ => hcall _ _
  | click selector timeout =>
      obtain ⟨s, rfl, -⟩ := hst
      exact (hcallAbout _ _ _).andThen ((hcallAbout _ _ _).andThen (hcall _ _))
  | fill selector value timeout =>
      obtain ⟨s, rfl, -⟩ := hst
      refine (hcallAbout _ _ _).andThen ((ends_valueOf data value).bind fun text _ => ?_)
      exact (hcallAbout _ _ _).andThen (hcallAbout _ _ _)
  | wait selector timeout =>
      show Ends R E (waitFor selector timeout) _
      unfold waitFor
      by_cases htruthy : selector.isTruthy = true
      · obtain rfl | ⟨s, rfl⟩ := hst
        · cases htruthy
        · simp only [if_pos htruthy]
          exact hcallAbout _ _ _
      · simp only [if_neg htruthy]
        exact hcall _ _
  | custom function timeout =>
      obtain ⟨s, rfl, -⟩ := hst
      unfold perform
      exact ends_call h application scenario s

end Step

end SiteTrial
