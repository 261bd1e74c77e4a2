import SiteTrial.Proofs.Page.Halting
import SiteTrial.Proofs.Page.Mended
import SiteTrial.Proofs.Run.Fresh
import SiteTrial.Proofs.Sample.Filed

/-!
# A dashboard that comes up in part

Watching a dashboard come up is tolerant of some failures and not of others. Here the replies of the page decide: a
group of widgets that does not appear is told and has no other effect, data that does not settle in time is told, and
everything else that fails ends the measurement, of which then nothing is filed.

* `missing`, `run_awaitWidgets` : the groups whose waits failed, and what waiting for all of them comes to;
* `exists_awaitData` : what waiting for the data comes to;
* `Watched`, `exists_watched` : what watching comes to, told by what the page replied;
* `indifferent_measure` : on a page that shows all widgets the same happens, notices apart;
* `measure_tolerant` : all of it, with the times that are filed.
-/

namespace SiteTrial

open Browse (Halts Indifferent)
open Session (Course)

variable {σ : Type} [Page σ]

instance : DecidablePred Reply.IsFailure := fun reply =>
  match reply with
  | .timedOut | .refused _ => inferInstanceAs (Decidable True)
  | .answer _ | .broke _ => inferInstanceAs (Decidable False)

namespace Dashboard

/-! ## Waiting for the widgets -/

/-- The wait for a group of widgets. -/
def waiting (g : String × Value) : Call := .waitFor g.2 .visible appearLimit

/-- The groups whose waits failed. -/
def missing : List (String × Value) → List (Call × Reply) → List String
  | g :: gs, e :: heard => (if e.2.IsFailure then [g.1] else []) ++ missing gs heard
  | _, _ => []

theorem missing_sublist (gs : List (String × Value)) (heard : List (Call × Reply)) :
    (missing gs heard).Sublist (gs.map Prod.fst) := by
  induction gs generalizing heard with
  | nil => exact .slnil
  | cons g gs ih =>
      cases heard with
      | nil => exact List.nil_sublist _
      | cons e heard =>
          have hhead : (if e.2.IsFailure then [g.1] else []).Sublist [g.1] := by
            split
            · exact .refl _
            · exact List.nil_sublist _
          exact hhead.append (ih heard)

theorem missing_eq_nil {gs : List (String × Value)} {heard : List (Call × Reply)}
    (h : ∀ e ∈ heard, ¬ e.2.IsFailure) : missing gs heard = [] := by
  induction gs generalizing heard with
  | nil => rfl
  | cons g gs ih =>
      cases heard with
      | nil => rfl
      | cons e heard =>
          obtain ⟨hhead, htail⟩ := List.forall_mem_cons.1 h
          rw [missing, if_neg hhead, ih htail, List.nil_append]

/-- A group is among them exactly if the page failed the wait for it. -/
theorem mem_missing_iff {gs : List (String × Value)} (hnames : (gs.map Prod.fst).Nodup)
    (hwaits : (gs.map waiting).Nodup) (v : Visit σ) {g : String × Value} (hg : g ∈ gs) :
    g.1 ∈ missing gs (v.heard (gs.map waiting)) ↔
      ∃ reply, (waiting g, reply) ∈ v.heard (gs.map waiting) ∧ reply.IsFailure := by
  induction gs generalizing v with
  | nil => cases hg
  | cons h gs ih =>
      obtain ⟨hname, hnames⟩ := List.nodup_cons.1 hnames
      obtain ⟨hwait, hwaits⟩ := List.nodup_cons.1 hwaits
      have hsplit : v.heard ((h :: gs).map waiting) =
        (waiting h, v.reply (waiting h)) :: (v.called (waiting h)).heard (gs.map waiting) := rfl
      rw [hsplit, missing, List.mem_append]
      rcases List.mem_cons.1 hg with rfl | hg
      · have hrest : g.1 ∉ missing gs ((v.called (waiting g)).heard (gs.map waiting)) :=
          fun hmem => hname ((missing_sublist gs _).subset hmem)
        have hothers : ∀ reply, (waiting g, reply) ∉ (v.called (waiting g)).heard (gs.map waiting) :=
          fun reply hmem => hwait (Visit.mem_of_mem_heard hmem)
        rw [or_iff_left hrest]
        simp [hothers]
      · have hne : g.1 ≠ h.1 := fun heq => hname (heq ▸ List.mem_map_of_mem hg)
        have hother : waiting g ≠ waiting h := fun heq => hwait (heq ▸ List.mem_map_of_mem hg)
        have hhead : g.1 ∉ if (v.reply (waiting h)).IsFailure then [h.1] else [] := by
          split <;> simp [hne]
        rw [or_iff_right hhead, ih hnames hwaits _ hg]
        simp [hother]

/-- What came of a wait is kept, and judged when all groups were waited for. -/
theorem run_await (name s : String) (v : Visit σ) :
    (do return (name, ← (Session.waitVisible (.text s) appearLimit).attempt) :
      Browse σ (String × Except Failure Unit)).run.run v =
      (.ok (name, (Session.answerOf (s ++ " to become visible") (v.reply (waiting (name, .text s)))).map fun _ => ()),
        v.called (waiting (name, .text s))) := by
  rw [Browse.run_attempt_bind, Session.waitVisible, Session.run_orderAbout]
  rfl

omit [Page σ] in
theorem run_judgeGroup (name what : String) {reply : Reply} (h : ∀ f, reply ≠ .broke f) (v : Visit σ) :
    (judgeGroup name ((Session.answerOf what reply).map fun _ => ()) : Browse σ Unit).run.run v =
      (.ok (), { v with
        notices := v.notices ++ (if reply.IsFailure then [name] else []).map .widgetMissing }) := by
  cases reply with
  | answer a =>
      show (Except.ok (), v) = (Except.ok (), { v with notices := v.notices ++ [] })
      rw [List.append_nil]
  | timedOut | refused _ => rfl
  | broke f => exact absurd rfl (h f)

/-- The groups are waited for one after another, and in the end those whose waits failed are told, each once. -/
theorem exists_outcomes {gs : List (String × Value)} (htext : ∀ g ∈ gs, ∃ s, g.2 = .text s) (v : Visit σ)
    (hwhole : ∀ e ∈ v.heard (gs.map waiting), ∀ f, e.2 ≠ .broke f) :
    ∃ outcomes : List (String × Except Failure Unit),
      (gs.mapM fun g => do return (g.1, ← (Session.waitVisible g.2 appearLimit).attempt) : Browse σ _).run.run v =
        (.ok outcomes, v.calledAll (gs.map waiting)) ∧
      ∀ u : Visit σ, (outcomes.forM fun o => judgeGroup o.1 o.2).run.run u = (.ok (), { u with
        notices := u.notices ++ (missing gs (v.heard (gs.map waiting))).map .widgetMissing }) := by
  induction gs generalizing v with
  | nil =>
      refine ⟨[], rfl, fun u => ?_⟩
      show (Except.ok (), u) = (Except.ok (), { u with notices := u.notices ++ [] })
      rw [List.append_nil]
  | cons g gs ih =>
      obtain ⟨name, selector⟩ := g
      obtain ⟨⟨s, rfl⟩, hothers⟩ := List.forall_mem_cons.1 htext
      obtain ⟨hreply, hrest⟩ := List.forall_mem_cons.1 hwhole
      obtain ⟨outcomes, hrun, hjudge⟩ := ih hothers (v.called (waiting (name, .text s))) hrest
      refine ⟨(name, (Session.answerOf (s ++ " to become visible") (v.reply (waiting (name, .text s)))).map fun _ => ())
        :: outcomes, ?_, fun u => ?_⟩
      · rw [List.mapM_cons, run_bind, run_await]
        dsimp only
        rw [run_bind, hrun]
        rfl
      · show (judgeGroup name _ >>= fun _ => outcomes.forM _).run.run u = _
        rw [run_bind, run_judgeGroup _ _ hreply]
        dsimp only
        rw [hjudge, List.append_assoc, ← List.map_append]
        rfl

theorem widgets_texts : ∀ g ∈ widgets, ∃ s, g.2 = .text s := by
  intro g hg
  simp only [widgets, List.mem_cons, List.not_mem_nil, or_false] at hg
  rcases hg with rfl | rfl | rfl | rfl <;> exact ⟨_, rfl⟩

/-- Whatever becomes of the widgets, the dashboard is watched on. -/
theorem run_awaitWidgets (v : Visit σ) (hwhole : ∀ e ∈ v.heard (widgets.map waiting), ∀ f, e.2 ≠ .broke f) :
    (awaitWidgets : Browse σ Unit).run.run v = (.ok (), { v.calledAll (widgets.map waiting) with
      notices := v.notices ++ (missing widgets (v.heard (widgets.map waiting))).map .widgetMissing }) := by
  obtain ⟨outcomes, hrun, hjudge⟩ := exists_outcomes widgets_texts v hwhole
  rw [awaitWidgets, run_bind, hrun]
  dsimp only
  rw [hjudge, Visit.notices_calledAll]

/-! ## Waiting for the data -/

/-- The waits for what every dashboard has. -/
def entrance : List Call := [.waitFor container .visible appearLimit, .waitFor navigation .visible appearLimit]

/-- What is asked until the data is there. -/
def settling : List Call :=
  [.count spinner, .waitFor spinner .detached dataLimit, .waitForNetworkIdle dataLimit]

/-- The page answers the call, a question for a number with one, or the browser fails it. -/
def Plain (c : Call) : Reply → Prop
  | .answer a => ∀ selector, c = .count selector → ∃ n, a = .int n
  | .timedOut | .refused _ => True
  | .broke _ => False

theorem Plain.ne_broke {c : Call} {reply : Reply} (h : Plain c reply) (f : Fault) : reply ≠ .broke f := by
  rintro rfl
  exact h

theorem halts_settle : Halts Plain settling (settle : Browse σ Unit) fun _ _ => True := by
  have hcount : Halts Plain [.count spinner] (Session.count spinner : Browse σ Value) fun _ a => ∃ n, a = .int n :=
    .askAbout _ _ fun a ha => ha spinner rfl
  have hdetached : Halts Plain [.waitFor spinner .detached dataLimit]
      (Session.waitDetached spinner dataLimit : Browse σ Unit) _ := .orderAbout _ _ _
  have hidle : Halts Plain [.waitForNetworkIdle dataLimit]
      (Session.waitForNetworkIdle dataLimit : Browse σ Unit) fun _ _ => True :=
    (Halts.order _ _).mono (.refl _) fun _ _ _ => trivial
  show Halts Plain ([.count spinner] ++ [.waitFor spinner .detached dataLimit, .waitForNetworkIdle dataLimit]) _ _
  refine hcount.bind ?_
  rintro _ _ ⟨n, rfl⟩
  refine (Halts.ofFault (x := Value.exceeds (.int n) 0) rfl).bind fun _ any _ => ?_
  dsimp only
  split
  · exact hdetached.bind fun _ _ _ => hidle
  · exact hidle.mono (List.sublist_cons_self _ _) fun _ _ h => h

/-- What waiting for the data comes to: that it takes too long is told, that the browser refuses is not forgiven. -/
theorem exists_awaitData {v : Visit σ} (hv : Page.Replies Plain v.page) : ∃ log rest r,
    log.Sublist settling ∧ (rest = [] ∨ rest = [.dataUnsettled]) ∧
    (awaitData : Browse σ Unit).run.run v = (r, { v.calledAll log with notices := v.notices ++ rest }) ∧
    ((∃ a, r = .ok a) ↔ ∀ c m, (c, .refused m) ∉ v.heard log) := by
  obtain ⟨log, r, hlog, hrun, hcourse⟩ := halts_settle v hv
  have hquiet : { v.calledAll log with notices := v.notices ++ [] } = v.calledAll log := by
    rw [List.append_nil, ← Visit.notices_calledAll v log]
  have hjudge (k : Except Failure Unit → Browse σ Unit) :
      (settle.attempt >>= k).run.run v = (k r).run.run (v.calledAll log) := by
    rw [Browse.run_attempt_bind, hrun]
  obtain ⟨⟨_, rfl⟩ | ⟨what, rfl⟩, hnone⟩ | ⟨what, c, m, rfl, hrefused⟩ :=
    hcourse.refused_or fun e he => (Visit.replies_heard hv he).ne_broke
  · refine ⟨log, [], .ok (), hlog, .inl rfl, ?_, iff_of_true ⟨(), rfl⟩ hnone⟩
    rw [hquiet, awaitData, hjudge]
    rfl
  · refine ⟨log, [.dataUnsettled], .ok (), hlog, .inr rfl, ?_, iff_of_true ⟨(), rfl⟩ hnone⟩
    rw [awaitData, hjudge, ← Visit.notices_calledAll v log]
    rfl
  · refine ⟨log, [], .error (.automation (.refused what m)), hlog, .inl rfl, ?_,
      iff_of_false nofun fun hnone => hnone c m hrefused⟩
    rw [hquiet, awaitData, hjudge]
    rfl

/-! ## All of it -/

/-- Watching a dashboard until its widgets are waited for: the moment at which it began, and the times until then. -/
def enter : Browse σ (Nat × Nat × Nat) := do
  let start ← Browse.now
  let containerTime ← Browse.timed (Session.waitVisible container appearLimit)
  let navigationTime ← Browse.timed (Session.waitVisible navigation appearLimit)
  return (start, containerTime, navigationTime)

/-- The rest of it. -/
def survey (entered : Nat × Nat × Nat) : Browse σ Times := do
  let widgetsTime ← Browse.timed awaitWidgets
  let dataTime ← Browse.timed awaitData
  return ⟨(← Browse.now) - entered.1, entered.2.1, entered.2.2, widgetsTime, dataTime⟩

theorem watch_eq : (watch : Browse σ Times) = enter >>= survey := by
  simp only [watch, enter, survey, bind_assoc, pure_bind]

theorem halts_enter : Halts Plain entrance (enter : Browse σ _) fun log _ => log = entrance := by
  have hwait (s : String) : Halts Plain [.waitFor (.text s) .visible appearLimit]
      (Session.waitVisible (.text s) appearLimit : Browse σ Unit) _ := .orderAbout _ _ _
  show Halts Plain ([] ++
    ([.waitFor container .visible appearLimit] ++ ([.waitFor navigation .visible appearLimit] ++ []))) _ _
  refine Halts.now.bind ?_
  rintro _ _ rfl
  refine (hwait _).timed.bind ?_
  rintro _ _ rfl
  refine (hwait _).timed.bind ?_
  rintro _ _ rfl
  exact .pure rfl

/-- What watching a dashboard has come to: it has made these calls, these groups of widgets and this notice were told,
and it was given up exactly if a wait for what every dashboard has failed or the browser refused to wait for the
data. -/
structure Watched {α : Type} (v w : Visit σ) (r : Except Failure α) (log : List Call) (absent : List String)
    (rest : List Notice) : Prop where
  called : w.calls = v.calls ++ log
  asked : log.Sublist (entrance ++ (widgets.map waiting ++ settling))
  ends : (∃ a, r = .ok a) ↔ (∀ c ∈ entrance, ∃ a, (c, .answer a) ∈ v.heard log) ∧
    ∀ c ∈ settling, ∀ m, (c, .refused m) ∉ v.heard log
  told : w.notices = v.notices ++ absent.map .widgetMissing ++ rest
  once : absent.Sublist (widgets.map Prod.fst)
  failed : ∀ g ∈ widgets, g.1 ∈ absent ↔ ∃ reply, (waiting g, reply) ∈ v.heard log ∧ reply.IsFailure
  unsettled : rest = [] ∨ rest = [.dataUnsettled]

theorem waiting_not_mem_entrance : ∀ g ∈ widgets, waiting g ∉ entrance := by
  simp [widgets, waiting, entrance, container, navigation]

theorem waiting_not_mem_settling (g : String × Value) : waiting g ∉ settling := by
  simp [waiting, settling]

theorem not_mem_of_settling : ∀ c ∈ settling, c ∉ entrance ∧ c ∉ widgets.map waiting := by
  simp [settling, entrance, waiting]

theorem nodup_entrance : entrance.Nodup := by
  simp [entrance, container, navigation]

theorem nodup_waits : (widgets.map waiting).Nodup := by
  simp [widgets, waiting]

/-- What waiting for the widgets and for the data comes to. -/
theorem exists_survey {u : Visit σ} (hu : Page.Replies Plain u.page) (entered : Nat × Nat × Nat) : ∃ log rest r,
    log.Sublist settling ∧ (rest = [] ∨ rest = [.dataUnsettled]) ∧
    (survey entered : Browse σ Times).run.run u = (r, { u.calledAll (widgets.map waiting ++ log) with
      notices := u.notices ++ (missing widgets (u.heard (widgets.map waiting))).map .widgetMissing ++ rest }) ∧
    ((∃ a, r = .ok a) ↔ ∀ c m, (c, .refused m) ∉ (u.calledAll (widgets.map waiting)).heard log) := by
  have hwidgets := run_awaitWidgets u fun e he => (Visit.replies_heard hu he).ne_broke
  let u' : Visit σ := { u.calledAll (widgets.map waiting) with
    notices := u.notices ++ (missing widgets (u.heard (widgets.map waiting))).map .widgetMissing }
  have hu' : Page.Replies Plain u'.page := Visit.replies_calledAll hu (widgets.map waiting)
  obtain ⟨log, rest, r, hlog, hrest, hdata, hends⟩ := exists_awaitData hu'
  rw [Visit.heard_notices] at hends
  rw [Visit.calledAll_notices] at hdata
  have hsurvey (k : Nat → Browse σ Times) : (Browse.timed awaitWidgets >>= k).run.run u =
      (k (u'.clock - u.clock)).run.run u' := by
    rw [run_bind, Browse.run_timed, hwidgets]
    rfl
  let settled : Visit σ := (u.calledAll (widgets.map waiting)).calledAll log
  let times : Times :=
    ⟨settled.clock - entered.1, entered.2.1, entered.2.2, u'.clock - u.clock, settled.clock - u'.clock⟩
  refine ⟨log, rest, r.map fun _ => times, hlog, hrest, ?_, exists_map_iff.trans hends⟩
  rw [survey, hsurvey, run_bind, Browse.run_timed, hdata, Visit.calledAll_append]
  cases r with
  | ok a => rfl
  | error f => rfl

/-- Where a wait for what every dashboard has fails, nothing else is done. -/
theorem watched_of_halted {v : Visit σ} {log : List Call} {f : Failure} {Q : Nat × Nat × Nat → Prop}
    (hlog : log.Sublist entrance) (hcourse : Course Q (v.heard log) (.error f)) :
    Watched v (v.calledAll log) (.error f : Except Failure Times) log [] [] := by
  cases hcourse with
  | @halted before c reply f what hheard answered hf =>
      have hlast : (c, reply) ∈ v.heard log := hheard ▸ List.mem_concat_self
      have hc : c ∈ entrance := hlog.subset (Visit.mem_of_mem_heard hlast)
      refine ⟨v.calls_calledAll log, hlog.trans (List.sublist_append_left ..), iff_of_false nofun ?_, ?_,
        List.nil_sublist _, fun g hg => ?_, .inl rfl⟩
      · rintro ⟨hanswered, -⟩
        obtain ⟨a, ha⟩ := hanswered c hc
        cases Visit.heard_unique (hlog.nodup nodup_entrance) ha hlast
        cases hf
      · rw [Visit.notices_calledAll]
        simp
      · refine iff_of_false nofun ?_
        rintro ⟨reply, hreply, -⟩
        exact waiting_not_mem_entrance g hg (hlog.subset (Visit.mem_of_mem_heard hreply))

/-- Where they succeed, the waits for the widgets and for the data decide. -/
theorem watched_of_entered {v w : Visit σ} {r : Except Failure Times} {log : List Call} {rest : List Notice}
    (answered : ∀ e ∈ v.heard entrance, e.2.IsAnswer) (hlog : log.Sublist settling)
    (hrest : rest = [] ∨ rest = [.dataUnsettled])
    (hw : w = { (v.calledAll entrance).calledAll (widgets.map waiting ++ log) with
      notices := v.notices ++
        (missing widgets ((v.calledAll entrance).heard (widgets.map waiting))).map .widgetMissing ++ rest })
    (hends : (∃ a, r = .ok a) ↔
      ∀ c m, (c, .refused m) ∉ ((v.calledAll entrance).calledAll (widgets.map waiting)).heard log) :
    Watched v w r (entrance ++ (widgets.map waiting ++ log))
      (missing widgets ((v.calledAll entrance).heard (widgets.map waiting))) rest := by
  have hheard : v.heard (entrance ++ (widgets.map waiting ++ log)) = v.heard entrance ++
      ((v.calledAll entrance).heard (widgets.map waiting) ++
        ((v.calledAll entrance).calledAll (widgets.map waiting)).heard log) := by
    rw [Visit.heard_append, Visit.heard_append]
  have hentered : ∀ c ∈ entrance, ∃ a, (c, .answer a) ∈ v.heard entrance := by
    intro c hc
    rw [← Visit.map_fst_heard v entrance] at hc
    obtain ⟨⟨c, reply⟩, he, rfl⟩ := List.mem_map.1 hc
    obtain ⟨a, rfl⟩ := answered _ he
    exact ⟨a, he⟩
  constructor
  case called =>
    rw [hw, ← Visit.calledAll_append]
    exact v.calls_calledAll _
  case asked => exact (List.Sublist.refl _).append ((List.Sublist.refl _).append hlog)
  case ends =>
    rw [hends, hheard, and_iff_right fun c hc => (hentered c hc).imp fun a ha => List.mem_append_left _ ha]
    constructor
    · intro hnone c hc m hrefused
      obtain ⟨hfirst, hsecond⟩ := not_mem_of_settling c hc
      rcases List.mem_append.1 hrefused with hrefused | hrefused
      · exact hfirst (Visit.mem_of_mem_heard hrefused)
      · rcases List.mem_append.1 hrefused with hrefused | hrefused
        · exact hsecond (Visit.mem_of_mem_heard hrefused)
        · exact hnone c m hrefused
    · intro hnone c m hrefused
      refine hnone c (hlog.subset (Visit.mem_of_mem_heard hrefused)) m ?_
      exact List.mem_append_right _ (List.mem_append_right _ hrefused)
  case told => rw [hw]
  case once => exact missing_sublist _ _
  case failed =>
    intro g hg
    rw [mem_missing_iff (by decide) nodup_waits _ hg, hheard]
    refine exists_congr fun reply => and_congr_left fun _ => ?_
    have hfirst : (waiting g, reply) ∉ v.heard entrance :=
      fun h => waiting_not_mem_entrance g hg (Visit.mem_of_mem_heard h)
    have hlast : (waiting g, reply) ∉ ((v.calledAll entrance).calledAll (widgets.map waiting)).heard log :=
      fun h => waiting_not_mem_settling g (hlog.subset (Visit.mem_of_mem_heard h))
    rw [List.mem_append, or_iff_right hfirst, List.mem_append, or_iff_left hlast]
  case unsettled => exact hrest

theorem exists_watched {v w : Visit σ} {r : Except Failure Times} (hv : Page.Replies Plain v.page)
    (hrun : (watch : Browse σ Times).run.run v = (r, w)) : ∃ log absent rest, Watched v w r log absent rest := by
  obtain ⟨log, r₁, hlog, henter, hcourse⟩ := halts_enter v hv
  rw [watch_eq, run_bind, henter] at hrun
  cases r₁ with
  | error f =>
      cases hrun
      exact ⟨log, [], [], watched_of_halted hlog hcourse⟩
  | ok entered =>
      obtain ⟨answered, rfl⟩ := hcourse.of_ok
      obtain ⟨log, rest, r₂, hlog, hrest, hsurvey, hends⟩ := exists_survey (Visit.replies_calledAll hv entrance) entered
      obtain ⟨rfl, rfl⟩ := Prod.mk.inj (hsurvey.symm.trans hrun)
      exact ⟨_, _, rest, watched_of_entered answered hlog hrest (by rw [Visit.notices_calledAll]) hends⟩

/-! ## A dashboard that shows all its widgets -/

/-- Whether a call waits for a group of widgets. -/
def isWaiting : Call → Bool
  | .waitFor (.text s) .visible _ => widgets.any fun g => g.2.text? == some s
  | _ => false

/-- Whether a notice is about something else than widgets. -/
def isOther : Notice → Bool
  | .widgetMissing _ => false
  | _ => true

theorem isWaiting_of_mem : ∀ c ∈ widgets.map waiting, isWaiting c = true := by
  intro c hc
  obtain ⟨g, hg, rfl⟩ := List.mem_map.1 hc
  obtain ⟨s, hs⟩ := widgets_texts g hg
  rw [waiting, hs]
  exact List.any_eq_true.2 ⟨g, hg, by rw [hs]; exact beq_self_eq_true _⟩

/-- Whichever widgets are missing, nothing follows from it but what is told. -/
theorem indifferent_awaitWidgets :
    Indifferent Plain isWaiting isOther (awaitWidgets : Browse σ Unit) awaitWidgets := by
  intro v hv
  have hanswered : ∀ e ∈ (v.mended isWaiting isOther).heard (widgets.map waiting), e.2.IsAnswer :=
    fun e he => Visit.isAnswer_of_mem_heard_mended isWaiting_of_mem he
  have hshown : missing widgets ((v.mended isWaiting isOther).heard (widgets.map waiting)) = [] := by
    refine missing_eq_nil fun e he => ?_
    obtain ⟨a, ha⟩ := hanswered e he
    rw [ha]
    exact id
  have hmended := run_awaitWidgets (v.mended isWaiting isOther) fun e he f hbroke => by
    obtain ⟨a, ha⟩ := hanswered e he
    cases ha.symm.trans hbroke
  rw [run_awaitWidgets v fun e he => (Visit.replies_heard hv he).ne_broke, hmended, hshown, Visit.calledAll_mended]
  refine ⟨Visit.replies_calledAll hv _, Prod.ext rfl ?_⟩
  have hnone (groups : List String) : (groups.map Notice.widgetMissing).filter isOther = [] := by
    rw [List.filter_map]
    simp [Function.comp_def, isOther]
  let u := (v.calledAll (widgets.map waiting)).mended isWaiting isOther
  let groups := missing widgets (v.heard (widgets.map waiting))
  show { u with notices := v.notices.filter isOther ++ [] } =
    { u with notices := (v.notices ++ groups.map Notice.widgetMissing).filter isOther }
  rw [List.filter_append, hnone]

theorem indifferent_awaitData :
    Indifferent Plain isWaiting isOther (awaitData : Browse σ Unit) awaitData := by
  have hidle : Indifferent Plain isWaiting isOther (Session.waitForNetworkIdle dataLimit : Browse σ Unit) _ :=
    .order _ rfl
  have hsettle : Indifferent Plain isWaiting isOther (settle : Browse σ Unit) settle := by
    refine (Indifferent.askAbout spinner _ rfl).bind fun n => (Indifferent.ofFault _).bind fun any => ?_
    dsimp only
    split
    · exact (Indifferent.orderAbout spinner _ rfl).andThen hidle
    · exact hidle
  refine hsettle.judge fun r => ?_
  cases r with
  | ok _ => exact .pure ()
  | error f =>
      cases f with
      | automation e => exact .ite (.tell rfl) (.throw _)
      | _ => exact .throw _

theorem indifferent_measure : Indifferent Plain isWaiting isOther (measure : Browse σ Unit) measure := by
  have hwatch : Indifferent Plain isWaiting isOther (watch : Browse σ Times) watch := by
    refine Indifferent.now.bind fun start => ?_
    refine (Indifferent.orderAbout container _ (by decide)).timed.bind fun containerTime => ?_
    refine (Indifferent.orderAbout navigation _ (by decide)).timed.bind fun navigationTime => ?_
    refine indifferent_awaitWidgets.timed.bind fun widgetsTime => ?_
    exact indifferent_awaitData.timed.bind fun dataTime => Indifferent.now.bind fun _ => .pure _
  exact hwatch.bind fun times => .forM fun _ _ => .record _ _ _

/-! ## Tolerance -/

/-- The keys of the times of a dashboard. -/
def timeKeys : List String :=
  ["dashboard_total_load", "dashboard_container_load", "dashboard_navigation_load", "dashboard_widgets_load",
    "dashboard_data_load"]

/-- Nothing but the recorder is different when the times are filed. -/
theorem Watched.filed {α β : Type} {v w : Visit σ} {r : Except Failure α} {r' : Except Failure β} {log : List Call}
    {absent : List String} {rest : List Notice} (h : Watched v w r log absent rest) (recorder : Recorder)
    (hr : (∃ b, r' = .ok b) ↔ ∃ a, r = .ok a) : Watched v { w with recorder := recorder } r' log absent rest where
  called := h.called
  asked := h.asked
  ends := hr.trans h.ends
  told := h.told
  once := h.once
  failed := h.failed
  unsettled := h.unsettled

/-- On a page whose calls the browser may fail in any pattern, a dashboard is measured or given up as it is said: it is
measured exactly if the waits for what every dashboard has succeed and the browser does not refuse a call that waits
for the data. Each group of widgets whose wait fails is told once, and everything else is as on a page that shows it.
A measurement files its five times, and nothing else; where there is none, the recorder is as it was before. -/
theorem measure_tolerant {v w : Visit σ} {r : Except Failure Unit} (hpage : Page.Replies Plain v.page)
    (hrun : (measure : Browse σ Unit).run.run v = (r, w)) :
    (∃ log absent rest, Watched v w r log absent rest) ∧
    (measure : Browse (Mended σ) Unit).run.run (v.mended isWaiting isOther) = (r, w.mended isWaiting isOther) ∧
    (r = .ok () → ∃ times : Table Nat, times.keys = timeKeys ∧ v.recorder.Extends w.recorder times) ∧
    ((∃ f, r = .error f) → w.recorder = v.recorder) := by
  have hmended := (indifferent_measure v hpage).2
  rw [hrun] at hmended
  rcases hwatch : (watch : Browse σ Times).run.run v with ⟨r₁, w₁⟩
  obtain ⟨log, absent, rest, hwatched⟩ := exists_watched hpage hwatch
  have hkept : w₁.recorder = v.recorder := Visit.track_keeps.watch.of_run hwatch
  rw [measure, run_bind, hwatch] at hrun
  cases r₁ with
  | error f =>
      cases hrun
      exact ⟨⟨log, absent, rest, hwatched.filed w.recorder (iff_of_false nofun nofun)⟩, hmended, nofun, fun _ => hkept⟩
  | ok times =>
      have hkeys : Table.keys times.entries = timeKeys := rfl
      have hnodup : (Table.keys times.entries).Nodup := hkeys ▸ by decide
      obtain ⟨recorder, hfile, hextends⟩ := Browse.run_fileAll hnodup w₁
      cases hfile.symm.trans hrun
      rw [hkept] at hextends
      refine ⟨⟨log, absent, rest, hwatched.filed recorder (iff_of_true ⟨_, rfl⟩ ⟨_, rfl⟩)⟩, hmended,
        fun _ => ⟨times.entries, hkeys, hextends⟩, nofun⟩

/-- A page on which the first group of widgets does not appear in time, the browser refuses to wait for the last one,
and the data does not settle. -/
def sparse : FixedPage where
  reply
    | .waitFor (.text s) .visible _ =>
      if (widgets.take 1).any fun g => g.2.text? == some s then .timedOut
      else if (widgets.drop 3).any fun g => g.2.text? == some s then .refused "gone"
      else .answer .null
    | .waitFor _ .detached _ => .timedOut
    | .count _ => .answer (.int 1)
    | _ => .answer .null

theorem measure_tolerant_sparse : ∃ w, (measure : Browse FixedPage Unit).run.run sparse.visit = (.ok (), w) ∧
    w.notices = [.widgetMissing "charts", .widgetMissing "stats", .dataUnsettled] ∧
    ∃ times : Table Nat, times.keys = timeKeys ∧ (sparse.visit).recorder.Extends w.recorder times := by
  have hpage : Page.Replies Plain sparse := by
    refine FixedPage.replies fun c => ?_
    cases c with
    | waitFor selector condition limit =>
        unfold sparse
        dsimp only
        split
        · split
          · exact trivial
          · split
            · exact trivial
            · exact nofun
        · exact trivial
        · exact nofun
        · exact nofun
    | count selector => exact fun _ _ => ⟨1, rfl⟩
    | _ => exact nofun
  have hsuccess : ((measure : Browse FixedPage Unit).run.run sparse.visit).1.toOption.isSome = true := by
    decide +kernel
  have hnotices : ((measure : Browse FixedPage Unit).run.run sparse.visit).2.notices =
      [.widgetMissing "charts", .widgetMissing "stats", .dataUnsettled] := by
    decide +kernel
  rcases hrun : (measure : Browse FixedPage Unit).run.run sparse.visit with ⟨r, w⟩
  rw [hrun] at hsuccess hnotices
  obtain ⟨_, rfl⟩ := exists_of_isSome hsuccess
  obtain ⟨-, -, hfiled, -⟩ := measure_tolerant hpage hrun
  exact ⟨w, rfl, hnotices, hfiled rfl⟩

end Dashboard

end SiteTrial
