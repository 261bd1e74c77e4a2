import SiteTrial.Proofs.Page.Scripted
import SiteTrial.Proofs.Run.Fresh
import SiteTrial.Proofs.Sample.Filed

/-!
# Signing in, all of it or nothing

A sign-in makes eight calls. With the replies that it needs it ends well and files its five times, else it fails and
files nothing. Whether the login page was left is decided by the address: one that contains `/login` somewhere counts
as that of a login page, be it that of the application's login page or not.

* `SignIn.calls`, `SignIn.Grants` : the calls of a sign-in, and the replies that it needs;
* `SignIn.Completed`, `signIn_all_or_nothing` : what it then has done, and that otherwise nothing is filed;
* `Visit.Welcomes` : a page that accepts the account and leads somewhere; `Application.IsLoginPage` : the addresses of
  the login page;
* `signIn_welcomed` : on such a page a sign-in ends well exactly if the address that it leads to does not contain
  `/login`; `signIn_turned_away` : an address like that although the login page was left.
-/

namespace SiteTrial

open Browse (Demands)

variable {σ : Type} [Page σ]

/-! ## Addresses -/

theorem UrlTest.occursIn_iff {part url : List Char} : occursIn part url = true ↔ part <:+: url := by
  induction url with
  | nil => rw [occursIn, List.isEmpty_iff, List.infix_nil]
  | cons c url ih => rw [occursIn, Bool.or_eq_true, ih, List.isPrefixOf_iff_prefix, List.infix_cons_iff]

theorem UrlTest.lacks_accepts_iff {part url : String} :
    (lacks part).accepts url = true ↔ ¬ part.toList <:+: url.toList := by
  rw [← occursIn_iff, Bool.not_eq_true, accepts, Bool.not_eq_true']

/-! ## What the page is asked -/

namespace SignIn

/-- What is done on the login page. -/
def entering (application : Application) (account : Credentials) : List Call :=
  [.goto (withoutEndSlashes application.baseUrl ++ "/login") "domcontentloaded" openLimit,
    .waitFor usernameField .visible waitLimit, .fill usernameField account.username,
    .waitFor passwordField .visible waitLimit, .fill passwordField account.password, .click submitControl]

/-- The wait for the login page to be left. -/
def leaving : Call := .waitForUrl awayFromLogin waitLimit

/-- The look for what shows that the account was not accepted. -/
def counting : Call := .count errorElements

/-- Everything that is asked of the page. -/
def calls (application : Application) (account : Credentials) : List Call :=
  entering application account ++ [leaving, counting]

/-- The call succeeded, and if elements were counted there were none. -/
def Grants : Call → Reply → Prop
  | .count _, reply => ∃ n, reply = .answer n ∧ n.exceeds 0 = .ok false
  | _, reply => reply.IsAnswer

theorem demands_fillField (field text : String) :
    Demands Grants [.waitFor (.text field) .visible waitLimit, .fill (.text field) text]
      (fillField (.text field) text : Browse σ Unit) :=
  (Demands.orderAbout (fun _ => Iff.rfl) field _).andThen (Demands.orderAbout (fun _ => Iff.rfl) field _)

/-- That the login page is not left in time is said in other words, but it is said. -/
theorem demands_leave (application : String) : Demands Grants [leaving] (leave application : Browse σ Unit) := by
  refine Demands.judge (Demands.order (fun _ => Iff.rfl) _) (fun _ v => ⟨(), rfl⟩) fun f v => ?_
  cases f with
  | automation e =>
      dsimp only
      split
      · exact ⟨_, v, rfl⟩
      · exact ⟨_, v, rfl⟩
  | _ => exact ⟨_, v, rfl⟩

theorem demands_checkAccepted (application : String) :
    Demands Grants [counting] (checkAccepted application : Browse σ Unit) := by
  intro v
  have hone : (∀ e ∈ v.heard [counting], Grants e.1 e.2) ↔ Grants counting (v.reply counting) :=
    List.forall_mem_singleton
  have hcount : (Session.count errorElements).run.run v =
      (Session.answerOf _ (v.reply counting), v.called counting) := Session.run_askAbout _ _ _ v
  rw [hone, checkAccepted, run_bind, hcount]
  constructor
  · rintro ⟨n, hn, hnone⟩
    refine ⟨(), ?_⟩
    rw [hn]
    show (Browse.ofFault (n.exceeds 0) >>= _).run.run (v.called counting) = _
    rw [hnone]
    rfl
  · intro hno
    cases hreply : v.reply counting with
    | answer n =>
        show ∃ f w, (Browse.ofFault (n.exceeds 0) >>= _).run.run (v.called counting) = (.error f, w)
        cases hsome : n.exceeds 0 with
        | error f => exact ⟨_, _, rfl⟩
        | ok any =>
            cases any with
            | false => exact absurd ⟨n, hreply, hsome⟩ hno
            | true => exact ⟨_, _, rfl⟩
    | timedOut | refused _ | broke _ => exact ⟨_, _, rfl⟩

/-- Signing in up to the submission of the form: the moment at which it began, and the times until then. -/
def enter (application : Application) (account : Credentials) : Browse σ (Nat × Nat × Nat × Nat) := do
  let start ← Browse.now
  Session.goto (withoutEndSlashes application.baseUrl ++ "/login") openLimit
  let username ← Browse.timed (fillField usernameField account.username)
  let password ← Browse.timed (fillField passwordField account.password)
  let submit ← Browse.timed (Session.click submitControl)
  return (start, username, password, submit)

/-- The rest of it. -/
def finish (application : Application) (entered : Nat × Nat × Nat × Nat) : Browse σ SignInTimes := do
  let redirect ← Browse.timed (leave application.name)
  checkAccepted application.name
  return ⟨(← Browse.now) - entered.1, entered.2.1, entered.2.2.1, entered.2.2.2, redirect⟩

theorem signInAs_eq (application : Application) (account : Credentials) :
    (signInAs application account : Browse σ SignInTimes) = enter application account >>= finish application := by
  simp only [signInAs, enter, finish, bind_assoc, pure_bind]

theorem demands_enter (application : Application) (account : Credentials) :
    Demands Grants (entering application account) (enter application account : Browse σ _) := by
  have hgoto : Demands Grants _ (Session.goto (withoutEndSlashes application.baseUrl ++ "/login") openLimit :
      Browse σ Unit) := Demands.order (fun _ => Iff.rfl) _
  have hclick : Demands Grants _ (Session.click submitControl : Browse σ Unit) :=
    Demands.orderAbout (fun _ => Iff.rfl) _ _
  refine Demands.now.bind fun start => hgoto.andThen ?_
  refine (demands_fillField _ _).timed.bind fun username => (demands_fillField _ _).timed.bind fun password => ?_
  exact hclick.timed.bind fun submit => .pure _

theorem demands_finish (application : Application) (entered : Nat × Nat × Nat × Nat) :
    Demands Grants [leaving, counting] (finish application entered : Browse σ SignInTimes) :=
  (demands_leave _).timed.bind fun _ => (demands_checkAccepted _).andThen (Demands.now.bind fun _ => .pure _)

theorem demands_signInAs (application : Application) (account : Credentials) :
    Demands Grants (calls application account) (signInAs application account : Browse σ SignInTimes) := by
  rw [signInAs_eq]
  exact (demands_enter application account).bind fun entered => demands_finish application entered

end SignIn

open SignIn

/-! ## All of it or nothing -/

namespace SignIn

/-- The keys of the times that a sign-in files. -/
def timeKeys : List String :=
  ["login_total_time", "login_username_time", "login_password_time", "login_submit_time", "login_redirect_time"]

/-- What a sign-in that ended well has done: it made its calls, in the end the page no longer showed the address of a
login page, and the recorder has its five times and is otherwise the same. -/
structure Completed (application : Application) (account : Credentials) (v w : Visit σ) : Prop where
  called : w.calls = v.calls ++ calls application account
  left : Page.WaitsForUrl v.page →
    ¬ "/login".toList <:+: (Page.url (v.calledAll (entering application account ++ [leaving])).page).toList
  filed : ∃ times : Table Nat, times.keys = timeKeys ∧ v.recorder.Extends w.recorder times

theorem lacks_of_grants {application : Application} {account : Credentials} {v : Visit σ}
    (hpage : Page.WaitsForUrl v.page) (h : ∀ e ∈ v.heard (calls application account), Grants e.1 e.2) :
    ¬ "/login".toList <:+: (Page.url (v.calledAll (entering application account ++ [leaving])).page).toList := by
  let u := v.calledAll (entering application account)
  have hreply : (u.reply leaving).IsAnswer := by
    rw [calls, Visit.heard_append] at h
    exact h (leaving, u.reply leaving) (List.mem_append_right _ (List.mem_cons_self ..))
  have haccepts := hpage u.page (v.reaches_calledAll _) awayFromLogin waitLimit u.clock hreply
  rw [Visit.calledAll_append]
  exact UrlTest.lacks_accepts_iff.1 haccepts

/-- With the replies that it needs a sign-in is completed. -/
theorem exists_completed {application : Application} {account : Credentials} {v : Visit σ}
    (hcredentials : application.credentials = some account)
    (h : ∀ e ∈ v.heard (calls application account), Grants e.1 e.2) :
    ∃ w, (signIn application).run.run v = (.ok (), w) ∧ Completed application account v w := by
  obtain ⟨times, htimes⟩ := (demands_signInAs application account v).1 h
  have hkeys : Table.keys times.entries = timeKeys := rfl
  have hnodup : (Table.keys times.entries).Nodup := hkeys ▸ by decide
  obtain ⟨recorder, hfile, hextends⟩ := Browse.run_fileAll hnodup (v.calledAll (calls application account))
  rw [Visit.recorder_calledAll] at hextends
  refine ⟨{ v.calledAll (calls application account) with recorder := recorder }, ?_, Visit.calls_calledAll v _,
    fun hpage => lacks_of_grants hpage h, times.entries, hkeys, hextends⟩
  rw [signIn, hcredentials]
  dsimp only
  rw [run_bind, htimes]
  exact hfile

/-- Without them it fails, and nothing is filed. -/
theorem exists_error {application : Application} {account : Credentials} {v : Visit σ}
    (hcredentials : application.credentials = some account)
    (h : ¬ ∀ e ∈ v.heard (calls application account), Grants e.1 e.2) :
    ∃ f w, (signIn application).run.run v = (.error f, w) ∧ w.recorder = v.recorder := by
  obtain ⟨f, w, hf⟩ := (demands_signInAs application account v).2 h
  refine ⟨f, w, ?_, (Visit.track_keeps.signInAs application account).of_run hf⟩
  rw [signIn, hcredentials]
  dsimp only
  rw [run_bind, hf]

end SignIn

/-- A sign-in ends well exactly if the application has an account, the page answers all calls, and no element shows
that the account was not accepted. Then the login page was left and five times are filed, and nothing else is.
Whenever it fails, in whatever way, the recorder is as it was before. -/
theorem signIn_all_or_nothing (application : Application) {v w : Visit σ} {r : Except Failure Unit}
    (hrun : (signIn application).run.run v = (r, w)) :
    (r = .ok () ↔ ∃ account, application.credentials = some account ∧
      ∀ e ∈ v.heard (calls application account), Grants e.1 e.2) ∧
    (r = .ok () → ∃ account, application.credentials = some account ∧ Completed application account v w) ∧
    ((∃ f, r = .error f) → w.recorder = v.recorder) := by
  cases hcredentials : application.credentials with
  | none =>
      rw [signIn, hcredentials] at hrun
      cases hrun
      exact ⟨iff_of_false nofun nofun, nofun, fun _ => rfl⟩
  | some account =>
      by_cases hgranted : ∀ e ∈ v.heard (calls application account), Grants e.1 e.2
      · obtain ⟨w', hok, hcompleted⟩ := exists_completed hcredentials hgranted
        cases hok.symm.trans hrun
        exact ⟨iff_of_true rfl ⟨account, rfl, hgranted⟩, fun _ => ⟨account, rfl, hcompleted⟩, nofun⟩
      · obtain ⟨f, w', herror, hkept⟩ := exists_error hcredentials hgranted
        cases herror.symm.trans hrun
        refine ⟨iff_of_false nofun ?_, nofun, fun _ => hkept⟩
        rintro ⟨_, ⟨⟩, hall⟩
        exact hgranted hall

def member : Credentials := ⟨"user", "secret", ""⟩

/-- An application with an account. -/
def club (host : String) : Application where
  name := "Club"
  baseUrl := "http://" ++ host
  credentials := some member

/-- A page whose form leads to an address when it is submitted. -/
def gate (address : String) : Visit ScriptedPage where
  page := { redirects := [(submitControl.text?.getD "", address)], costs := [("goto", 64)] }
  draws := .cycle []
  date := "2024-05-01T10:00:00"

/-- A sign-in that leads home is completed there, away from the login page. -/
theorem signIn_all_or_nothing_club :
    ∃ w, (signIn (club "portal.test")).run.run (gate "http://portal.test/home") = (.ok (), w) ∧
      Completed (club "portal.test") member (gate "http://portal.test/home") w ∧
      ¬ "/login".toList <:+: (Page.url ((gate "http://portal.test/home").calledAll
        (entering (club "portal.test") member ++ [leaving])).page).toList := by
  have hsuccess : ((signIn (club "portal.test")).run.run (gate "http://portal.test/home")).1.toOption.isSome =
      true := by
    decide +kernel
  rcases hrun : (signIn (club "portal.test")).run.run (gate "http://portal.test/home") with ⟨r, w⟩
  rw [hrun] at hsuccess
  obtain ⟨_, rfl⟩ := exists_of_isSome hsuccess
  obtain ⟨_, hmember, hcompleted⟩ := (signIn_all_or_nothing (club "portal.test") hrun).2.1 rfl
  cases hmember
  exact ⟨w, rfl, hcompleted, hcompleted.left (ScriptedPage.waitsForUrl nofun)⟩

/-! ## Where the form leads to -/

/-- The addresses of the login page, which may have more behind them. -/
def Application.IsLoginPage (application : Application) (url : String) : Prop :=
  ∃ rest : List Char, url.toList = (withoutEndSlashes application.baseUrl ++ "/login").toList ++ rest ∧
    ∀ c, rest.head? = some c → c ∈ ['/', '?', '#']

/-- The address to which the form leads when it is submitted. -/
def Visit.landing (v : Visit σ) (application : Application) (account : Credentials) : String :=
  Page.url (v.calledAll (entering application account)).page

/-- A page that accepts the account: it answers what is done on the login page, it says in time whether the address to
which this leads is one that was waited for, and it shows no error. -/
structure Visit.Welcomes (v : Visit σ) (application : Application) (account : Credentials) : Prop where
  answered : ∀ e ∈ v.heard (entering application account), e.2.IsAnswer
  away : awayFromLogin.accepts (v.landing application account) = true →
    ((v.calledAll (entering application account)).reply leaving).IsAnswer
  stays : awayFromLogin.accepts (v.landing application account) = false →
    (v.calledAll (entering application account)).reply leaving = .timedOut
  accepted : (v.calledAll (entering application account ++ [leaving])).reply counting = .answer (.int 0)

theorem Application.IsLoginPage.contains {application : Application} {url : String}
    (h : application.IsLoginPage url) : "/login".toList <:+: url.toList := by
  obtain ⟨rest, hurl, -⟩ := h
  rw [hurl, String.toList_append]
  exact ⟨_, rest, rfl⟩

namespace Visit.Welcomes

variable {v : Visit σ} {application : Application} {account : Credentials}

theorem grants_entering (h : v.Welcomes application account) :
    ∀ e ∈ v.heard (entering application account), Grants e.1 e.2 := by
  intro e he
  have hanswer := h.answered e he
  have hcall : e.1 ∈ entering application account := Visit.mem_of_mem_heard he
  simp only [entering, List.mem_cons, List.not_mem_nil, or_false] at hcall
  rcases hcall with hcall | hcall | hcall | hcall | hcall | hcall <;> rw [hcall] <;> exact hanswer

/-- What a sign-in needs is granted if the page is away from anything that counts as a login page. -/
theorem grants_iff (h : v.Welcomes application account) :
    (∀ e ∈ v.heard (calls application account), Grants e.1 e.2) ↔
      ¬ "/login".toList <:+: (v.landing application account).toList := by
  rw [← UrlTest.lacks_accepts_iff, calls, Visit.heard_append, List.forall_mem_append,
    and_iff_right h.grants_entering]
  constructor
  · intro hgrants
    have hleft : ((v.calledAll (entering application account)).reply leaving).IsAnswer :=
      hgrants (leaving, _) (List.mem_cons_self ..)
    by_contra hstays
    rw [h.stays (Bool.eq_false_of_not_eq_true hstays)] at hleft
    obtain ⟨_, ⟨⟩⟩ := hleft
  · intro haway
    have hnone := h.accepted
    rw [Visit.calledAll_append] at hnone
    refine List.forall_mem_cons.2 ⟨h.away haway, List.forall_mem_singleton.2 ⟨.int 0, hnone, rfl⟩⟩

/-- That the wait for the login page to be left took too long is what the sign-in ends with. -/
theorem run_of_contains (h : v.Welcomes application account) (hcredentials : application.credentials = some account)
    (hcontains : "/login".toList <:+: (v.landing application account).toList) :
    ((signIn application).run.run v).1 = .error (.automation (.stillOnLoginPage application.name)) := by
  let u := v.calledAll (entering application account)
  have hreply : u.reply leaving = .timedOut :=
    h.stays (Bool.eq_false_of_not_eq_true fun haway => UrlTest.lacks_accepts_iff.1 haway hcontains)
  have hwait : (Session.waitForUrl awayFromLogin waitLimit).run.run u =
      (.error (.automation (.timedOut "URL change")), u.called leaving) := by
    rw [Session.waitForUrl, Session.run_order]
    exact congrArg (fun reply => ((Session.answerOf "URL change" reply).map fun _ => (), u.called leaving)) hreply
  have hleave : (leave application.name).run.run u =
      (.error (.automation (.stillOnLoginPage application.name)), u.called leaving) := by
    rw [leave, Browse.run_attempt_bind, hwait]
    rfl
  have htimed : (Browse.timed (leave application.name)).run.run u =
      (.error (.automation (.stillOnLoginPage application.name)), u.called leaving) := by
    rw [Browse.run_timed, hleave]
    rfl
  obtain ⟨entered, hentered⟩ := (demands_enter application account v).1 h.grants_entering
  rw [signIn, hcredentials]
  dsimp only
  rw [run_bind, signInAs_eq, run_bind, hentered]
  dsimp only
  rw [finish, run_bind, htimed]

end Visit.Welcomes

/-- On a page that accepts the account a sign-in ends well exactly if the address to which the form leads does not
contain `/login`. If it does, the sign-in fails as if the login page were still shown. The addresses of the login page
are among those that do, but not all of those are addresses of the login page. -/
theorem signIn_welcomed {application : Application} {account : Credentials} {v : Visit σ}
    (hcredentials : application.credentials = some account) (h : v.Welcomes application account) :
    ((∃ w, (signIn application).run.run v = (.ok (), w)) ↔
      ¬ "/login".toList <:+: (v.landing application account).toList) ∧
    ("/login".toList <:+: (v.landing application account).toList →
      ((signIn application).run.run v).1 = .error (.automation (.stillOnLoginPage application.name))) ∧
    (application.IsLoginPage (v.landing application account) →
      "/login".toList <:+: (v.landing application account).toList) := by
  refine ⟨⟨?_, ?_⟩, h.run_of_contains hcredentials, Application.IsLoginPage.contains⟩
  · rintro ⟨w, hok⟩ hcontains
    have hfailed := h.run_of_contains hcredentials hcontains
    rw [hok] at hfailed
    cases hfailed
  · intro haway
    obtain ⟨w, hok, -⟩ := exists_completed hcredentials (h.grants_iff.2 haway)
    exact ⟨w, hok⟩

theorem page_gate (host address : String) :
    ((gate address).calledAll (entering (club host) member)).page =
      { (gate address).page with
        url := address, made := [("goto", 1), ("wait_for", 2), ("fill", 2), ("click", 1)] } := rfl

/-- The gate accepts the account, wherever it leads to. -/
theorem welcomes_gate (host address : String) : (gate address).Welcomes (club host) member := by
  let u := (gate address).calledAll (entering (club host) member)
  have hlanding : (gate address).landing (club host) member = address :=
    congrArg ScriptedPage.url (page_gate host address)
  have hleaving : u.reply leaving = if awayFromLogin.accepts address then .answer .null else .timedOut := by
    rw [Visit.reply, page_gate]
    rfl
  constructor
  · intro e he
    have hall : ((gate address).heard (entering (club host) member)).map Prod.snd =
        List.replicate 6 (.answer .null) := rfl
    have hmem := List.mem_map_of_mem (f := Prod.snd) he
    rw [hall] at hmem
    exact ⟨.null, List.eq_of_mem_replicate hmem⟩
  · rw [hlanding]
    exact fun haway => ⟨.null, hleaving.trans (if_pos haway)⟩
  · rw [hlanding]
    exact fun hstays => hleaving.trans (if_neg (Bool.eq_false_iff.1 hstays))
  · rw [Visit.calledAll_append]
    show (Page.respond counting _ (Page.respond leaving u.clock u.page).page).reply = _
    rw [page_gate]
    rfl

theorem signIn_welcomed_club :
    ∃ w, (signIn (club "portal.test")).run.run (gate "http://portal.test/home") = (.ok (), w) := by
  have haway : ¬ "/login".toList <:+: ((gate "http://portal.test/home").landing (club "portal.test") member).toList :=
    UrlTest.lacks_accepts_iff.1 (by decide +kernel)
  exact (signIn_welcomed rfl (welcomes_gate "portal.test" "http://portal.test/home")).1.2 haway

/-- The home page of an application counts as a login page because of the name of its host, and so nobody can ever
sign in there. -/
theorem signIn_turned_away :
    (gate "http://login.test/home").Welcomes (club "login.test") member ∧
      ¬ (club "login.test").IsLoginPage ((gate "http://login.test/home").landing (club "login.test") member) ∧
      ((signIn (club "login.test")).run.run (gate "http://login.test/home")).1 =
        .error (.automation (.stillOnLoginPage "Club")) := by
  have hwelcomes := welcomes_gate "login.test" "http://login.test/home"
  have hcontains : "/login".toList <:+: ((gate "http://login.test/home").landing (club "login.test") member).toList :=
    UrlTest.occursIn_iff.1 (by decide +kernel)
  refine ⟨hwelcomes, ?_, hwelcomes.run_of_contains rfl hcontains⟩
  rintro ⟨rest, hrest, -⟩
  have hprefix := List.isPrefixOf_iff_prefix.2 ⟨rest, hrest.symm⟩
  revert hprefix
  decide +kernel

end SiteTrial
