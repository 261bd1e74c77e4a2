import SiteTrial.Proofs.Config.Unguarded
import SiteTrial.Proofs.Config.Variables

/-!
# Accounts from variables

A part of an account is what its variable says, or else what the document says, and there is an account as
soon as one of the parts is not empty. So a variable for a part brings an account about or changes that part of
it, and then the kind of the account has to be written.

* `Check.credentials_eq_ok_iff` : what an account is made of;
* `Check.credentials_put_iff` : an account with one more variable;
* `Check.reads_application_address`, `Check.reads_application_account_iff` : an application with one.
-/

namespace SiteTrial

namespace Check

variable {env : Table String}

/-! ## An account with one more variable -/

/-- An account is made of a value for each of its parts, and of its kind; there is none where both are
empty. -/
theorem credentials_eq_ok_iff {side : Side} {entry : Value} {r : Option Credentials} :
    credentials env side entry = .ok r ↔ ∃ value : AccountPart → Value,
      (∀ part, settingOr env (EnvVariable.account side part).name ((entry.orElse (.mapping [])).member part.key) =
        .ok (value part)) ∧
      r.elim (∀ part, (value part).isTruthy = false) fun account =>
        (∃ part, (value part).isTruthy = true) ∧
          (∀ part, ((value part).orElse (.text "")).toText? = .ok (part.get account)) ∧
          ((entry.orElse (.mapping [])).memberD "accountType" (.text "") >>= Value.toText?) =
            .ok account.accountType := by
  constructor
  · intro h
    unfold credentials at h
    obtain ⟨username, husername, h⟩ := exists_of_bind h
    obtain ⟨password, hpassword, h⟩ := exists_of_bind h
    refine ⟨AccountPart.pick username password, AccountPart.forall_iff.2 ⟨husername, hpassword⟩, ?_⟩
    split at h
    · next htruthy =>
        obtain ⟨name, hname, h⟩ := exists_of_bind h
        obtain ⟨word, hword, h⟩ := exists_of_bind h
        obtain ⟨kind, hkind, h⟩ := exists_of_bind h
        obtain ⟨text, htext, h⟩ := exists_of_bind h
        cases h
        refine ⟨AccountPart.exists_iff.2 (Bool.or_eq_true_iff.1 htruthy), AccountPart.forall_iff.2 ⟨hname, hword⟩, ?_⟩
        rw [hkind]
        exact htext
    · next hfalsy =>
        cases h
        exact AccountPart.forall_iff.2 (Bool.or_eq_false_iff.1 (Bool.not_eq_true _ ▸ hfalsy))
  · rintro ⟨value, hvalue, hr⟩
    obtain ⟨husername, hpassword⟩ := AccountPart.forall_iff.1 hvalue
    unfold credentials
    simp only [EnvVariable.name, AccountPart.settingEnd, AccountPart.key] at husername hpassword
    simp only [husername, hpassword, ok_bind]
    cases r with
    | none =>
        obtain ⟨hname, hword⟩ := AccountPart.forall_iff.1 hr
        rw [hname, hword]
        rfl
    | some account =>
        obtain ⟨htruthy, htexts, hkind⟩ := hr
        obtain ⟨hname, hword⟩ := AccountPart.forall_iff.1 htexts
        obtain ⟨kind, hkind, htext⟩ := exists_of_bind hkind
        rw [if_pos (Bool.or_eq_true_iff.2 (AccountPart.exists_iff.1 htruthy)), hname, hword, hkind]
        simp only [ok_bind, htext]
        rfl

/-- What the kind of an account is said to be, the empty text where nothing is said. -/
def kindOf (entry : Value) : Value := ((entry.orElse (.mapping [])).fields?.getD []).getD "accountType" (.text "")

theorem memberD_kind {entry : Value} (h : (entry.orElse (.mapping [])).fields?.isSome = true) :
    ((entry.orElse (.mapping [])).memberD "accountType" (.text "") >>= Value.toText?) =
      (kindOf entry).toText? := by
  obtain ⟨fs, hfs⟩ := Option.isSome_iff_exists.1 h
  rw [kindOf, Value.memberD, hfs]
  rfl

/-- Where an account was looked for, there is a mapping to look into, or nothing. -/
theorem isSome_of_credentials {side : Side} {entry : Value} {r : Option Credentials}
    (h : credentials env side entry = .ok r) : (entry.orElse (.mapping [])).fields?.isSome = true := by
  obtain ⟨value, hvalue, hr⟩ := credentials_eq_ok_iff.1 h
  cases hfs : (entry.orElse (.mapping [])).fields? with
  | some fs => rfl
  | none =>
      cases r with
      | some account =>
          obtain ⟨-, -, hkind⟩ := hr
          rw [Value.memberD, hfs] at hkind
          cases hkind
      | none =>
          have hname := hvalue .username
          cases hset : setting? env (EnvVariable.account side .username).name with
          | none =>
              rw [settingOr_of_none hset, Value.member, hfs] at hname
              cases hname
          | some name =>
              rw [settingOr_of_some hset] at hname
              have hfalsy := hr .username
              rw [← Except.ok.inj hname, isTruthy_of_setting? hset] at hfalsy
              cases hfalsy

/-- The values that the parts of an account have with a variable for one of them. -/
theorem settingOr_put {side : Side} (part : AccountPart) {text : String} (htext : text ≠ "")
    {value : AccountPart → Value} {other : AccountPart → Except Fault Value}
    (h : ∀ p, settingOr env (EnvVariable.account side p).name (other p) = .ok (value p)) (p : AccountPart) :
    settingOr (env.put (EnvVariable.account side part).name text) (EnvVariable.account side p).name (other p) =
      .ok (if p = part then .text text else value p) := by
  by_cases hp : p = part
  · rw [if_pos hp, hp, settingOr_of_some (setting?_put htext)]
  · rw [if_neg hp, ← h p]
    exact settingOr_congr (agree_put (by simpa [eq_comm] using hp) env text) _

/-- What of an account is there already. -/
def accountOr (entry : Value) (r : Option Credentials) : Credentials := r.getD ⟨"", "", (kindOf entry).toText⟩

/-- An account with a variable for one of its parts: the variable stands for the part, and the rest is as it
was. If there was no account, its kind is looked at only now. -/
theorem credentials_put_iff {side : Side} {entry : Value} {r r' : Option Credentials} {part : AccountPart}
    {text : String} (htext : text ≠ "") (h : credentials env side entry = .ok r) :
    credentials (env.put (EnvVariable.account side part).name text) side entry = .ok r' ↔
      (r = none → (kindOf entry).isWritable = true) ∧ r' = some (part.put (accountOr entry r) text) := by
  have hkindOf := memberD_kind (isSome_of_credentials h)
  obtain ⟨value, hvalue, hr⟩ := credentials_eq_ok_iff.1 h
  have hvalue' := settingOr_put part htext hvalue
  -- what was there already
  have hparts : ∀ p : AccountPart, ((value p).orElse (.text "")).toText? = .ok (p.get (accountOr entry r)) := by
    intro p
    cases r with
    | some account => exact hr.2.1 p
    | none =>
        rw [Value.orElse, hr p]
        cases p <;> rfl
  have hkind : ∀ kind, (kindOf entry).toText? = .ok kind ↔
      (r = none → (kindOf entry).isWritable = true) ∧ kind = (accountOr entry r).accountType := by
    intro kind
    cases r with
    | some account =>
        rw [← hkindOf, hr.2.2, Except.ok.injEq]
        exact ⟨fun h => ⟨fun hnone => (Option.some_ne_none account hnone).elim, h.symm⟩, fun h => h.2.symm⟩
    | none =>
        show Value.toText? _ = _ ↔ (_ → _) ∧ kind = (kindOf entry).toText
        unfold Value.toText?
        split
        · next hwritable => simp [hwritable, eq_comm]
        · next hwritable => simp [hwritable]
  have hnew : (Value.text text).isTruthy = true := by simpa [Value.isTruthy] using htext
  have hparts' : ∀ p : AccountPart, ((if p = part then .text text else value p : Value).orElse (.text "")).toText? =
      .ok (p.get (part.put (accountOr entry r) text)) := by
    intro p
    rw [AccountPart.get_put]
    by_cases hp : p = part
    · rw [if_pos hp, if_pos hp, Value.orElse, if_pos hnew]
      rfl
    · rw [if_neg hp, if_neg hp]
      exact hparts p
  constructor
  · intro h'
    obtain ⟨value', hread, hr'⟩ := credentials_eq_ok_iff.1 h'
    have hsame : ∀ p, value' p = if p = part then .text text else value p :=
      fun p => Except.ok.inj ((hread p).symm.trans (hvalue' p))
    cases r' with
    | none =>
        have hfalsy := hr' part
        rw [hsame, if_pos rfl, hnew] at hfalsy
        cases hfalsy
    | some account =>
        obtain ⟨-, htexts, haccountKind⟩ := hr'
        obtain ⟨hwritable, hkindSame⟩ := (hkind _).1 (hkindOf.symm.trans haccountKind)
        refine ⟨hwritable, congrArg some (AccountPart.eq_iff.2 ⟨fun p => ?_, ?_⟩)⟩
        · rw [← Except.ok.injEq, ← htexts p, hsame]
          exact hparts' p
        · rw [hkindSame, AccountPart.accountType_put]
  · rintro ⟨hwritable, rfl⟩
    refine credentials_eq_ok_iff.2 ⟨_, hvalue', ⟨part, ?_⟩, hparts', ?_⟩
    · rw [if_pos rfl, hnew]
    · exact hkindOf.trans ((hkind _).2 ⟨hwritable, AccountPart.accountType_put ..⟩)

/-! ## An application with one more variable -/

theorem reads_application_iff {document : Fields} {side : Side} {a : Application} :
    Reads (application document env side) (some a) ↔ ∃ entry,
      (document.getD side.key (.mapping (defaultApplication side))).fields? = some entry ∧
        Reads (baseUrl env side entry) a.baseUrl ∧
          credentials env side (entry.get "credentials") = .ok a.credentials ∧
            (entry.getD "name" (.text side.key)).toText? = .ok a.name ∧
              (entry.getD "technology" (.text "")).toText? = .ok a.technology := by
  unfold application
  split
  · next entry hentry =>
      simp only [reads_bind_iff, reads_pure_iff, reads_of_iff]
      constructor
      · rintro ⟨url, hurl, account, haccount, name, hname, technology, htechnology, hmade⟩
        cases hmade
        exact ⟨entry, hentry, hurl, haccount, hname, htechnology⟩
      · rintro ⟨_, hsame, hurl, haccount, hname, htechnology⟩
        cases hentry.symm.trans hsame
        exact ⟨_, hurl, _, haccount, _, hname, _, htechnology, rfl⟩
  · next hnone =>
      refine iff_of_false (not_reads_complain_pure _ _ _) ?_
      rintro ⟨entry, hentry, -⟩
      rw [hnone] at hentry
      cases hentry

theorem reads_application_address {document : Fields} {side : Side} {a : Application} {url : String}
    (hurl : url ≠ "") (h : Reads (application document env side) (some a)) :
    Reads (application document (env.put (EnvVariable.address side).name url) side)
      (some { a with baseUrl := url }) := by
  obtain ⟨entry, hentry, -, haccount, hname, htechnology⟩ := reads_application_iff.1 h
  refine reads_application_iff.2 ⟨entry, hentry, ?_, ?_, hname, htechnology⟩
  · rw [baseUrl_eq, EnvVariable.name, settingOr_of_some (setting?_put hurl), reads_bind_iff]
    refine ⟨.text url, reads_of_iff.2 rfl, ?_⟩
    rw [address, if_neg (by simpa using hurl)]
    exact reads_pure_iff.2 rfl
  · rw [credentials_congr (agree_put (by simp) env url)]
    exact haccount

/-- What the account of a side is made of. -/
def accountEntry (document : Fields) (side : Side) : Value := (document.within side.key).get "credentials"

theorem reads_application_account_iff {document : Fields} {side : Side} {a a' : Application}
    {part : AccountPart} {text : String} (htext : text ≠ "")
    (h : Reads (application document env side) (some a)) :
    Reads (application document (env.put (EnvVariable.account side part).name text) side) (some a') ↔
      (a.credentials = none → (kindOf (accountEntry document side)).isWritable = true) ∧
        a' = { a with
          credentials := some (part.put (accountOr (accountEntry document side) a.credentials) text) } := by
  obtain ⟨entry, hentry, hurl, haccount, hname, htechnology⟩ := reads_application_iff.1 h
  have hplace : accountEntry document side = entry.get "credentials" := get_credentials hentry
  have hurl' : baseUrl (env.put (EnvVariable.account side part).name text) side entry = baseUrl env side entry :=
    baseUrl_congr (agree_put (by simp) env text) entry
  rw [hplace]
  constructor
  · intro h'
    obtain ⟨_, hsame, hurlRead, haccountRead, hnameRead, htechnologyRead⟩ := reads_application_iff.1 h'
    cases hentry.symm.trans hsame
    obtain ⟨hwritable, hcredentials⟩ := (credentials_put_iff htext haccount).1 haccountRead
    refine ⟨hwritable, ?_⟩
    have hurlSame : a'.baseUrl = a.baseUrl := (hurl' ▸ hurlRead).unique hurl
    have hnameSame : a'.name = a.name := Except.ok.inj (hnameRead.symm.trans hname)
    have htechnologySame : a'.technology = a.technology :=
      Except.ok.inj (htechnologyRead.symm.trans htechnology)
    rw [← hurlSame, ← hnameSame, ← htechnologySame, ← hcredentials]
  · rintro ⟨hwritable, rfl⟩
    refine reads_application_iff.2 ⟨entry, hentry, ?_, ?_, hname, htechnology⟩
    · rw [hurl']
      exact hurl
    · exact (credentials_put_iff htext haccount).2 ⟨hwritable, rfl⟩

end Check

end SiteTrial
