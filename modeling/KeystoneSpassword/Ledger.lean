import KeystoneSpassword.Invariants

/-!
# The ledger of a row

The columns that the lockout and expiry tests read, and what a login writes to them.

A row mixes two records. The *ledger* is the counter, the two dates and the blacklist flag: what
decides whether the next password is looked at. The rest belongs to the second factor and to the
email. A login reads the ledger before the verdict and writes it after the mail, so the second
factor can do one thing to it: raise, and the attempt is not written.

## Main definitions

* `Ledger`, `Ledger.attempted` — what an attempt leaves
* `NeedsMail` — whether the mail of the second factor is sent

## Main results

* `attempt_ledger` — what an attempt leaves, if no mail is missing
* `attempt_recorded_iff` — which attempts are recorded, whatever the mail does
-/

namespace KeystoneSpassword

open StateProgram

variable {conf : Conf} {clock : ℕ → Time} {u v : String} {w w' : World}

/-- The columns the lockout and expiry tests read, with the name in their messages. -/
structure Ledger where
  userName : Option String
  creationTime : Option DateTime
  loginAttempts : ℤ
  lastLoginAttemptTime : Option DateTime
  extra : List (String × String)
  deriving DecidableEq, Repr

/-- The ledger of a row. -/
def SPasswordModel.ledger (row : SPasswordModel) : Ledger :=
  ⟨row.userName, row.creationTime, row.loginAttempts, row.lastLoginAttemptTime, row.extra⟩

/-- The ledger of a user, if the user has a row. -/
def World.ledger (w : World) (u : String) : Option Ledger :=
  (w.spassword u).map SPasswordModel.ledger

/-- The attempt of a user with this record, decided at `t`. -/
def Ledger.attempted (userRecord : UserRecord) (accepted : Bool) (t : Time) :
    Option Ledger → Ledger
  | some l =>
    { l with
      loginAttempts := if accepted then 0 else l.loginAttempts + 1
      lastLoginAttemptTime := some (.utc t) }
  | none => ⟨some userRecord.name, some (.utc t), if accepted then 0 else 1, some (.utc t), []⟩

section Projections

variable (e : Event) (n : ℕ) (row : Option SPasswordModel) (userRecord : Option UserRecord)

@[simp] theorem World.note_ledger : (w.note e).ledger v = w.ledger v := rfl
@[simp] theorem World.tick_ledger : w.tick.ledger v = w.ledger v := rfl
@[simp] theorem World.ticked_ledger : (w.ticked n).ledger v = w.ledger v := rfl
@[simp] theorem World.setUser_ledger : (w.setUser u userRecord).ledger v = w.ledger v := rfl

@[simp] theorem World.setRow_ledger_self :
    (w.setRow u row).ledger u = row.map SPasswordModel.ledger := by
  simp [World.ledger]

theorem World.setRow_ledger_of_ne (h : v ≠ u) : (w.setRow u row).ledger v = w.ledger v := by
  simp [World.ledger, h]

end Projections

theorem World.ledger_of_row {row : SPasswordModel} (hrow : w.spassword u = some row) :
    w.ledger u = some row.ledger := by rw [World.ledger, hrow]; rfl

theorem World.ledger_of_no_row (hrow : w.spassword u = none) : w.ledger u = none := by
  rw [World.ledger, hrow]; rfl

/-! ### The mail of the second factor -/

/-- An accepted password now leads to a mail: the row waits for a second factor. -/
def NeedsMail (conf : Conf) (clock : ℕ → Time) (w : World) (row : SPasswordModel) : Prop :=
  Identity.WantsSndfa conf row ∧ row.sndfaEmail = true ∧
    ¬ Identity.Fresh conf row.sndfaLast (clock (w.ticks + 1))

/-- What an attempt changes: the ledger of its user. Either it is answered and recorded, or the
mail of the second factor is missing. -/
inductive AttemptLeft (conf : Conf) (clock : ℕ → Time) (env : AuthEnv) (w : World) (u : String)
    (userRecord : UserRecord) (res : Option User) : EStateM.Result PyExc World AuthResult → Prop
  /-- the attempt is answered, and the ledger has it -/
  | recorded (result : EStateM.Result PyExc World AuthResult) (w' : World)
      (hresult : (∃ answer, result = .ok answer w') ∨ ∃ e, result = .error e w' ∧ e.status = 401)
      (husers : w'.users = w.users) (hother : ∀ v ≠ u, w'.ledger v = w.ledger v)
      (hledger : w'.ledger u =
        some (Ledger.attempted userRecord res.isSome (clock w.ticks) (w.ledger u)))
      (hmail : ∀ row, w.spassword u = some row → res.isSome = true →
        NeedsMail conf clock w row → MailGoesOut conf env w u) :
      AttemptLeft conf clock env w u userRecord res result
  /-- `send_email` raises, or there is no address to send to -/
  | unmailed (row : SPasswordModel) (e : PyExc) (w' : World) (hrow : w.spassword u = some row)
      (hres : res.isSome = true) (hneeds : NeedsMail conf clock w row)
      (hmissing : ¬ MailGoesOut conf env w u) :
      AttemptLeft conf clock env w u userRecord res (.error e w')

/-- Storing the attempt in the ledger of a row. -/
theorem ledger_clearAttempts {row : SPasswordModel} (hrow : w.spassword u = some row) (t : Time) :
    (Identity.clearAttempts w u t).ledger u =
      some { row.ledger with loginAttempts := 0, lastLoginAttemptTime := some (.utc t) } :=
  World.ledger_of_row (Identity.spassword_clearAttempts hrow t)

theorem ledger_clearAttempts_of_ne (h : v ≠ u) (t : Time) :
    (Identity.clearAttempts w u t).ledger v = w.ledger v := World.setRow_ledger_of_ne _ h

/-- Getting a code ready leaves the ledgers alone. -/
theorem Identity.CodeReady.ledger {uuid : ShortCode} {row : SPasswordModel} {code : String}
    (h : CodeReady conf clock uuid u row w code w') (hrow : w.spassword u = some row) :
    (∃ row', w'.spassword u = some row' ∧ row'.ledger = row.ledger) ∧
      ∀ v ≠ u, w'.ledger v = w.ledger v := by
  cases h with
  | reused hfresh => exact ⟨⟨row, hrow, rfl⟩, fun _ _ => rfl⟩
  | issued n hstale =>
    exact ⟨⟨_, Function.update_self .., rfl⟩, fun v hv =>
      World.setRow_ledger_of_ne (w := w.ticked (n + 1)) _ hv⟩

theorem Identity.CodeReady.users {uuid : ShortCode} {row : SPasswordModel} {code : String}
    (h : CodeReady conf clock uuid u row w code w') : w'.users = w.users := by
  cases h <;> rfl

theorem attempt_left (henabled : conf.enabled = true) (htracks : Tracks w) {userRecord : UserRecord}
    (huser : w.users u = some userRecord) (env : AuthEnv) (res : Option User) :
    AttemptLeft conf clock env w u userRecord res
      ((Identity.attempt conf clock env u res).run w) := by
  have houtcome : Identity.AttemptOutcome conf clock env w u res
      ((Identity.attempt conf clock env u res).run w) :=
    Identity.attempt_outcome henabled env w u res
  generalize (Identity.attempt conf clock env u res).run w = result at houtcome
  cases houtcome with
  | lost _ e n hlost => exact absurd (huser.symm.trans (htracks.users_of_lost hlost)) (by simp)
  | firstRejected record' hrow huser' =>
    obtain rfl : userRecord = record' := Option.some.inj (huser.symm.trans huser')
    refine .recorded _ _ (.inr ⟨_, rfl, rfl⟩) rfl (fun v hv => World.setRow_ledger_of_ne _ hv) ?_
      (by simp)
    rw [World.ledger_of_no_row hrow]
    exact World.setRow_ledger_self _
  | firstAccepted user record' hrow huser' =>
    obtain rfl : userRecord = record' := Option.some.inj (huser.symm.trans huser')
    refine .recorded _ _ (.inl ⟨_, rfl⟩) rfl (fun v hv => World.setRow_ledger_of_ne _ hv) ?_
      (by simp [hrow])
    rw [World.ledger_of_no_row hrow]
    exact World.setRow_ledger_self _
  | rejected row hrow htime =>
    refine .recorded _ _ (.inr ⟨_, rfl, rfl⟩) rfl (fun v hv => World.setRow_ledger_of_ne _ hv) ?_
      (by simp)
    rw [World.ledger_of_row hrow]
    exact World.setRow_ledger_self _
  | passed user row created hrow hwants htime =>
    refine .recorded _ _ (.inl ⟨_, rfl⟩) rfl (fun v hv => ledger_clearAttempts_of_ne hv _) ?_ ?_
    · rw [World.ledger_of_row hrow]
      exact ledger_clearAttempts hrow _
    · intro row' hrow' _ hneeds
      obtain rfl : row = row' := Option.some.inj (hrow.symm.trans hrow')
      exact absurd hneeds.1 hwants
  | signed user row created hrow hwants hemail hsigned htime =>
    refine .recorded _ _ (.inl ⟨_, rfl⟩) rfl (fun v hv => ledger_clearAttempts_of_ne hv _) ?_ ?_
    · rw [World.ledger_of_row hrow]
      exact ledger_clearAttempts hrow _
    · intro row' hrow' _ hneeds
      obtain rfl : row = row' := Option.some.inj (hrow.symm.trans hrow')
      exact absurd hsigned hneeds.2.2
  | unverified user row hrow hwants hemail =>
    refine .recorded _ _ (.inr ⟨_, rfl, rfl⟩) rfl
      (fun v hv => ledger_clearAttempts_of_ne hv _) ?_ ?_
    · rw [World.ledger_of_row hrow]
      exact ledger_clearAttempts hrow _
    · intro row' hrow' _ hneeds
      obtain rfl : row = row' := Option.some.inj (hrow.symm.trans hrow')
      rw [hneeds.2.1] at hemail
      cases hemail
  | noAddress user row e n code w' hrow hwants hemail hunsigned hcode haddress =>
    exact .unmailed row e _ hrow rfl ⟨hwants, hemail, hunsigned⟩
      (not_mailGoesOut_of_none haddress)
  | mailRaised user row e n code w' record' address hrow hwants hemail hunsigned hcode huser'
      haddress hmail =>
    exact .unmailed row e _ hrow rfl ⟨hwants, hemail, hunsigned⟩
      (not_mailGoesOut_of_raises huser' haddress hmail)
  | challenged user row sent n code w' record' address hrow hwants hemail hunsigned hcode huser'
      haddress hmail =>
    obtain ⟨⟨row', hrow', hledger'⟩, hother⟩ := hcode.ledger hrow
    refine .recorded _ _ (.inr ⟨_, rfl, rfl⟩) hcode.users
      (fun v hv => (ledger_clearAttempts_of_ne hv _).trans (hother v hv)) ?_ ?_
    · rw [World.ledger_of_row hrow, ← hledger']
      exact ledger_clearAttempts hrow' _
    · exact fun _ _ _ _ => ⟨address, by simp [huser', haddress], sent, hmail⟩

/-- A missing mail is answered with the status 500: a `KeyError`, or what `send_email` raised. -/
theorem run_secondFactor_of_unmailed {row : SPasswordModel} {userRecord : UserRecord}
    (hrow : w.spassword u = some row) (huser : w.users u = some userRecord)
    (hneeds : NeedsMail conf clock w row) (env : AuthEnv) (hmissing : ¬ MailGoesOut conf env w u) :
    ∃ e w', (Identity.secondFactor conf clock env u row).run
      (Identity.afterVerdict clock w u true) = .error e w' ∧ e.status = 500 := by
  obtain ⟨hwants, hemail, hunsigned⟩ := hneeds
  obtain ⟨n, hn⟩ : ∃ n, (Identity.insideWindow conf clock row.sndfaLast).run
      (Identity.afterVerdict clock w u true) =
        .ok false ((Identity.afterVerdict clock w u true).ticked n) :=
    Identity.run_insideWindow_of_not_fresh hunsigned
  rw [Identity.run_secondFactor_of_unsigned hwants hemail hn, EStateM.run_bind]
  rcases Identity.sndfaCodeToMail_cases env (w := (Identity.afterVerdict clock w u true).ticked n)
    hrow hwants.2 hemail with ⟨hnone, -⟩ | ⟨code, w', hrun, husers, -⟩
  · rw [World.ticked_users, Identity.afterVerdict_users, huser] at hnone
    cases hnone
  · have huser' : w'.users u = some userRecord := (congrFun husers u).trans huser
    rw [hrun]
    dsimp only
    rw [EStateM.run_bind]
    cases haddress : userRecord.email with
    | none =>
      have hraise : (Identity.userEmail u).run w' = .error (.keyError "email") w' := by
        simp [Identity.userEmail, run_getUser_some w' huser', haddress]
      rw [hraise]
      exact ⟨_, _, rfl, rfl⟩
    | some address =>
      rw [Identity.run_userEmail_some huser' haddress]
      dsimp only
      rw [EStateM.run_bind, SendMail.run_sendEmail]
      cases hmail : (SendMail.delivery conf env.server address).2 with
      | ok sent => exact absurd ⟨address, by simp [huser, haddress], sent, hmail⟩ hmissing
      | error e =>
        obtain ⟨what, rfl⟩ := SendMail.delivery_error hmail
        exact ⟨_, _, rfl, rfl⟩

/-- The attempt of an accepted password ends as the second factor does, if that raises. -/
theorem status_of_unmailed (henabled : conf.enabled = true) (htracks : Tracks w)
    {row : SPasswordModel} {userRecord : UserRecord} (hrow : w.spassword u = some row)
    (huser : w.users u = some userRecord) (hneeds : NeedsMail conf clock w row) (env : AuthEnv)
    (user : User) (hmissing : ¬ MailGoesOut conf env w u) :
    ∃ e w', (Identity.attempt conf clock env u (some user)).run w = .error e w' ∧
      e.status = 500 := by
  obtain ⟨e, w', hrun, hstatus⟩ := run_secondFactor_of_unmailed hrow huser hneeds env hmissing
  obtain ⟨t, ht⟩ := (htracks.follows u row hrow).creationTime
  refine ⟨e, w', ?_, hstatus⟩
  rw [Identity.run_attempt_of_row henabled hrow, Identity.registeredAttempt, EStateM.run_bind, ht,
    normalizeDbDate_utc, run_ofExcept_ok]
  dsimp only [Option.isSome_some]
  rw [EStateM.run_bind, hrun]

/-! ### Which attempts are recorded -/

/-- The call ends with a token or the status 401, and the row of the user says that the last
attempt was at `t` and how many have failed. -/
def Recorded (u : String) (t : Time) (attempts : ℤ) :
    EStateM.Result PyExc World AuthResult → Prop
  | .ok _ w' => ∃ row, w'.spassword u = some row ∧ row.lastLoginAttemptTime = some (.utc t) ∧
    row.loginAttempts = attempts
  | .error e w' => e.status = 401 ∧ ∃ row, w'.spassword u = some row ∧
    row.lastLoginAttemptTime = some (.utc t) ∧ row.loginAttempts = attempts

/-- **Which attempts are recorded.** A login whose password the base driver has judged is recorded
if and only if the mail of the second factor goes out, when there is one to send. The source sends
it before the commit, and lets through a missing address, an address no message can be made for,
and most of what a mail server can raise. -/
theorem attempt_recorded_iff (henabled : conf.enabled = true) (hreach : Reachable conf clock w)
    {row : SPasswordModel} (hrow : w.spassword u = some row) (env : AuthEnv) {password : String}
    {res : Option User} {w₁ : World}
    (hverdict : (Identity.verdict conf clock env u password).run w = .ok res w₁) :
    Recorded u (clock w₁.ticks) (if res.isSome then 0 else row.loginAttempts + 1)
        ((Identity.authenticate conf clock env u password).run w) ↔
      (res.isSome = true → NeedsMail conf clock w₁ row → MailGoesOut conf env w u) := by
  have htracks : Tracks w := tracks_of_reachable hreach
  obtain ⟨userRecord, huser⟩ := Option.ne_none_iff_exists'.mp (htracks.user u row hrow)
  obtain ⟨n, rfl⟩ : ∃ n, w₁ = w.ticked n := by
    have houtcome : Identity.VerdictOutcome conf clock w u
        ((Identity.verdict conf clock env u password).run w) :=
      Identity.verdict_outcome henabled env w u password
    rw [hverdict] at houtcome
    cases houtcome with
    | answered _ n hfree => exact ⟨n, rfl⟩
  have hrun : (Identity.authenticate conf clock env u password).run w =
      (Identity.attempt conf clock env u res).run (w.ticked n) := by
    rw [Identity.authenticate, EStateM.run_bind, hverdict]
  have htracks₁ : Tracks (w.ticked n) := ⟨htracks.present, htracks.user, htracks.follows⟩
  have hleft : AttemptLeft conf clock env (w.ticked n) u userRecord res
      ((Identity.attempt conf clock env u res).run (w.ticked n)) :=
    attempt_left henabled htracks₁ huser env res
  rw [hrun]
  have hunmailed : ∀ e w', (Identity.attempt conf clock env u res).run (w.ticked n) = .error e w' →
      res.isSome = true → NeedsMail conf clock (w.ticked n) row → ¬ MailGoesOut conf env w u →
        e.status = 500 := by
    intro e w' herror hres hneeds hmissing
    obtain ⟨user, rfl⟩ := Option.isSome_iff_exists.mp hres
    obtain ⟨e', w'', herror', hstatus⟩ :=
      status_of_unmailed henabled htracks₁ hrow huser hneeds env user hmissing
    rw [herror] at herror'
    cases herror'
    exact hstatus
  generalize (Identity.attempt conf clock env u res).run (w.ticked n) = result at hleft hunmailed
  cases hleft with
  | recorded _ w' hresult husers hother hledger hmail =>
    refine iff_of_true ?_ (hmail row hrow)
    rw [World.ledger_of_row (w := w.ticked n) hrow] at hledger
    obtain ⟨row', hrow', hledger'⟩ := Option.map_eq_some_iff.mp hledger
    have hstored : ∃ row, w'.spassword u = some row ∧
        row.lastLoginAttemptTime = some (.utc (clock (w.ticked n).ticks)) ∧
          row.loginAttempts = if res.isSome then 0 else _ + 1 :=
      ⟨row', hrow', congrArg Ledger.lastLoginAttemptTime hledger',
        congrArg Ledger.loginAttempts hledger'⟩
    rcases hresult with ⟨answer, rfl⟩ | ⟨e, rfl, hstatus⟩
    · exact hstored
    · exact ⟨hstatus, hstored⟩
  | unmailed row' e w' hrow' hres hneeds hmissing =>
    obtain rfl : row = row' := Option.some.inj (hrow.symm.trans hrow')
    refine iff_of_false ?_ fun hgoes => hmissing (hgoes hres hneeds)
    rintro ⟨hstatus, -⟩
    rw [hunmailed e w' rfl hres hneeds hmissing] at hstatus
    cases hstatus

/-- A wrong password is recorded. -/
theorem attempt_recorded_guess :
    let w := run Sample.conf Sample.ticking (.initial Sample.users) [Sample.login]
    Recorded "alice" 2 1 ((Identity.authenticate Sample.conf Sample.ticking (Sample.env Sample.code)
      "alice" "guess").run w) := by
  intro w
  have hreach : Reachable Sample.conf Sample.ticking w :=
    (reachable_initial Sample.users).run [Sample.login]
  have hverdict : ∃ w₁, (Identity.verdict Sample.conf Sample.ticking (Sample.env Sample.code)
      "alice" "guess").run w = .ok none w₁ ∧ w₁.ticks = 2 := ⟨_, rfl, rfl⟩
  obtain ⟨w₁, hrun, hticks⟩ := hverdict
  have hiff := attempt_recorded_iff rfl hreach rfl _ hrun
  rw [hticks] at hiff
  exact hiff.mpr (by simp)

/-- A wrong password is recorded. The correct one after it is not, when `quit` fails: the call is
answered with the status 500, and the row still counts the wrong one. -/
theorem attempt_lost_by_server :
    let w := run Sample.conf Sample.ticking (.initial Sample.users) (Sample.setUp ++ [Sample.guess])
    let env := { Sample.env Sample.code with server := { SmtpServer.up with quit := false } }
    ∃ e w', (Identity.authenticate Sample.conf Sample.ticking env "alice" "secret").run w =
      .error e w' ∧ e.status = 500 ∧
        (w.spassword "alice").map SPasswordModel.loginAttempts = some 1 ∧
        (w'.spassword "alice").map SPasswordModel.loginAttempts = some 1 :=
  ⟨_, _, rfl, rfl, by decide, by decide⟩

end KeystoneSpassword
