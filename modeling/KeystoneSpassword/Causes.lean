import KeystoneSpassword.Blacklist
import KeystoneSpassword.Refusals

/-!
# Why a call is refused

Most of what the extension can raise it means to raise: a refusal of a login, or an answer to a
request that should not have been made. The rest would be a defect: a missing date that is
normalised, a text that `eval` does not know, a row inserted twice, an `AssertionError` that is not
caught. From a reachable state no call gets there. Every exception is in the two tables below, and
is there for a reason that the client, the administrator or the mail server has given.

The login is followed from its first read to its last. Up to the verdict it writes nothing, so each
read of the row finds the same one, and the clock has been read a known number of times
(`Unwritten`). After that the outcome of each part is known from the state it starts in.

Two exceptions are outside the tables because they are outside the model. `pwd_user_blacklist` is
set, to a list: left unset it is `None`, and each membership test raises `TypeError`. And no date
leaves the years 1 to 9999, where `datetime` raises `OverflowError`.

## Main definitions

* `Identity.Refusal` — the exceptions of a login, with their causes
* `Request.Refusal` — the exceptions of a request, with their causes

## Main results

* `refusals_have_causes`
-/

namespace KeystoneSpassword

open StateProgram

variable {conf : Conf} {clock : ℕ → Time} {w s : World} {u : String} {E : PyExc → Prop}

/-! ### Reads -/

/-- A method that looks at the row first, in a known state. -/
theorem raisesOnly_row {α : Type} {f : Option SPasswordModel → Py α}
    (hf : RaisesOnly E (f (s.spassword u)) s) : RaisesOnly E (getSpasswordSession u >>= f) s :=
  raisesOnly_bind_of_ok (run_getSpasswordSession s u) hf

/-- A method that looks at the user first: there is one, or that is the exception. -/
theorem raisesOnly_getUser {α : Type} {f : User → Py α}
    (hnone : s.users u = none → E (.userNotFound u))
    (hf : ∀ userRecord, s.users u = some userRecord → RaisesOnly E (f (userRecord.toUser u)) s) :
    RaisesOnly E (getUser u >>= f) s := by
  cases huser : s.users u with
  | none => exact raisesOnly_bind_of_error (run_getUser_none s huser) (hnone huser)
  | some userRecord => exact raisesOnly_bind_of_ok (run_getUser_some s huser) (hf userRecord huser)

/-! ### Methods that never raise -/

section Never

variable (u : String)

theorem raisesOnly_stampCreationTime (user : User) :
    RaisesOnly E (SPassword.stampCreationTime clock user) s := by
  cases hrow : s.spassword user.id with
  | none => exact raisesOnly_of_ok (run_stampCreationTime_of_no_row hrow)
  | some row => exact raisesOnly_of_ok (run_stampCreationTime_of_row hrow)

/-- The updated event for a user that exists. -/
theorem raisesOnly_userUpdatedCallback (huser : s.users u ≠ none) :
    RaisesOnly E (SPasswordManager.userUpdatedCallback conf clock u) s :=
  raisesOnly_getUser (fun hnone => absurd hnone huser) fun _ _ =>
    RaisesOnly.ite (fun _ => raisesOnly_stampCreationTime _) fun _ => raisesOnly_pure ()

theorem raisesOnly_removeUser : RaisesOnly E (SPassword.removeUser u) s := by
  refine raisesOnly_row ?_
  cases s.spassword u with
  | none => exact raisesOnly_of_ok rfl
  | some row => exact raisesOnly_of_ok rfl

theorem raisesOnly_modifySndfa (enable : Bool) :
    RaisesOnly E (SPassword.modifySndfa u enable) s := by
  refine raisesOnly_row ?_
  cases s.spassword u with
  | none => exact raisesOnly_pure false
  | some row =>
    exact RaisesOnly.ite (fun _ => raisesOnly_of_ok rfl) fun _ => raisesOnly_pure false

theorem raisesOnly_getSndfa : RaisesOnly E (SPassword.getSndfa u) s := by
  refine raisesOnly_row ?_
  cases s.spassword u with
  | none => exact raisesOnly_pure false
  | some row => exact raisesOnly_pure _

theorem raisesOnly_checkSndfaCode (code : String) :
    RaisesOnly E (SPassword.checkSndfaCode clock u code) s := by
  refine raisesOnly_row ?_
  cases s.spassword u with
  | none => exact raisesOnly_pure false
  | some row =>
    refine RaisesOnly.ite (fun _ => ?_) fun _ => raisesOnly_pure false
    exact RaisesOnly.ite (fun _ => raisesOnly_of_ok rfl) fun _ => raisesOnly_pure false

theorem raisesOnly_modifyBlack (enable : Bool) :
    RaisesOnly E (SPassword.modifyBlack u enable) s := by
  refine raisesOnly_row ?_
  cases s.spassword u with
  | none => exact raisesOnly_pure false
  | some row => exact raisesOnly_of_ok rfl

theorem raisesOnly_alreadyEmailChecked : RaisesOnly E (SPassword.alreadyEmailChecked u) s :=
  raisesOnly_of_ok (SPassword.run_alreadyEmailChecked s u)

theorem raisesOnly_userAskCheckEmailCode (origin : CodeOrigin) (uuid : ShortCode) :
    RaisesOnly E (SPasswordManager.userAskCheckEmailCode origin u uuid) s := by
  refine (raisesOnly_alreadyEmailChecked u).bind fun _ s₁ _ => ?_
  refine RaisesOnly.bind (raisesOnly_row ?_) fun _ s₂ _ => raisesOnly_pure uuid.code
  cases s₁.spassword u with
  | none => exact raisesOnly_pure ()
  | some row => exact raisesOnly_of_ok rfl

theorem raisesOnly_checkEmailCode (code : String) :
    RaisesOnly E (SPassword.checkEmailCode u code) s := by
  refine raisesOnly_row ?_
  cases s.spassword u with
  | none => exact raisesOnly_pure false
  | some row =>
    exact RaisesOnly.ite (fun _ => raisesOnly_of_ok rfl) fun _ => raisesOnly_pure false

end Never

/-- Every row has its date. -/
theorem raisesOnly_getPwdExpiration (hreach : Reachable conf clock w) (u : String) :
    RaisesOnly E (SPassword.getPwdExpiration conf u) w := by
  refine raisesOnly_row ?_
  cases hrow : w.spassword u with
  | none => exact raisesOnly_pure none
  | some row =>
    obtain ⟨t, ht⟩ := ((tracks_of_reachable hreach).follows u row hrow).creationTime
    simp only [ht, normalizeDbDate_utc]
    exact raisesOnly_of_ok rfl

theorem raisesOnly_sendEmail (server : SmtpServer) (mail : Mail)
    (hmail : ∀ e, (SendMail.delivery conf server mail.dest).2 = .error e → E e) :
    RaisesOnly E (SendMail.sendEmail conf server u mail) s := by
  refine RaisesOnly.bind (raisesOnly_of_ok rfl) fun _ s' _ => ?_
  cases hdelivery : (SendMail.delivery conf server mail.dest).2 with
  | ok sent => exact raisesOnly_pure sent
  | error e => exact raisesOnly_throw (hmail e hdelivery)

/-! ### A login -/

namespace Identity

/-- A correct password on a row that waits for the second factor: it is on, the email is verified,
and at a reading of the clock the last validation is not inside the window. -/
structure Awaited (conf : Conf) (clock : ℕ → Time) (w : World) (env : AuthEnv) (u password : String)
    (userRecord : UserRecord) : Prop where
  enabled : conf.enabled = true
  accepted : ∃ user, (env.base u password).own = .user user
  user : w.users u = some userRecord
  stale : ∃ row n, w.spassword u = some row ∧ WantsSndfa conf row ∧ row.sndfaEmail = true ∧
    n ≤ 3 ∧ ¬ Fresh conf row.sndfaLast (clock (w.ticks + n))

/-- The exceptions of a login, with their causes. -/
inductive Refusal (conf : Conf) (clock : ℕ → Time) (w : World) (env : AuthEnv)
    (u password : String) : PyExc → Prop
  /-- more wrong passwords than the limit, the last attempt inside the blocking time when the call
  reads the clock first, and no exemption -/
  | blocked (row : SPasswordModel) (last : Time) (henabled : conf.enabled = true)
      (hrow : w.spassword u = some row) (hlisted : u ∉ conf.pwdUserBlacklist)
      (htries : conf.pwdMaxTries < row.loginAttempts)
      (hlast : row.lastLoginAttemptTime = some (.utc last))
      (hinside : clock w.ticks < last + conf.blockTime) :
      Refusal conf clock w env u password
        (.spasswordUnauthorized (blockedMessage row.userName))
  /-- the base driver asks for the password, which was too old when the call read the clock, and
  there is no exemption -/
  | expired (row : SPasswordModel) (created : Time) (n : ℕ) (henabled : conf.enabled = true)
      (hasks : ∃ a, env.base u password = .check a) (hrow : w.spassword u = some row)
      (hchecks : checksExpiry conf u row = .ok true)
      (hcreated : row.creationTime = some (.utc created)) (hn : n ≤ 1)
      (hold : created + days conf.pwdExpDays < clock (w.ticks + n)) :
      Refusal conf clock w env u password
        (.spasswordUnauthorized (expiredMessage row.userName))
  /-- the base driver raises -/
  | base (what : String) (hbase : (env.base u password).own = .raised what) :
      Refusal conf clock w env u password (.other what)
  /-- the base driver says no -/
  | invalid (hbase : (env.base u password).own = .assertionError) :
      Refusal conf clock w env u password (.spasswordUnauthorized invalidMessage)
  /-- the base driver has answered for a user that Keystone does not have -/
  | unknown (henabled : conf.enabled = true) (huser : w.users u = none) :
      Refusal conf clock w env u password (.userNotFound u)
  /-- a correct password, the second factor is on, and the email is not verified -/
  | notVerified (row : SPasswordModel) (henabled : conf.enabled = true)
      (haccepted : ∃ user, (env.base u password).own = .user user)
      (hrow : w.spassword u = some row) (hwants : WantsSndfa conf row)
      (hemail : row.sndfaEmail = false) :
      Refusal conf clock w env u password (.spasswordUnauthorized notVerifiedMessage)
  /-- the second factor is awaited, and its mail has been sent, or given up without an exception -/
  | expecting (userRecord : UserRecord) (address : Address) (sent : Bool)
      (h : Awaited conf clock w env u password userRecord)
      (haddress : userRecord.email = some address)
      (hmail : (SendMail.delivery conf env.server address).2 = .ok sent) :
      Refusal conf clock w env u password (.spasswordUnauthorized expectingMessage)
  /-- the second factor is awaited, and the user's record has no address -/
  | noAddress (userRecord : UserRecord) (h : Awaited conf clock w env u password userRecord)
      (haddress : userRecord.email = none) :
      Refusal conf clock w env u password (.keyError "email")
  /-- the second factor is awaited, and `send_email` raises: no message can be made for the
  address, or the mail server raises -/
  | mail (userRecord : UserRecord) (address : Address) (e : PyExc)
      (h : Awaited conf clock w env u password userRecord)
      (haddress : userRecord.email = some address)
      (hmail : (SendMail.delivery conf env.server address).2 = .error e) :
      Refusal conf clock w env u password e

/-- At most `n` readings of the clock later, the users and the table are still those the call has
found. -/
structure Unwritten (w : World) (n : ℕ) (s : World) : Prop where
  users : s.users = w.users
  spassword : s.spassword = w.spassword
  ticks : ∃ m ≤ n, s.ticks = w.ticks + m

theorem Unwritten.refl (w : World) (n : ℕ) : Unwritten w n w := ⟨rfl, rfl, 0, n.zero_le, rfl⟩

theorem Unwritten.mono {n m : ℕ} (h : Unwritten w n s) (hnm : n ≤ m) : Unwritten w m s := by
  obtain ⟨k, hk, hticks⟩ := h.ticks
  exact ⟨h.users, h.spassword, k, hk.trans hnm, hticks⟩

theorem Unwritten.tick {n : ℕ} (h : Unwritten w n s) : Unwritten w (n + 1) s.tick := by
  obtain ⟨m, hm, hticks⟩ := h.ticks
  refine ⟨h.users, h.spassword, m + 1, Nat.succ_le_succ hm, ?_⟩
  rw [World.tick_ticks, hticks, Nat.add_assoc]

section Verdict

variable {env : AuthEnv} {password : String}

/-- A counter above the limit has been dated. -/
theorem lockoutTest_ends (henabled : conf.enabled = true) (hlimit : 0 ≤ conf.pwdMaxTries)
    (hreach : Reachable conf clock w) (hlisted : u ∉ conf.pwdUserBlacklist) :
    Ends (fun _ s => Unwritten w 1 s) (Refusal conf clock w env u password)
      (lockoutTest conf clock u (w.spassword u)) w := by
  cases hrow : w.spassword u with
  | none => exact ends_pure (.refl w 1)
  | some row =>
    refine Ends.ite (fun htries => ?_) fun _ => ends_pure (.refl w 1)
    obtain ⟨last, hlast⟩ := ((tracks_of_reachable hreach).follows u row hrow).lastLoginAttemptTime
      (lt_of_le_of_lt hlimit htries)
    rw [hlast, normalizeDbDate_utc]
    refine ends_bind_of_ok rfl (ends_bind_of_ok (run_utcnow w clock) ?_)
    refine Ends.ite (fun hblocked => ?_) fun _ => ends_pure (Unwritten.refl w 0).tick
    have hinside : clock w.ticks - conf.blockTime < last := by
      simpa [blockedAt, DateTime.lt_def] using hblocked
    exact ends_of_error rfl
      (.blocked row last henabled hrow hlisted htries hlast (by linarith))

/-- The row has its date, and the text of its flag is a boolean literal. -/
theorem checkPassword_ends (hreach : Reachable conf clock w)
    (hasks : ∃ a, env.base u password = .check a) (hs : Unwritten w 1 s) :
    Ends (fun _ s' => Unwritten w 2 s') (Refusal conf clock w env u password)
      (checkPassword conf clock u) s := by
  refine Ends.ite (fun henabled => ?_) fun _ => ends_pure (hs.mono (by decide))
  refine ends_bind_of_ok (run_getSpasswordSession s u) ?_
  rw [hs.spassword]
  cases hrow : w.spassword u with
  | none => exact ends_pure (hs.mono (by decide))
  | some row =>
    obtain ⟨checked, hchecks⟩ : ∃ checked, checksExpiry conf u row = .ok checked :=
      ⟨_, checksExpiry_of_reachable hreach hrow⟩
    obtain ⟨created, hcreated⟩ :=
      ((tracks_of_reachable hreach).follows u row hrow).creationTime
    cases checked with
    | false =>
      dsimp only
      rw [hchecks]
      exact ends_pure (hs.mono (by decide))
    | true =>
      dsimp only
      rw [hchecks, hcreated, normalizeDbDate_utc]
      refine ends_bind_of_ok (run_ofExcept_ok s true) (Ends.ite (fun _ => ?_) fun h => absurd rfl h)
      refine ends_bind_of_ok (run_utcnow s clock) (ends_bind_of_ok rfl ?_)
      refine Ends.ite (fun hold => ?_) fun _ => ends_pure hs.tick
      obtain ⟨n, hn, hticks⟩ := hs.ticks
      have hold' : created < clock s.ticks - days conf.pwdExpDays := hold
      rw [hticks] at hold'
      exact ends_of_error rfl
        (.expired row created n henabled hasks hrow hchecks hcreated hn (by linarith))

/-- What the base driver answers is what the login goes on with. -/
def Answers (env : AuthEnv) (u password : String) : Option User → Prop
  | some user => (env.base u password).own = .user user
  | none => (env.base u password).own = .assertionError

theorem toPy_ends {a : BaseAnswer} (ha : (env.base u password).own = a) (hs : Unwritten w 2 s) :
    Ends (fun res s' => Unwritten w 2 s' ∧ Answers env u password res)
      (Refusal conf clock w env u password) (BaseAnswer.toPy a) s := by
  cases a with
  | user user => exact ends_pure ⟨hs, ha⟩
  | assertionError => exact ends_pure ⟨hs, ha⟩
  | raised what => exact ends_throw (.base what ha)

theorem verdict_ends (hlimit : 0 ≤ conf.pwdMaxTries) (hreach : Reachable conf clock w) :
    Ends (fun res s => Unwritten w 2 s ∧ Answers env u password res)
      (Refusal conf clock w env u password) (verdict conf clock env u password) w := by
  have hbase : ∀ s, Unwritten w 1 s →
      Ends (fun res s => Unwritten w 2 s ∧ Answers env u password res)
        (Refusal conf clock w env u password) (baseAuthenticate conf clock env u password) s := by
    intro s hs
    rw [baseAuthenticate]
    cases hcall : env.base u password with
    | answer a => exact toPy_ends (congrArg BaseCall.own hcall) (hs.mono (by decide))
    | check a =>
      exact (checkPassword_ends hreach ⟨a, hcall⟩ hs).bind fun _ _ hs' =>
        toPy_ends (congrArg BaseCall.own hcall) hs'
  refine Ends.ite (fun htest => ?_) fun _ => hbase w (.refl w 1)
  simp only [Bool.and_eq_true, Bool.not_eq_true', decide_eq_false_iff_not] at htest
  refine ends_bind_of_ok (run_getSpasswordSession w u) ?_
  exact (lockoutTest_ends htest.1 hlimit hreach htest.2).bind fun _ s hs => hbase s hs

end Verdict

section Attempt

variable {env : AuthEnv} {password : String}

/-- The second factor on a row as it was read, for a user that exists: it raises for a cause, and
so will the login with the message it returns. -/
theorem secondFactor_ends (henabled : conf.enabled = true) {user : User}
    (haccepted : (env.base u password).own = .user user) {row : SPasswordModel}
    {userRecord : UserRecord} (hrow : w.spassword u = some row)
    (huser : w.users u = some userRecord) (hs : Unwritten w 3 s) :
    Ends (fun refusal _ => ∀ message, refusal = some message →
        Refusal conf clock w env u password (.spasswordUnauthorized message))
      (Refusal conf clock w env u password) (secondFactor conf clock env u row) s := by
  by_cases hwants : WantsSndfa conf row
  · cases hemail : row.sndfaEmail with
    | false =>
      refine ends_of_ok (run_secondFactor_of_unverified hwants hemail) fun message h => ?_
      cases h
      exact .notVerified row henabled ⟨user, haccepted⟩ hrow hwants hemail
    | true =>
      by_cases hsigned : Fresh conf row.sndfaLast (clock s.ticks)
      · exact ends_of_ok (run_secondFactor_of_signed hwants hemail hsigned)
          fun message h => by cases h
      · have hawaited : Awaited conf clock w env u password userRecord := by
          obtain ⟨n, hn, hticks⟩ := hs.ticks
          exact ⟨henabled, ⟨user, haccepted⟩, huser, row, n, hrow, hwants, hemail, hn,
            hticks ▸ hsigned⟩
        obtain ⟨n, hn⟩ : ∃ n, (insideWindow conf clock row.sndfaLast).run s =
            .ok false (s.ticked n) := run_insideWindow_of_not_fresh hsigned
        have hmail : Ends (fun _ s₁ => s₁.users u = some userRecord)
            (Refusal conf clock w env u password) (sndfaCodeToMail conf clock env u row)
              (s.ticked n) := by
          have hticked : (s.ticked n).spassword u = some row :=
            (congrFun hs.spassword u).trans hrow
          have huser' : s.users u = some userRecord := (congrFun hs.users u).trans huser
          rcases sndfaCodeToMail_cases env hticked hwants.2 hemail with
            ⟨hnone, -⟩ | ⟨code, s₁, hrun, husers, -⟩
          · exact absurd (huser'.symm.trans hnone) (by simp)
          · exact ends_of_ok hrun ((congrFun husers u).trans huser')
        refine ends_congr (run_secondFactor_of_unsigned hwants hemail hn) ?_
        refine hmail.bind fun code s₁ huser₁ => ?_
        cases haddress : userRecord.email with
        | none =>
          have hraises : (userEmail u).run s₁ = .error (.keyError "email") s₁ := by
            simp [userEmail, run_getUser_some s₁ huser₁, UserRecord.toUser, haddress]
          exact ends_bind_of_error hraises (.noAddress userRecord hawaited haddress)
        | some address =>
          refine ends_bind_of_ok (run_userEmail_some huser₁ haddress) ?_
          cases hdelivery : (SendMail.delivery conf env.server address).2 with
          | error e =>
            refine Ends.bind (Q := fun _ _ => False) ?_ fun _ _ h => h.elim
            refine ends_congr (SendMail.run_sendEmail ..) ?_
            rw [hdelivery]
            exact ends_throw (.mail userRecord address e hawaited haddress hdelivery)
          | ok sent =>
            refine Ends.bind (Q := fun _ _ => True) ?_ fun _ _ _ => ends_pure fun message h => ?_
            · refine ends_congr (SendMail.run_sendEmail ..) ?_
              rw [hdelivery]
              exact ends_pure trivial
            cases h
            exact .expecting userRecord address sent hawaited haddress hdelivery
  · exact ends_of_ok (run_secondFactor_of_not_wants hwants) fun message h => by cases h

/-- A row belongs to a user that exists, and has its date. -/
theorem raisesOnly_accepted (henabled : conf.enabled = true) (hreach : Reachable conf clock w)
    {row : SPasswordModel} {user : User} (haccepted : (env.base u password).own = .user user)
    {now : DateTime} (hrow : w.spassword u = some row) (hs : Unwritten w 3 s) :
    RaisesOnly (Refusal conf clock w env u password)
      (registeredAttempt conf clock env u row (some user) now) s := by
  obtain ⟨t, ht⟩ := ((tracks_of_reachable hreach).follows u row hrow).creationTime
  obtain ⟨userRecord, huser⟩ :=
    Option.ne_none_iff_exists'.mp ((tracks_of_reachable hreach).user u row hrow)
  rw [registeredAttempt, ht, normalizeDbDate_utc]
  refine raisesOnly_bind_of_ok rfl ?_
  have hends : Ends _ (Refusal conf clock w env u password) (secondFactor conf clock env u row) s :=
    secondFactor_ends henabled haccepted hrow huser hs
  refine hends.1.bind fun refusal s₂ hrun => raisesOnly_bind_of_ok rfl ?_
  cases refusal with
  | some message => exact raisesOnly_throw (hends.2 _ s₂ hrun message rfl)
  | none => exact raisesOnly_of_ok rfl

theorem raisesOnly_attempt (hreach : Reachable conf clock w) {res : Option User}
    (hres : Answers env u password res) (hs : Unwritten w 2 s) :
    RaisesOnly (Refusal conf clock w env u password) (attempt conf clock env u res) s := by
  by_cases henabled : conf.enabled = true
  · refine raisesOnly_congr (run_attempt henabled env s u res) ?_
    have hs₁ : Unwritten w 3 (afterVerdict clock s u res.isSome) :=
      ⟨hs.users, hs.spassword, hs.tick.ticks⟩
    generalize afterVerdict clock s u res.isSome = s₁ at hs₁
    rw [hs.spassword]
    cases hrow : w.spassword u with
    | none =>
      have hrow₁ : s₁.spassword u = none := (congrFun hs₁.spassword u).trans hrow
      cases huser : w.users u with
      | none =>
        have hnone : s₁.users u = none := (congrFun hs₁.users u).trans huser
        refine raisesOnly_getUser (fun _ => .unknown henabled huser) fun userRecord hsome => ?_
        exact absurd (hnone.symm.trans hsome) (by simp)
      | some userRecord =>
        have huser₁ : s₁.users u = some userRecord := (congrFun hs₁.users u).trans huser
        cases res with
        | none =>
          have hrun : (firstAttempt conf u none (.utc (clock s.ticks))).run s₁ = _ :=
            run_firstAttempt_rejected hrow₁ huser₁
          exact raisesOnly_of_error hrun (.invalid hres)
        | some user => exact raisesOnly_of_ok (run_firstAttempt_accepted hrow₁ huser₁)
    | some row =>
      obtain ⟨t, ht⟩ := ((tracks_of_reachable hreach).follows u row hrow).creationTime
      cases res with
      | none =>
        have hdated : row.creationTime.isSome = true := by rw [ht]; rfl
        have hrow₁ : s₁.spassword u = some row := (congrFun hs₁.spassword u).trans hrow
        have hrun : (registeredAttempt conf clock env u row none (.utc (clock s.ticks))).run s₁ =
            _ := run_registeredAttempt_rejected hdated hrow₁
        exact raisesOnly_of_error hrun (.invalid hres)
      | some user => exact raisesOnly_accepted henabled hreach hres hrow hs₁
  · refine RaisesOnly.ite (fun h => absurd h henabled) fun _ => ?_
    cases res with
    | none => exact raisesOnly_throw (.invalid hres)
    | some user => exact raisesOnly_pure _

theorem raisesOnly_authenticate (hlimit : 0 ≤ conf.pwdMaxTries) (hreach : Reachable conf clock w) :
    RaisesOnly (Refusal conf clock w env u password)
      (authenticate conf clock env u password) w := by
  have hverdict : Ends (fun res s => Unwritten w 2 s ∧ Answers env u password res)
      (Refusal conf clock w env u password) (verdict conf clock env u password) w :=
    verdict_ends hlimit hreach
  refine hverdict.1.bind fun res s hrun => ?_
  obtain ⟨hs, hres⟩ := hverdict.2 res s hrun
  exact raisesOnly_attempt hreach hres hs

end Attempt

end Identity

/-! ### A request -/

namespace Request

/-- The handler refuses where the extension, or its second factor, is off. -/
def NeedsConfigured : Request → Prop
  | recoverPassword _ _ _ | modifySndfa _ _ _ | checkSndfaCode _ _ | modifyBlack _ _ _ => True
  | _ => False

/-- The handler refuses a user without an address. -/
def NeedsAddress : Request → Prop
  | recoverPassword _ _ _ | modifySndfa _ _ _ | askForCheckEmailCode _ _ _ _
  | checkEmailCode _ _ => True
  | _ => False

/-- The handler refuses a user whose email is not verified. -/
def NeedsVerified : Request → Prop
  | recoverPassword _ _ _ | modifySndfa _ _ _ | checkSndfaCode _ _ => True
  | _ => False

/-- The enforcer was asked, and said no. -/
def Forbidden : Request → Prop
  | modifySndfa _ _ allowed | getSndfa _ allowed | askForCheckEmailCode _ _ _ allowed
  | modifyBlack _ _ allowed | getBlack _ allowed => allowed = false
  | _ => False

/-- The `enable` of the body is there and is no boolean. -/
def Malformed : Request → Prop
  | modifySndfa _ enable _ | modifyBlack _ enable _ => ∀ b, enable.getD (.bool false) ≠ .bool b
  | _ => False

/-- The mail server the handler turns to. -/
def server? : Request → Option SmtpServer
  | recoverPassword _ _ server | resetPassword _ _ _ _ server
  | askForCheckEmailCode _ _ server _ => some server
  | _ => none

/-- The handler gets as far as `send_email`. -/
def Mails (conf : Conf) (w : World) : Request → Prop
  | recoverPassword u _ _ => (conf.enabled = true ∧ conf.sndfa = true) ∧ EmailVerified w u
  | resetPassword u code _ fault _ => SPassword.EmailCodeStored w u code ∧ fault = none
  | askForCheckEmailCode _ _ _ allowed => allowed = true
  | _ => False

/-- The exceptions of a request, with their causes. -/
inductive Refusal (conf : Conf) (w : World) (r : Request) : PyExc → Prop
  | notConfigured (h : r.NeedsConfigured) (hconf : ¬ (conf.enabled = true ∧ conf.sndfa = true)) :
      Refusal conf w r .notConfigured
  | forbidden (h : r.Forbidden) : Refusal conf w r .forbidden
  | unknown (huser : w.users r.userId = none) : Refusal conf w r (.userNotFound r.userId)
  | noAddress (userRecord : UserRecord) (h : r.NeedsAddress)
      (huser : w.users r.userId = some userRecord) (haddress : userRecord.email = none) :
      Refusal conf w r (.unauthorized
        ("User " ++ r.userId ++ " " ++ userRecord.name ++ " has no email defined"))
  | notVerified (userRecord : UserRecord) (h : r.NeedsVerified)
      (huser : w.users r.userId = some userRecord) (hemail : ¬ EmailVerified w r.userId) :
      Refusal conf w r (.unauthorized
        ("User " ++ r.userId ++ " " ++ userRecord.name ++ " has no email verified"))
  | malformed (h : r.Malformed) : Refusal conf w r (.validationError "invalid body format")
  /-- the code is the stored one, and Keystone does not take the new password -/
  | rejected (u code : String) (newPassword : NewPassword) (server : SmtpServer)
      (h : r = .resetPassword u code newPassword (some .assertionError) server)
      (hcode : SPassword.EmailCodeStored w u code) :
      Refusal conf w r (.unauthorized "Invalid username or password")
  /-- the code is the stored one, and Keystone raises while it changes the password -/
  | fault (u code : String) (newPassword : NewPassword) (e : PyExc) (server : SmtpServer)
      (h : r = .resetPassword u code newPassword (some e) server) (he : e ≠ .assertionError)
      (hcode : SPassword.EmailCodeStored w u code) : Refusal conf w r e
  /-- the password is reset, and there is no address to mail it to -/
  | unmailed (u code : String) (newPassword : NewPassword) (server : SmtpServer)
      (h : r = .resetPassword u code newPassword none server)
      (hcode : SPassword.EmailCodeStored w u code) (userRecord : UserRecord)
      (huser : w.users u = some userRecord) (haddress : userRecord.email = none) :
      Refusal conf w r (.keyError "email")
  /-- `send_email` raises: no message can be made for the address, or the mail server raises -/
  | mail (server : SmtpServer) (userRecord : UserRecord) (address : Address) (e : PyExc)
      (h : r.server? = some server) (hmails : r.Mails conf w)
      (huser : w.users r.userId = some userRecord) (haddress : userRecord.email = some address)
      (hmail : (SendMail.delivery conf server address).2 = .error e) : Refusal conf w r e

end Request

namespace SPasswordResource

section Checks

variable {α : Type} {r : Request}

/-! Each check of the handlers refuses for its cause, and the rest runs in the same state. -/

theorem raisesOnly_checkSpasswordConfigured (h : r.NeedsConfigured) {f : Unit → Py α}
    (hf : conf.enabled = true ∧ conf.sndfa = true → RaisesOnly (r.Refusal conf w) (f ()) s) :
    RaisesOnly (r.Refusal conf w) (checkSpasswordConfigured conf >>= f) s := by
  have hrun := run_checkSpasswordConfigured conf s
  by_cases hconf : conf.enabled = true ∧ conf.sndfa = true
  · rw [if_pos hconf] at hrun
    exact raisesOnly_bind_of_ok hrun (hf hconf)
  · rw [if_neg hconf] at hrun
    exact raisesOnly_bind_of_error hrun (.notConfigured h hconf)

theorem raisesOnly_enforceCall {allowed : Bool} (h : allowed = false → r.Forbidden)
    {f : Unit → Py α} (hf : allowed = true → RaisesOnly (r.Refusal conf w) (f ()) s) :
    RaisesOnly (r.Refusal conf w) (enforceCall allowed >>= f) s := by
  cases allowed with
  | true => exact raisesOnly_bind_of_ok rfl (hf rfl)
  | false => exact raisesOnly_bind_of_error rfl (.forbidden (h rfl))

theorem raisesOnly_user {f : User → Py α}
    (hf : ∀ userRecord, w.users r.userId = some userRecord →
      RaisesOnly (r.Refusal conf w) (f (userRecord.toUser r.userId)) w) :
    RaisesOnly (r.Refusal conf w) (getUser r.userId >>= f) w :=
  raisesOnly_getUser (fun hnone => .unknown hnone) hf

theorem raisesOnly_checkUserHasEmailDefined (h : r.NeedsAddress) {userRecord : UserRecord}
    (huser : w.users r.userId = some userRecord) {f : Address → Py α}
    (hf : ∀ address, userRecord.email = some address →
      RaisesOnly (r.Refusal conf w) (f address) s) :
    RaisesOnly (r.Refusal conf w)
      (checkUserHasEmailDefined (userRecord.toUser r.userId) >>= f) s := by
  cases haddress : userRecord.email with
  | none =>
    exact raisesOnly_bind_of_error (run_checkUserHasEmailDefined_none haddress)
      (.noAddress userRecord h huser haddress)
  | some address =>
    exact raisesOnly_bind_of_ok (run_checkUserHasEmailDefined_some haddress)
      (hf address haddress)

theorem raisesOnly_checkUserHasEmailValidated (h : r.NeedsVerified) {userRecord : UserRecord}
    (huser : w.users r.userId = some userRecord) {f : Unit → Py α}
    (hf : EmailVerified w r.userId → RaisesOnly (r.Refusal conf w) (f ()) w) :
    RaisesOnly (r.Refusal conf w)
      (checkUserHasEmailValidated (userRecord.toUser r.userId) >>= f) w := by
  by_cases hemail : EmailVerified w r.userId
  · exact raisesOnly_bind_of_ok (run_checkUserHasEmailValidated_of_verified hemail)
      (hf hemail)
  · exact raisesOnly_bind_of_error (run_checkUserHasEmailValidated_of_not_verified hemail)
      (.notVerified userRecord h huser hemail)

end Checks

/-- `update_user` with the new password, for a user that exists. -/
theorem raisesOnly_updatePassword {u password : String} {fault : Option PyExc}
    (huser : s.users u ≠ none) (hrejected : fault = some .assertionError →
      E (.unauthorized "Invalid username or password"))
    (hfault : ∀ e, fault = some e → e ≠ .assertionError → E e) :
    RaisesOnly E (updatePassword conf clock u password fault) s := by
  cases fault with
  | none =>
    obtain ⟨userRecord, hrecord⟩ := Option.ne_none_iff_exists'.mp huser
    refine raisesOnly_congr (run_updateUser hrecord _) (raisesOnly_userUpdatedCallback u ?_)
    simp
  | some e =>
    by_cases he : e = .assertionError
    · subst he
      exact raisesOnly_throw (hrejected rfl)
    · have hraises : (updatePassword conf clock u password (some e)).run s = .error e s := by
        cases e <;> first | rfl | exact absurd rfl he
      exact raisesOnly_of_error hraises (hfault e rfl he)

theorem raisesOnly_resetPassword {u code : String} {newPassword : NewPassword}
    {fault : Option PyExc} {server : SmtpServer} :
    RaisesOnly ((Request.resetPassword u code newPassword fault server).Refusal conf w)
      (resetPassword conf clock newPassword fault server u code) w := by
  refine raisesOnly_user (r := .resetPassword u code newPassword fault server)
    fun userRecord huser => ?_
  refine (raisesOnly_checkEmailCode u code).bind fun matched s' hrun => ?_
  have hexists : s'.users u ≠ none := by
    have husers := users_checkEmailCode (u := u) (w := w) code
    rw [final_of_run_ok hrun] at husers
    rw [husers]
    exact Option.ne_none_iff_exists'.mpr ⟨userRecord, huser⟩
  refine RaisesOnly.ite (fun hmatched => ?_) fun _ => raisesOnly_pure _
  have hcode : SPassword.EmailCodeStored w u code := by
    by_contra hwrong
    have hrun' : (SPassword.checkEmailCode u code).run w = .ok matched s' := hrun
    rw [run_checkEmailCode_false hwrong, hmatched] at hrun'
    injection hrun' with hfalse
    cases hfalse
  refine (raisesOnly_updatePassword hexists (fun h => ?_) fun e h he => ?_).bind
    fun _ s₁ hupdated => ?_
  · exact .rejected u code newPassword server (by rw [h]) hcode
  · exact .fault u code newPassword e server (by rw [h]) he hcode
  · obtain rfl : fault = none := by
      cases fault with
      | none => rfl
      | some e => cases e <;> cases hupdated
    refine RaisesOnly.bind (raisesOnly_of_ok rfl) fun _ s₂ _ => ?_
    cases haddress : userRecord.email with
    | none =>
      simp only [UserRecord.toUser, haddress]
      exact raisesOnly_throw
        (.unmailed u code newPassword server rfl hcode userRecord huser haddress)
    | some address =>
      simp only [UserRecord.toUser, haddress]
      exact (raisesOnly_sendEmail server _ fun e he =>
        .mail server userRecord address e rfl ⟨hcode, rfl⟩ huser haddress he).bind
          fun _ _ _ => raisesOnly_pure _

/-- **Every exception of a request has its cause.** -/
theorem raisesOnly_request (hreach : Reachable conf clock w) (r : Request) :
    RaisesOnly (r.Refusal conf w) (r.program conf clock) w := by
  cases r with
  | recoverPassword u uuid server =>
    refine raisesOnly_checkSpasswordConfigured (by trivial) fun hconf => ?_
    refine raisesOnly_user fun userRecord huser => ?_
    refine raisesOnly_checkUserHasEmailDefined (by trivial) huser fun address haddress =>
      raisesOnly_checkUserHasEmailValidated (by trivial) huser fun hverified => ?_
    refine (raisesOnly_userAskCheckEmailCode u .recover uuid).bind fun code _ _ =>
      (raisesOnly_checkEmailCode u code).bind fun _ _ _ => ?_
    exact (raisesOnly_sendEmail server _ fun e he =>
      .mail server userRecord address e rfl ⟨hconf, hverified⟩ huser haddress he).bind
        fun _ _ _ => raisesOnly_pure _
  | resetPassword u code newPassword fault server => exact raisesOnly_resetPassword
  | modifySndfa u enable allowed =>
    refine raisesOnly_checkSpasswordConfigured (by trivial) fun _ =>
      raisesOnly_enforceCall id fun _ => ?_
    refine raisesOnly_user fun userRecord huser => ?_
    refine raisesOnly_checkUserHasEmailDefined (by trivial) huser fun address _ =>
      raisesOnly_checkUserHasEmailValidated (by trivial) huser fun _ => ?_
    cases henable : enable.getD (.bool false) with
    | bool b => exact (raisesOnly_modifySndfa u b).bind fun _ _ _ => raisesOnly_pure _
    | _ => exact raisesOnly_throw (.malformed fun b h => by rw [henable] at h; cases h)
  | getSndfa u allowed =>
    refine raisesOnly_enforceCall id fun _ => raisesOnly_user fun _ _ => ?_
    exact (raisesOnly_alreadyEmailChecked u).bind fun _ _ _ =>
      (raisesOnly_getSndfa u).bind fun _ _ _ => raisesOnly_pure _
  | checkSndfaCode u code =>
    refine raisesOnly_checkSpasswordConfigured (by trivial) fun _ => ?_
    refine raisesOnly_user fun userRecord huser => ?_
    refine raisesOnly_checkUserHasEmailValidated (by trivial) huser fun _ => ?_
    exact (raisesOnly_checkSndfaCode u code).bind fun _ _ _ =>
      RaisesOnly.ite (fun _ => raisesOnly_pure _) fun _ => raisesOnly_pure _
  | askForCheckEmailCode u uuid server allowed =>
    refine raisesOnly_enforceCall id fun hallowed => raisesOnly_user fun userRecord huser => ?_
    refine raisesOnly_checkUserHasEmailDefined (by trivial) huser fun address haddress => ?_
    exact (raisesOnly_userAskCheckEmailCode u .checkemail uuid).bind fun code _ _ =>
      (raisesOnly_sendEmail server _ fun e he =>
        .mail server userRecord address e rfl hallowed huser haddress he).bind
          fun _ _ _ => raisesOnly_pure _
  | checkEmailCode u code =>
    refine raisesOnly_user fun userRecord huser => ?_
    refine raisesOnly_checkUserHasEmailDefined (by trivial) huser fun address _ => ?_
    exact (raisesOnly_checkEmailCode u code).bind fun _ _ _ =>
      RaisesOnly.ite (fun _ => raisesOnly_pure _) fun _ => raisesOnly_pure _
  | modifyBlack u enable allowed =>
    refine raisesOnly_checkSpasswordConfigured (by trivial) fun _ =>
      raisesOnly_enforceCall id fun _ => raisesOnly_user fun _ _ => ?_
    cases henable : enable.getD (.bool false) with
    | bool b => exact (raisesOnly_modifyBlack u b).bind fun _ _ _ => raisesOnly_pure _
    | _ => exact raisesOnly_throw (.malformed fun b h => by rw [henable] at h; cases h)
  | getBlack u allowed =>
    refine raisesOnly_enforceCall id fun _ => raisesOnly_user fun _ _ => ?_
    refine raisesOnly_bind_of_ok (run_getBlack_of_reachable hreach u) ?_
    exact (raisesOnly_getPwdExpiration hreach u).bind fun _ _ _ => raisesOnly_pure _

end SPasswordResource

/-! ### A call -/

/-- The exceptions of a call, with their causes. -/
def Op.Refusal (conf : Conf) (clock : ℕ → Time) (w : World) : Op → PyExc → Prop
  | .authenticate u password env, e => Identity.Refusal conf clock w env u password e
  | .updateUser u _, e => w.users u = none ∧ e = .userNotFound u
  | .request r, e => r.Refusal conf w e
  | _, _ => False

/-- **No call is refused without a cause.** In a reachable state every call returns, or it raises
an exception of the tables above, whose cause is there. So no missing date is normalised, no text is
evaluated that is no literal, no row is inserted twice, and no `AssertionError` gets out. -/
theorem refusals_have_causes (hlimit : 0 ≤ conf.pwdMaxTries) (hreach : Reachable conf clock w)
    (op : Op) : RaisesOnly (op.Refusal conf clock w) (op.program conf clock) w := by
  cases op with
  | createUser u userRecord =>
    refine RaisesOnly.bind (raisesOnly_of_ok rfl) fun _ s₁ hrun => ?_
    cases hrun
    refine RaisesOnly.bind (raisesOnly_of_ok rfl) fun _ s₂ hrun => ?_
    cases hrun
    exact raisesOnly_userUpdatedCallback u (by simp)
  | updateUser u userRecord =>
    cases huser : w.users u with
    | none =>
      have hraises : (IdentityApi.updateUser conf clock u fun old => old.merge userRecord).run w =
          .error (.userNotFound u) w := by simp [IdentityApi.updateUser, huser]
      exact raisesOnly_of_error hraises ⟨huser, rfl⟩
    | some old =>
      exact raisesOnly_congr (run_updateUser huser _) (raisesOnly_userUpdatedCallback u (by simp))
  | deleteUser u =>
    refine RaisesOnly.bind (raisesOnly_of_ok rfl) fun _ s₁ _ => ?_
    exact RaisesOnly.ite (fun _ => raisesOnly_removeUser u) fun _ => raisesOnly_pure ()
  | authenticate u password env =>
    exact (Identity.raisesOnly_authenticate hlimit hreach).bind fun _ _ _ => raisesOnly_pure ()
  | userModifySndfa u enable =>
    exact (raisesOnly_modifySndfa u enable).bind fun _ _ _ => raisesOnly_pure ()
  | userGetSndfa u => exact (raisesOnly_getSndfa u).bind fun _ _ _ => raisesOnly_pure ()
  | userAskCheckEmailCode u uuid =>
    exact (raisesOnly_userAskCheckEmailCode u .manager uuid).bind fun _ _ _ => raisesOnly_pure ()
  | userCheckEmailCode u code =>
    exact (raisesOnly_checkEmailCode u code).bind fun _ _ _ => raisesOnly_pure ()
  | alreadyUserCheckEmail u =>
    exact (raisesOnly_alreadyEmailChecked u).bind fun _ _ _ => raisesOnly_pure ()
  | userCheckSndfaCode u code =>
    exact (raisesOnly_checkSndfaCode u code).bind fun _ _ _ => raisesOnly_pure ()
  | userModifyBlack u enable =>
    exact (raisesOnly_modifyBlack u enable).bind fun _ _ _ => raisesOnly_pure ()
  | userGetBlack u =>
    exact raisesOnly_bind_of_ok (run_getBlack_of_reachable hreach u) (raisesOnly_pure ())
  | userGetPwdExpiration u =>
    exact (raisesOnly_getPwdExpiration hreach u).bind fun _ _ _ => raisesOnly_pure ()
  | request r =>
    exact (SPasswordResource.raisesOnly_request hreach r).bind fun _ _ _ => raisesOnly_pure ()

/-- A guess against a user whose second factor is on: the base driver says no. -/
theorem refusals_have_causes_guess :
    let w := run Sample.conf Sample.ticking (.initial Sample.users) Sample.setUp
    RaisesOnly (Sample.guess.Refusal Sample.conf Sample.ticking w)
      (Sample.guess.program Sample.conf Sample.ticking) w := by
  intro w
  have hreach : Reachable Sample.conf Sample.ticking w := (reachable_initial Sample.users).run _
  exact refusals_have_causes (by decide) hreach Sample.guess

end KeystoneSpassword
