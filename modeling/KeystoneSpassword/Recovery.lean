import KeystoneSpassword.Delivery
import KeystoneSpassword.Expiry
import KeystoneSpassword.Ledger

/-!
# A recovery, from the request to the logins after it

A user with a verified email asks for a recovery, presents the mailed code, and logs in with the
mailed password. The request stores a code and confirms it itself, the reset reaches the row through
the updated event alone, and the logins read all of it. So the chain is shown link by link, for
whatever the row said about the lockout, the expiry and the second factor before.

Other users may be served between any two links.

## Main definitions

* `SendMail.Sends` — the mail server works
* `Renewed` — what a reset leaves, and the logins after it keep
* `Welcomed` — how such a login ends

## Main results

* `renewed_login`, `renewed_run`
* `recovery_completes`
-/

namespace KeystoneSpassword

open StateProgram Relation

variable {conf : Conf} {clock : ℕ → Time} {u v : String} {w w' : World}

namespace SendMail

/-- `send_email` returns `True`. -/
def Sends (conf : Conf) (server : SmtpServer) (dest : Address) : Prop :=
  (delivery conf server dest).2 = .ok true

theorem Sends.handed {server : SmtpServer} {dest : Address} (h : Sends conf server dest) :
    (delivery conf server dest).1 = true := by
  rw [Sends, delivery] at h
  rw [delivery]
  split at h
  · cases h
  split at h
  · cases h
  · cases h
  · split_ifs at h ⊢
    · cases h
    · exact Except.ok.inj h

theorem run_sendEmail_of_sends {server : SmtpServer} {mail : Mail}
    (h : Sends conf server mail.dest) :
    (sendEmail conf server u mail).run w = .ok true (w.note (.mailed u mail true)) := by
  rw [run_sendEmail, h, h.handed]
  rfl

end SendMail

/-! ### Other users -/

/-- A call on another user leaves the user and the row alone. -/
theorem step_other (h : Reachable conf clock w) {op : Op} (hop : op.userId ≠ u) :
    (step conf clock w op).users u = w.users u ∧
      (step conf clock w op).spassword u = w.spassword u := by
  refine keeps_of_steps (I := fun w' => w'.users u = w.users u ∧ w'.spassword u = w.spassword u)
    (fun w₁ w₂ hmove hw => ?_)
    (step_moves (onOrEmpty_of_reachable h) (Op.allowed_any conf w op)) ⟨rfl, rfl⟩
  obtain ⟨husers, hrow⟩ := hmove.other hop.symm
  exact ⟨husers.trans hw.1, hrow.trans hw.2⟩

theorem run_other (h : Reachable conf clock w) {ops : List Op} (hops : ∀ op ∈ ops, op.userId ≠ u) :
    (run conf clock w ops).users u = w.users u ∧
      (run conf clock w ops).spassword u = w.spassword u := by
  induction ops generalizing w with
  | nil => exact ⟨rfl, rfl⟩
  | cons op ops ih =>
    obtain ⟨husers, hrow⟩ := step_other h (hops op List.mem_cons_self)
    obtain ⟨husers', hrow'⟩ :=
      ih (h.step op) fun op' hop' => hops op' (List.mem_cons_of_mem op hop')
    exact ⟨husers'.trans husers, hrow'.trans hrow⟩

/-! ### The request and the reset -/

/-- A recovery whose mail is sent. -/
theorem run_recoverPassword_of_sends {userRecord : UserRecord} {address : Address}
    {row : SPasswordModel}
    (h : SPasswordResource.Recoverable conf w u userRecord address row) (uuid : ShortCode)
    {server : SmtpServer} (hsends : SendMail.Sends conf server address) :
    (SPasswordResource.recoverPassword conf uuid server u).run w =
      .ok (SPasswordResource.mailResponse true "reset password email link sent to "
          "reset password email link was not sent to " address)
        ((SPasswordResource.recoveredState w u row uuid.code).note (.mailed u ⟨address,
          .resetPassword uuid.code (SPasswordResource.codeLink conf "reset_password" u uuid.code)⟩
            true)) := by
  rw [SPasswordResource.run_recoverPassword_of_recoverable h, EStateM.run_bind,
    SendMail.run_sendEmail_of_sends hsends]
  rfl

/-- A reset with the stored code, which Keystone carries out and whose mail is sent. -/
theorem run_resetPassword_of_sends (henabled : conf.enabled = true) {userRecord : UserRecord}
    {address : Address} {row : SPasswordModel} (huser : w.users u = some userRecord)
    (haddress : userRecord.email = some address) (hrow : w.spassword u = some row)
    {uuid : ShortCode} (hcode : row.sndfaEmailCode = some uuid.code) (newPassword : NewPassword)
    {server : SmtpServer} (hsends : SendMail.Sends conf server address) :
    (SPasswordResource.resetPassword conf clock newPassword none server u uuid.code).run w =
      .ok (SPasswordResource.resetResponse true address)
        ((SPasswordResource.resetState clock (SPasswordResource.confirmedState w u row uuid.code) u
          userRecord { row with sndfaEmail := true } uuid.code newPassword.password).note
            (.mailed u ⟨address, .newPassword newPassword.password⟩ true)) := by
  have hcheck := SPassword.run_checkEmailCode_of_match hrow hcode uuid.ne_empty
  rw [SPasswordResource.run_resetPassword_of_match henabled huser hcheck huser
    (Function.update_self ..) newPassword server, haddress]
  dsimp only
  rw [EStateM.run_bind, SendMail.run_sendEmail_of_sends hsends]
  rfl

/-! ### The logins after it -/

/-- The user has the mailed password and the address, and the row has been reset at `t`. -/
structure Renewed (u password : String) (address : Address) (t : Time) (w : World) : Prop where
  user : ∃ userRecord, w.users u = some userRecord ∧ userRecord.password = password ∧
    userRecord.email = some address
  row : ∃ row, w.spassword u = some row ∧ row.loginAttempts = 0 ∧ row.sndfaEmail = true ∧
    row.creationTime = some (.utc t)

theorem Renewed.of_eq {password : String} {address : Address} {t : Time}
    (h : Renewed u password address t w) (huser : w'.users u = w.users u)
    (hrow : w'.spassword u = w.spassword u) : Renewed u password address t w' :=
  ⟨by rw [huser]; exact h.user, by rw [hrow]; exact h.row⟩

/-- A login with this password, which the base driver accepts, no later than `pwd_exp_days` after
`t`, and with a mail server that works. -/
def Timely (conf : Conf) (clock : ℕ → Time) (u password : String) (address : Address) (t : Time)
    (w : World) (env : AuthEnv) : Prop :=
  (∃ user, (env.base u password).own = .user user) ∧ SendMail.Sends conf env.server address ∧
    clock w.ticks ≤ t + days conf.pwdExpDays

/-- How the login ends: with a result, or with the mail of the second factor, which is on and not
fresh. -/
inductive Welcomed (conf : Conf) (clock : ℕ → Time) (w : World) (u : String) (address : Address) :
    EStateM.Result PyExc World AuthResult → Prop
  | token (user : User) (extras : Extras) (w' : World) :
      Welcomed conf clock w u address (.ok ⟨user, some extras⟩ w')
  | challenged (row : SPasswordModel) (n : ℕ) (code : String) (older : List Event) (w' : World)
      (hrow : w.spassword u = some row) (hneeds : NeedsMail conf clock (w.ticked n) row)
      (hlog : w'.log = .mailed u ⟨address, .sndfaCode code (Identity.sndfaLink conf u code)⟩ true ::
        older) :
      Welcomed conf clock w u address
        (.error (.spasswordUnauthorized Identity.expectingMessage) w')

/-- A row that has been reset is not blocked. -/
theorem run_lockoutGate_of_few {row : SPasswordModel} (hrow : w.spassword u = some row)
    (h : row.loginAttempts ≤ conf.pwdMaxTries) :
    (Identity.lockoutGate conf clock u).run w = .ok () w := by
  by_cases hgate : (conf.enabled && !decide (u ∈ conf.pwdUserBlacklist)) = true
  · simp [Identity.lockoutGate, hgate, hrow, Identity.lockoutTest, not_lt.mpr h]
  · simp [Identity.lockoutGate, hgate]

/-- The verdict on the mailed password: the base driver's. -/
theorem run_verdict_of_renewed (henabled : conf.enabled = true) (htries : 0 ≤ conf.pwdMaxTries)
    (hreach : Reachable conf clock w) {password : String} {address : Address} {t : Time}
    (h : Renewed u password address t w) {env : AuthEnv}
    (hown : ∃ user, (env.base u password).own = .user user)
    (hdeadline : clock w.ticks ≤ t + days conf.pwdExpDays) :
    ∃ user n, (Identity.verdict conf clock env u password).run w =
      .ok (some user) (w.ticked n) := by
  obtain ⟨row, hrow, hattempts, hemail, htime⟩ := h.row
  obtain ⟨user, hown⟩ := hown
  have hgate : (Identity.lockoutGate conf clock u).run w = .ok () w :=
    run_lockoutGate_of_few hrow (by rwa [hattempts])
  refine ⟨user, ?_⟩
  rw [Identity.verdict_eq, EStateM.run_bind, hgate]
  cases hbase : env.base u password with
  | answer a =>
    rw [hbase] at hown
    refine ⟨0, ?_⟩
    simp [Identity.baseAuthenticate, hbase, show a = .user user from hown,
      Identity.BaseAnswer.toPy]
  | check a =>
    rw [hbase] at hown
    obtain ⟨n, hcheck⟩ : ∃ n, (Identity.checkPassword conf clock u).run w =
        .ok () (w.ticked n) := by
      have hchecks := checksExpiry_of_reachable hreach hrow
      cases hexempt : decide (u ∈ conf.pwdUserBlacklist) || blackSet u w with
      | true =>
        rw [hexempt] at hchecks
        exact ⟨0, Identity.run_checkPassword_of_exempt hrow hchecks⟩
      | false =>
        rw [hexempt] at hchecks
        refine ⟨1, Identity.run_checkPassword_of_current henabled hrow hchecks htime ?_⟩
        exact not_lt.mpr (sub_le_iff_le_add.mpr hdeadline)
    refine ⟨n, ?_⟩
    simp [Identity.baseAuthenticate, hbase, hcheck, show a = .user user from hown,
      Identity.BaseAnswer.toPy]

/-- Clearing the attempts leaves the user as a reset did. -/
theorem renewed_clearAttempts {userRecord : UserRecord} {address : Address} {t : Time}
    {row : SPasswordModel} (huser : w.users u = some userRecord)
    (haddress : userRecord.email = some address) (hrow : w.spassword u = some row)
    (hemail : row.sndfaEmail = true) (htime : row.creationTime = some (.utc t)) (now : Time) :
    Renewed u userRecord.password address t (Identity.clearAttempts w u now) :=
  ⟨⟨userRecord, huser, rfl, haddress⟩,
    _, Identity.spassword_clearAttempts hrow now, rfl, hemail, htime⟩

/-- **A login after the reset** is welcomed, and leaves the user as the reset did. -/
theorem renewed_login (henabled : conf.enabled = true) (htries : 0 ≤ conf.pwdMaxTries)
    (hreach : Reachable conf clock w) {password : String} {address : Address} {t : Time}
    (h : Renewed u password address t w) {env : AuthEnv}
    (htimely : Timely conf clock u password address t w env) :
    Welcomed conf clock w u address ((Identity.authenticate conf clock env u password).run w) ∧
      Renewed u password address t (final (Identity.authenticate conf clock env u password) w) := by
  obtain ⟨user, n, hverdict⟩ :=
    run_verdict_of_renewed henabled htries hreach h htimely.1 htimely.2.2
  obtain ⟨⟨userRecord, huser, rfl, haddress⟩, row, hrow, hattempts, hemail, htime⟩ := h
  have hrun : (Identity.authenticate conf clock env u userRecord.password).run w =
      (Identity.attempt conf clock env u (some user)).run (w.ticked n) := by
    rw [Identity.authenticate, EStateM.run_bind, hverdict]
  have houtcome : Identity.AttemptOutcome conf clock env (w.ticked n) u (some user)
      ((Identity.attempt conf clock env u (some user)).run (w.ticked n)) :=
    Identity.attempt_outcome henabled env (w.ticked n) u (some user)
  rw [final, hrun]
  generalize (Identity.attempt conf clock env u (some user)).run (w.ticked n) = result at houtcome
  have hcleared : Renewed u userRecord.password address t
      (Identity.clearAttempts w u (clock (w.ticked n).ticks)) :=
    renewed_clearAttempts huser haddress hrow hemail htime _
  cases houtcome with
  | lost _ e m hlost =>
    rcases hlost with hnone | ⟨row', hrow', hundated⟩
    · exact absurd (huser.symm.trans hnone) (by simp)
    · obtain rfl : row = row' := Option.some.inj (hrow.symm.trans hrow')
      exact absurd (htime.symm.trans hundated) (by simp)
  | firstAccepted _ _ hnone _ => exact absurd (hrow.symm.trans hnone) (by simp)
  | passed _ row' created hrow' hwants hcreated => exact ⟨.token _ _ _, hcleared.of_eq rfl rfl⟩
  | signed _ row' created hrow' hwants _ hsigned hcreated =>
    exact ⟨.token _ _ _, hcleared.of_eq rfl rfl⟩
  | unverified _ row' hrow' hwants hunverified =>
    obtain rfl : row = row' := Option.some.inj (hrow.symm.trans hrow')
    exact absurd (hemail.symm.trans hunverified) (by simp)
  | noAddress _ row' e m code w' hrow' _ _ _ hcode hmissing =>
    have haddress' : (w.users u).bind UserRecord.email = some address := by
      rw [huser]
      exact haddress
    exact absurd (haddress'.symm.trans hmissing) (by simp)
  | mailRaised _ row' e m code w' userRecord' address' hrow' _ _ _ hcode huser' haddress' hmail =>
    obtain rfl : userRecord = userRecord' := Option.some.inj (huser.symm.trans huser')
    obtain rfl : address = address' := Option.some.inj (haddress.symm.trans haddress')
    exact absurd (htimely.2.1.symm.trans hmail) (by simp)
  | challenged _ row' sent m code w' userRecord' address' hrow' hwants _ hunsigned hcode huser'
      haddress' hmail =>
    obtain rfl : row = row' := Option.some.inj (hrow.symm.trans hrow')
    obtain rfl : userRecord = userRecord' := Option.some.inj (huser.symm.trans huser')
    obtain rfl : address = address' := Option.some.inj (haddress.symm.trans haddress')
    rw [htimely.2.1.handed]
    refine ⟨.challenged row n code w'.log _ hrow ⟨hwants, hemail, hunsigned⟩ rfl, ?_⟩
    obtain ⟨row', hrow', hemail', htime'⟩ : ∃ row', w'.spassword u = some row' ∧
        row'.sndfaEmail = true ∧ row'.creationTime = some (.utc t) := by
      cases hcode with
      | reused _ => exact ⟨row, hrow, hemail, htime⟩
      | issued _ _ => exact ⟨_, Function.update_self .., hemail, htime⟩
    exact renewed_clearAttempts (w := w'.note _) ((congrFun hcode.users u).trans huser) haddress
      hrow' hemail' htime' _

/-- The calls that may come between the reset and a login: logins like it, and calls on other
users. -/
def Op.AfterReset (conf : Conf) (clock : ℕ → Time) (u password : String) (address : Address)
    (t : Time) (w : World) (op : Op) : Prop :=
  op.userId ≠ u ∨
    ∃ env, op = .authenticate u password env ∧ Timely conf clock u password address t w env

theorem renewed_run (henabled : conf.enabled = true) (htries : 0 ≤ conf.pwdMaxTries)
    (hreach : Reachable conf clock w) {password : String} {address : Address} {t : Time}
    (h : Renewed u password address t w) {ops : List Op}
    (hops : Machine.Along (step conf clock) (Op.AfterReset conf clock u password address t) w ops) :
    Renewed u password address t (run conf clock w ops) := by
  have hboth : Reachable conf clock (run conf clock w ops) ∧
      Renewed u password address t (run conf clock w ops) := by
    refine Machine.run_invariant
      (I := fun w => Reachable conf clock w ∧ Renewed u password address t w) ?_ hops ⟨hreach, h⟩
    rintro w op hop ⟨hreach, h⟩
    refine ⟨hreach.step op, ?_⟩
    rcases hop with hother | ⟨env, rfl, htimely⟩
    · obtain ⟨huser, hrow⟩ := step_other hreach hother
      exact h.of_eq huser hrow
    · rw [step_authenticate]
      exact (renewed_login henabled htries hreach h htimely).2
  exact hboth.2

/-! ### The whole recovery -/

/-- What a reset at `w` with the mailed code comes to. -/
structure ResetWorks (conf : Conf) (clock : ℕ → Time) (w : World) (u : String)
    (address : Address) (code : String) (newPassword : NewPassword) (server : SmtpServer) :
    Prop where
  success : answerStatus ((SPasswordResource.resetPassword conf clock newPassword none server u
    code).run w) = 200
  changed : ((final (SPasswordResource.resetPassword conf clock newPassword none server u code)
    w).users u).map UserRecord.password = some newPassword.password
  mailed : ∃ older, (final (SPasswordResource.resetPassword conf clock newPassword none server u
    code) w).log = .mailed u ⟨address, .newPassword newPassword.password⟩ true :: older
  /-- every login that follows, no later than `pwd_exp_days` after the reset -/
  logins : ∀ ops env, Machine.Along (step conf clock)
      (Op.AfterReset conf clock u newPassword.password address (clock w.ticks))
      (final (SPasswordResource.resetPassword conf clock newPassword none server u code) w) ops →
    let w' := run conf clock
      (final (SPasswordResource.resetPassword conf clock newPassword none server u code) w) ops
    Timely conf clock u newPassword.password address (clock w.ticks) w' env →
      Welcomed conf clock w' u address
        ((Identity.authenticate conf clock env u newPassword.password).run w')

/-- What a recovery at `w` comes to. -/
structure RecoveryWorks (conf : Conf) (clock : ℕ → Time) (w : World) (u : String)
    (address : Address) (row : SPasswordModel) (uuid : ShortCode) (server : SmtpServer) : Prop where
  success : answerStatus ((SPasswordResource.recoverPassword conf uuid server u).run w) = 200
  mailed : ∃ older, (final (SPasswordResource.recoverPassword conf uuid server u) w).log =
    .mailed u ⟨address, .resetPassword uuid.code
      (SPasswordResource.codeLink conf "reset_password" u uuid.code)⟩ true :: older
  /-- nothing of the row has changed but the code -/
  row : (final (SPasswordResource.recoverPassword conf uuid server u) w).spassword u =
    some { row with sndfaEmailCode := some uuid.code }
  /-- the reset, after any calls on other users -/
  reset : ∀ others newPassword server', (∀ op ∈ others, op.userId ≠ u) →
    SendMail.Sends conf server' address →
      ResetWorks conf clock
        (run conf clock (final (SPasswordResource.recoverPassword conf uuid server u) w) others)
        u address uuid.code newPassword server'

theorem resetWorks (henabled : conf.enabled = true) (htries : 0 ≤ conf.pwdMaxTries)
    (hreach : Reachable conf clock w) {userRecord : UserRecord} {address : Address}
    {row : SPasswordModel} (huser : w.users u = some userRecord)
    (haddress : userRecord.email = some address) (hrow : w.spassword u = some row)
    {uuid : ShortCode} (hcode : row.sndfaEmailCode = some uuid.code) (newPassword : NewPassword)
    {server : SmtpServer} (hsends : SendMail.Sends conf server address) :
    ResetWorks conf clock w u address uuid.code newPassword server := by
  have hrun : (SPasswordResource.resetPassword conf clock newPassword none server u uuid.code).run
      w = _ := run_resetPassword_of_sends henabled huser haddress hrow hcode newPassword hsends
  have hreach' : Reachable conf clock (final
      (SPasswordResource.resetPassword conf clock newPassword none server u uuid.code) w) := by
    have hstep := hreach.step (.request (.resetPassword u uuid.code newPassword none server))
    rwa [step_request] at hstep
  have hrenewed : Renewed u newPassword.password address (clock w.ticks) (final
      (SPasswordResource.resetPassword conf clock newPassword none server u uuid.code) w) := by
    rw [final_of_run_ok hrun]
    refine ⟨⟨{ userRecord with password := newPassword.password }, by simp, rfl, haddress⟩,
      _, Function.update_self .., rfl, rfl, ?_⟩
    rw [recordChanged_ticks]
    rfl
  refine ⟨by rw [hrun]; rfl, ?_, ⟨_, by rw [final_of_run_ok hrun]; rfl⟩, ?_⟩
  · obtain ⟨userRecord', huser', hpassword, -⟩ := hrenewed.user
    rw [huser', Option.map_some, hpassword]
  · intro ops env hops w' htimely
    exact (renewed_login henabled htries (hreach'.run ops)
      (renewed_run henabled htries hreach' hrenewed hops) htimely).1

/-- **A recovery works.** It takes any reachable row with a verified email, blocked or expired or
neither, with the second factor or without. -/
theorem recovery_completes (henabled : conf.enabled = true) (hsndfa : conf.sndfa = true)
    (htries : 0 ≤ conf.pwdMaxTries) (hreach : Reachable conf clock w) {userRecord : UserRecord}
    {address : Address} {row : SPasswordModel} (huser : w.users u = some userRecord)
    (haddress : userRecord.email = some address) (hrow : w.spassword u = some row)
    (hemail : row.sndfaEmail = true) (uuid : ShortCode) {server : SmtpServer}
    (hsends : SendMail.Sends conf server address) :
    RecoveryWorks conf clock w u address row uuid server := by
  have hrun := run_recoverPassword_of_sends (w := w)
    ⟨henabled, hsndfa, huser, haddress, hrow, hemail⟩ uuid hsends
  have hfinal := final_of_run_ok hrun
  have hreach' : Reachable conf clock
      (final (SPasswordResource.recoverPassword conf uuid server u) w) := by
    have hstep := hreach.step (.request (.recoverPassword u uuid server))
    rwa [step_request] at hstep
  have hrow' : (final (SPasswordResource.recoverPassword conf uuid server u) w).spassword u =
      some { row with sndfaEmailCode := some uuid.code } := by
    rw [hfinal]
    exact Function.update_self ..
  have huser' : (final (SPasswordResource.recoverPassword conf uuid server u) w).users u =
      some userRecord := by
    rw [hfinal]
    exact huser
  refine ⟨by rw [hrun]; rfl, ⟨_, by rw [hfinal]; rfl⟩, hrow', ?_⟩
  intro others newPassword server' hothers hsends'
  obtain ⟨husers, hrows⟩ := run_other hreach' hothers
  exact resetWorks henabled htries (hreach'.run others) (husers.trans huser') haddress
    (hrows.trans hrow') rfl newPassword hsends'

/-- Four wrong passwords have blocked the account, and its second factor is on. -/
theorem recovery_completes_blocked :
    let w := run Sample.conf Sample.ticking (.initial Sample.users)
      (Sample.setUp ++ List.replicate 4 Sample.guess)
    LockedOut Sample.conf Sample.ticking w "alice" ∧ ∃ row, w.spassword "alice" = some row ∧
      RecoveryWorks Sample.conf Sample.ticking w "alice" (.text "alice@a.example") row Sample.code
        .up := by
  intro w
  have hreach : Reachable Sample.conf Sample.ticking w := ⟨Sample.users, _, rfl⟩
  have huser : w.users "alice" = some Sample.alice := rfl
  have hlocked : LockedOut Sample.conf Sample.ticking w "alice" :=
    ⟨by simp [Sample.conf, Conf.default], _, _, rfl, by decide, rfl, by decide⟩
  exact ⟨hlocked, _, rfl,
    recovery_completes rfl rfl (by decide) hreach huser rfl rfl rfl Sample.code rfl⟩

end KeystoneSpassword
