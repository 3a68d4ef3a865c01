import KeystoneSpassword.Recovery

/-!
# The way back

A row can keep its user out for several reasons at once: too many failures, an expired password, a
second factor whose mails the user does not get, an email that has become unverified under it. The
administrator needs to know none of them. Four calls lead out of every reachable state: an update
of the user with a new password, a check code, the code presented by its receiver, and the second
factor off.

The first call has to come first: it makes the row, where there is none, and without a row no code
is stored. The third one has to come before the fourth: only with a verified email can the second
factor be switched off.

Other users may be served between the calls.

## Main definitions

* `wayBack` — the four calls
* `Stage` — what is known of the user after each of them
* `Current` — a login with the new password before it expires

## Main results

* `nobody_locked_out_for_good`
-/

namespace KeystoneSpassword

open StateProgram Relation

variable {conf : Conf} {clock : ℕ → Time} {u : String} {w : World} {userRecord : UserRecord}

/-- The calls that let a user in again. -/
def wayBack (u : String) (userRecord : UserRecord) (uuid : ShortCode) (server : SmtpServer) :
    List Op :=
  [.updateUser u userRecord, .request (.askForCheckEmailCode u uuid server true),
    .request (.checkEmailCode u uuid.code), .request (.modifySndfa u (some (.bool false)) true)]

/-! ### Stages -/

/-- The record of the user, and what its row is like. -/
def Stage (u : String) (userRecord : UserRecord) (P : SPasswordModel → Prop) (w : World) : Prop :=
  w.users u = some userRecord ∧ ∃ row, w.spassword u = some row ∧ P row

/-- The row has been reset at `t`. -/
structure ResetAt (t : Time) (row : SPasswordModel) : Prop where
  attempts : row.loginAttempts = 0
  creation : row.creationTime = some (.utc t)

/-- The row has been reset at `t`, its email is verified, and its second factor is off. -/
structure Unhindered (t : Time) (row : SPasswordModel) : Prop extends ResetAt t row where
  email : row.sndfaEmail = true
  sndfa : row.sndfa = false

/-- Calls on other users keep a stage. -/
theorem Stage.run_other {P : SPasswordModel → Prop} (h : Stage u userRecord P w)
    (hreach : Reachable conf clock w) {ops : List Op} (hops : ∀ op ∈ ops, op.userId ≠ u) :
    Stage u userRecord P (run conf clock w ops) := by
  obtain ⟨huser, row, hrow, hP⟩ := h
  obtain ⟨husers, hrows⟩ := KeystoneSpassword.run_other hreach hops
  exact ⟨husers.trans huser, row, hrows.trans hrow, hP⟩

/-! ### The four calls -/

/-- An update resets the row, or makes a new one. -/
theorem stage_updateUser (henabled : conf.enabled = true) {old : UserRecord}
    (huser : w.users u = some old) :
    Stage u (old.merge userRecord) (ResetAt (clock w.ticks))
      (step conf clock w (.updateUser u userRecord)) := by
  have hfinal : step conf clock w (.updateUser u userRecord) = _ :=
    final_updateUser henabled huser fun old => old.merge userRecord
  rw [hfinal]
  cases hrow : w.spassword u with
  | none =>
    have hnone : (recordChanged w u old (old.merge userRecord)).spassword
        ((old.merge userRecord).toUser u).id = none := by simpa using hrow
    rw [final_of_run_ok (run_stampCreationTime_of_no_row hnone)]
    refine ⟨by simp [createdState], _, Function.update_self .., rfl, ?_⟩
    rw [recordChanged_ticks]
    rfl
  | some row =>
    have hsome : (recordChanged w u old (old.merge userRecord)).spassword
        ((old.merge userRecord).toUser u).id = some row := by simpa using hrow
    rw [final_of_run_ok (run_stampCreationTime_of_row hsome)]
    refine ⟨by simp [touchedState], _, Function.update_self .., rfl, ?_⟩
    rw [recordChanged_ticks]

/-- A request for a check code stores it, and mails it. -/
theorem stage_askForCheckEmailCode {t : Time} (h : Stage u userRecord (ResetAt t) w)
    {address : Address} (haddress : userRecord.email = some address) (uuid : ShortCode)
    {server : SmtpServer} (hsends : SendMail.Sends conf server address) :
    Stage u userRecord (fun row => ResetAt t row ∧ row.sndfaEmailCode = some uuid.code)
        (step conf clock w (.request (.askForCheckEmailCode u uuid server true))) ∧
      .mailed u ⟨address, .checkEmail uuid.code
        (SPasswordResource.codeLink conf "checkemail" u uuid.code)⟩ true ∈
          (step conf clock w (.request (.askForCheckEmailCode u uuid server true))).log := by
  obtain ⟨huser, row, hrow, hreset⟩ := h
  have hrun : (SPasswordResource.askForCheckEmailCode conf true uuid server u).run w =
      .ok (SPasswordResource.mailResponse true "check email code sent to "
          "check email code was not sent to " address)
        ((SPasswordResource.askedState w u uuid.code).note (.mailed u ⟨address,
          .checkEmail uuid.code (SPasswordResource.codeLink conf "checkemail" u uuid.code)⟩
            true)) := by
    rw [SPasswordResource.run_askForCheckEmailCode_of_askable ⟨rfl, huser, haddress⟩ uuid server,
      EStateM.run_bind, SendMail.run_sendEmail_of_sends hsends]
    rfl
  have hasked : SPasswordResource.askedState w u uuid.code =
      (w.setRow u (some (SPasswordResource.withEmailCode row uuid.code))).note
        (.emailCodeIssued u uuid.code .checkemail) := by
    rw [SPasswordResource.askedState, hrow]
  rw [step_request, Request.program, final_of_run_ok hrun, hasked]
  exact ⟨⟨huser, _, Function.update_self .., ⟨hreset.attempts, hreset.creation⟩, rfl⟩,
    List.mem_cons_self⟩

/-- The code, presented. -/
theorem stage_checkEmailCode {t : Time} {uuid : ShortCode}
    (h : Stage u userRecord (fun row => ResetAt t row ∧ row.sndfaEmailCode = some uuid.code) w)
    {address : Address} (haddress : userRecord.email = some address) :
    Stage u userRecord (fun row => ResetAt t row ∧ row.sndfaEmail = true)
      (step conf clock w (.request (.checkEmailCode u uuid.code))) := by
  obtain ⟨huser, row, hrow, hreset, hcode⟩ := h
  have hdefined : (SPasswordResource.checkUserHasEmailDefined (userRecord.toUser u)).run w =
      .ok address w := run_checkUserHasEmailDefined_some haddress
  have hcheck := SPassword.run_checkEmailCode_of_match hrow hcode uuid.ne_empty
  have hrun : (SPasswordResource.checkEmailCode u uuid.code).run w =
      .ok ⟨.text "Valid code. Email sucessfully checked", 200, some "text/html"⟩ ((w.setRow u (some
        { row with sndfaEmail := true })).note (.emailCodeChecked u uuid.code true)) := by
    simp only [SPasswordResource.checkEmailCode, EStateM.run_bind, run_getUser_some w huser,
      hdefined, SPasswordManager.userCheckEmailCode, hcheck]
    rfl
  rw [step_request, Request.program, final_of_run_ok hrun]
  exact ⟨huser, _, Function.update_self .., ⟨hreset.attempts, hreset.creation⟩, rfl⟩

/-- With a verified email the second factor can be switched off. -/
theorem stage_modifySndfa (henabled : conf.enabled = true) (hsndfa : conf.sndfa = true) {t : Time}
    (h : Stage u userRecord (fun row => ResetAt t row ∧ row.sndfaEmail = true) w)
    {address : Address} (haddress : userRecord.email = some address) :
    Stage u userRecord (Unhindered t)
      (step conf clock w (.request (.modifySndfa u (some (.bool false)) true))) := by
  obtain ⟨huser, row, hrow, hreset, hemail⟩ := h
  have henforce : (SPasswordResource.enforceCall true).run w = .ok () w := rfl
  have hdefined : (SPasswordResource.checkUserHasEmailDefined (userRecord.toUser u)).run w =
      .ok address w := run_checkUserHasEmailDefined_some haddress
  have hvalidated : (SPasswordResource.checkUserHasEmailValidated (userRecord.toUser u)).run w =
      .ok () w := run_checkUserHasEmailValidated_of_verified ⟨row, hrow, hemail⟩
  have hmodify : (SPassword.modifySndfa u false).run w = .ok true
      ((w.setRow u (some { row with sndfa := false })).note (.sndfaModified u false)) := by
    simp [SPassword.modifySndfa, hrow, hemail]
  have hrun : (SPasswordResource.modifySndfa conf true (some (.bool false)) u).run w =
      .ok ⟨.modified true, 200, some "application/json"⟩
        ((w.setRow u (some { row with sndfa := false })).note (.sndfaModified u false)) := by
    simp only [SPasswordResource.modifySndfa, EStateM.run_bind, run_checkSpasswordConfigured,
      henabled, hsndfa, and_self, if_true, henforce, run_getUser_some w huser, hdefined, hvalidated,
      Option.getD_some, SPasswordManager.userModifySndfa, hmodify]
    rfl
  rw [step_request, Request.program, final_of_run_ok hrun]
  exact ⟨huser, _, Function.update_self .., ⟨hreset.attempts, hreset.creation⟩, hemail, rfl⟩

/-! ### The logins after them -/

/-- The base driver accepts the password, no later than `pwd_exp_days` after `t`. -/
def Current (conf : Conf) (clock : ℕ → Time) (u password : String) (t : Time) (w : World)
    (env : AuthEnv) : Prop :=
  (∃ user, (env.base u password).own = .user user) ∧ clock w.ticks ≤ t + days conf.pwdExpDays

/-- The calls that may come before a login: logins like it, and calls on other users. -/
def Op.AfterReturn (conf : Conf) (clock : ℕ → Time) (u password : String) (t : Time) (w : World)
    (op : Op) : Prop :=
  op.userId ≠ u ∨ ∃ env, op = .authenticate u password env ∧ Current conf clock u password t w env

theorem run_verdict_of_unhindered (henabled : conf.enabled = true) (htries : 0 ≤ conf.pwdMaxTries)
    (hreach : Reachable conf clock w) {t : Time} {address : Address}
    (haddress : userRecord.email = some address) (h : Stage u userRecord (Unhindered t) w)
    {env : AuthEnv} (hcurrent : Current conf clock u userRecord.password t w env) :
    ∃ user n, (Identity.verdict conf clock env u userRecord.password).run w =
      .ok (some user) (w.ticked n) := by
  obtain ⟨huser, row, hrow, hfree⟩ := h
  have hrenewed : Renewed u userRecord.password address t w :=
    ⟨⟨userRecord, huser, rfl, haddress⟩, row, hrow, hfree.attempts, hfree.email, hfree.creation⟩
  exact run_verdict_of_renewed henabled htries hreach hrenewed hcurrent.1 hcurrent.2

/-- Clearing the attempts keeps the last stage. -/
theorem stage_clearAttempts {t : Time} (h : Stage u userRecord (Unhindered t) w) (now : Time) :
    Stage u userRecord (Unhindered t) (Identity.clearAttempts w u now) := by
  obtain ⟨huser, row, hrow, hfree⟩ := h
  exact ⟨huser, _, Identity.spassword_clearAttempts hrow now, ⟨rfl, hfree.creation⟩, hfree.email,
    hfree.sndfa⟩

/-- **A login at the last stage** returns a token, and keeps the stage. -/
theorem stage_login (henabled : conf.enabled = true) (htries : 0 ≤ conf.pwdMaxTries)
    (hreach : Reachable conf clock w) {t : Time} {address : Address}
    (haddress : userRecord.email = some address) (h : Stage u userRecord (Unhindered t) w)
    {env : AuthEnv} (hcurrent : Current conf clock u userRecord.password t w env) :
    ∃ user extras w', (Identity.authenticate conf clock env u userRecord.password).run w =
      .ok ⟨user, some extras⟩ w' ∧ Stage u userRecord (Unhindered t) w' := by
  obtain ⟨user, n, hverdict⟩ :=
    run_verdict_of_unhindered henabled htries hreach haddress h hcurrent
  have hcleared := stage_clearAttempts h (clock (w.ticked n).ticks)
  obtain ⟨huser, row, hrow, hfree⟩ := h
  have hrun : (Identity.authenticate conf clock env u userRecord.password).run w =
      (Identity.attempt conf clock env u (some user)).run (w.ticked n) := by
    rw [Identity.authenticate, EStateM.run_bind, hverdict]
  have houtcome : Identity.AttemptOutcome conf clock env (w.ticked n) u (some user)
      ((Identity.attempt conf clock env u (some user)).run (w.ticked n)) :=
    Identity.attempt_outcome henabled env (w.ticked n) u (some user)
  rw [hrun]
  generalize (Identity.attempt conf clock env u (some user)).run (w.ticked n) = result at houtcome
  have hoff : ∀ row', w.spassword u = some row' → ¬ Identity.WantsSndfa conf row' := by
    intro row' hrow' hwants
    obtain rfl : row = row' := Option.some.inj (hrow.symm.trans hrow')
    exact absurd (hfree.sndfa.symm.trans hwants.2) (by simp)
  cases houtcome with
  | lost _ e m hlost =>
    rcases hlost with hnone | ⟨row', hrow', hundated⟩
    · exact absurd (huser.symm.trans hnone) (by simp)
    · obtain rfl : row = row' := Option.some.inj (hrow.symm.trans hrow')
      exact absurd (hfree.creation.symm.trans hundated) (by simp)
  | firstAccepted _ _ hnone _ => exact absurd (hrow.symm.trans hnone) (by simp)
  | passed _ row' created hrow' hwants hcreated => exact ⟨user, _, _, rfl, hcleared⟩
  | signed _ row' created hrow' hwants _ _ _ => exact absurd hwants (hoff row' hrow')
  | unverified _ row' hrow' hwants _ => exact absurd hwants (hoff row' hrow')
  | noAddress _ row' e m code w' hrow' hwants _ _ _ _ => exact absurd hwants (hoff row' hrow')
  | mailRaised _ row' e m code w' _ _ hrow' hwants _ _ _ _ _ _ =>
    exact absurd hwants (hoff row' hrow')
  | challenged _ row' sent m code w' _ _ hrow' hwants _ _ _ _ _ _ =>
    exact absurd hwants (hoff row' hrow')

/-- The last stage along such calls. -/
theorem stage_run (henabled : conf.enabled = true) (htries : 0 ≤ conf.pwdMaxTries)
    (hreach : Reachable conf clock w) {t : Time} {address : Address}
    (haddress : userRecord.email = some address) (h : Stage u userRecord (Unhindered t) w)
    {ops : List Op}
    (hops : Machine.Along (step conf clock)
      (Op.AfterReturn conf clock u userRecord.password t) w ops) :
    Stage u userRecord (Unhindered t) (run conf clock w ops) := by
  have hboth : Reachable conf clock (run conf clock w ops) ∧
      Stage u userRecord (Unhindered t) (run conf clock w ops) := by
    refine Machine.run_invariant
      (I := fun w => Reachable conf clock w ∧ Stage u userRecord (Unhindered t) w) ?_ hops
        ⟨hreach, h⟩
    rintro w op hop ⟨hreach, h⟩
    refine ⟨hreach.step op, ?_⟩
    rcases hop with hother | ⟨env, rfl, hcurrent⟩
    · have hothers : ∀ op' ∈ [op], op'.userId ≠ u := by simpa using hother
      exact h.run_other hreach hothers
    · obtain ⟨user, extras, w', hlogin, hstage⟩ :=
        stage_login henabled htries hreach haddress h hcurrent
      rw [step_authenticate, final_of_run_ok hlogin]
      exact hstage
  exact hboth.2

/-! ### The way back -/

/-- The first call about a user, and what is known of the user before it. -/
theorem exists_served (hreach : Reachable conf clock w) {ops calls : List Op} {op : Op}
    (h : ops.filter (·.userId = u) = op :: calls) :
    ∃ before rest, ops = before ++ op :: rest ∧ rest.filter (·.userId = u) = calls ∧
      (run conf clock w before).users u = w.users u ∧
      (run conf clock w before).spassword u = w.spassword u := by
  obtain ⟨before, rest, hops, hbefore, -, hrest⟩ := List.filter_eq_cons_iff.mp h
  have hothers : ∀ op ∈ before, op.userId ≠ u := fun op hop => by simpa using hbefore op hop
  exact ⟨before, rest, hops, hrest, run_other hreach hothers⟩

theorem Stage.served {P : SPasswordModel → Prop} (h : Stage u userRecord P w)
    (hreach : Reachable conf clock w) {ops calls : List Op} {op : Op}
    (hops : ops.filter (·.userId = u) = op :: calls) :
    ∃ w' rest, Reachable conf clock w' ∧ Stage u userRecord P w' ∧
      run conf clock w ops = run conf clock (step conf clock w' op) rest ∧
      rest.filter (·.userId = u) = calls := by
  obtain ⟨before, rest, rfl, hrest, husers, hrows⟩ := exists_served hreach hops
  obtain ⟨huser, row, hrow, hP⟩ := h
  exact ⟨run conf clock w before, rest, hreach.run before,
    ⟨husers.trans huser, row, hrows.trans hrow, hP⟩, Machine.run_append .., hrest⟩

/-- **Nobody is locked out for good.** From every reachable state, whatever the row of the user
says or whether there is one, a run whose calls about the user are the four of the way back has
mailed the check code. Every login after it with the new password, until `pwd_exp_days` after the
update has read the clock, returns a token if the base driver accepts the password. -/
theorem nobody_locked_out_for_good (henabled : conf.enabled = true) (hsndfa : conf.sndfa = true)
    (htries : 0 ≤ conf.pwdMaxTries) (hreach : Reachable conf clock w) {old : UserRecord}
    (huser : w.users u = some old) {address : Address}
    (haddress : (old.merge userRecord).email = some address) (uuid : ShortCode)
    {server : SmtpServer} (hsends : SendMail.Sends conf server address) {ops : List Op}
    (hops : ops.filter (·.userId = u) = wayBack u userRecord uuid server) :
    .mailed u ⟨address, .checkEmail uuid.code
        (SPasswordResource.codeLink conf "checkemail" u uuid.code)⟩ true ∈
      (run conf clock w ops).log ∧
    ∃ before after, ops = before ++ .updateUser u userRecord :: after ∧
      let t := clock (run conf clock w before).ticks
      ∀ later env, Machine.Along (step conf clock)
          (Op.AfterReturn conf clock u userRecord.password t) (run conf clock w ops) later →
        Current conf clock u userRecord.password t
          (run conf clock (run conf clock w ops) later) env →
        ∃ user extras w', (Identity.authenticate conf clock env u userRecord.password).run
          (run conf clock (run conf clock w ops) later) = .ok ⟨user, some extras⟩ w' := by
  obtain ⟨before, after, hbefore, hops₁, husers, -⟩ := exists_served hreach hops
  have hupdated : Stage u (old.merge userRecord) (ResetAt (clock (run conf clock w before).ticks))
      (step conf clock (run conf clock w before) (.updateUser u userRecord)) :=
    stage_updateUser henabled (husers.trans huser)
  have hreach₁ : Reachable conf clock
      (step conf clock (run conf clock w before) (.updateUser u userRecord)) :=
    (hreach.run before).step _
  have hrun₁ : run conf clock w ops = run conf clock
      (step conf clock (run conf clock w before) (.updateUser u userRecord)) after := by
    rw [hbefore]
    exact Machine.run_append ..
  obtain ⟨w₂, ops₂, hreach₂, hstage₂, hrun₂, hops₂⟩ := hupdated.served hreach₁ hops₁
  obtain ⟨hasked, hmailed⟩ := stage_askForCheckEmailCode hstage₂ haddress uuid hsends
  obtain ⟨w₃, ops₃, hreach₃, hstage₃, hrun₃, hops₃⟩ := hasked.served (hreach₂.step _) hops₂
  have hchecked : Stage u (old.merge userRecord) _
      (step conf clock w₃ (.request (.checkEmailCode u uuid.code))) :=
    stage_checkEmailCode hstage₃ haddress
  obtain ⟨w₄, ops₄, hreach₄, hstage₄, hrun₄, hops₄⟩ := hchecked.served (hreach₃.step _) hops₃
  have hfree : Stage u (old.merge userRecord) _
      (step conf clock w₄ (.request (.modifySndfa u (some (.bool false)) true))) :=
    stage_modifySndfa henabled hsndfa hstage₄ haddress
  have hothers : ∀ op ∈ ops₄, op.userId ≠ u := by
    simpa [List.filter_eq_nil_iff] using hops₄
  have hstage : Stage u (old.merge userRecord)
      (Unhindered (clock (run conf clock w before).ticks)) (run conf clock w ops) := by
    rw [hrun₁, hrun₂, hrun₃, hrun₄]
    exact hfree.run_other (hreach₄.step _) hothers
  refine ⟨?_, before, after, hbefore, fun later env hlater hcurrent => ?_⟩
  · obtain ⟨new, hlog⟩ := run_log_eq (hreach₂.step
      (.request (.askForCheckEmailCode u uuid server true))) ops₂
    rw [hrun₁, hrun₂, hlog]
    exact List.mem_append_right new hmailed
  · have hreach' := hreach.run ops
    obtain ⟨user, extras, w', hlogin, -⟩ := stage_login henabled htries (hreach'.run later) haddress
      (stage_run henabled htries hreach' haddress hstage hlater) hcurrent
    exact ⟨user, extras, w', hlogin⟩

/-- The second factor is on, a wrong code has made the email unverified, and four wrong passwords
have blocked the account. -/
theorem nobody_locked_out_for_good_blocked :
    let w := run Sample.conf Sample.ticking (.initial Sample.users) (Sample.setUp ++
      [.request (.checkEmailCode "alice" "guess")] ++ List.replicate 4 Sample.guess)
    let ops := wayBack "alice" Sample.alice Sample.emailCode .up
    LockedOut Sample.conf Sample.ticking w "alice" ∧
      (∃ row, w.spassword "alice" = some row ∧ row.sndfa = true ∧ row.sndfaEmail = false) ∧
      ∃ user extras w', (Identity.authenticate Sample.conf Sample.ticking (Sample.env Sample.code)
        "alice" "secret").run (run Sample.conf Sample.ticking w ops) =
          .ok ⟨user, some extras⟩ w' := by
  intro w ops
  have hreach : Reachable Sample.conf Sample.ticking w := ⟨Sample.users, _, rfl⟩
  have hlocked : LockedOut Sample.conf Sample.ticking w "alice" :=
    ⟨by simp [Sample.conf, Conf.default], _, _, rfl, by decide, rfl, by decide⟩
  have hrow : ∃ row, w.spassword "alice" = some row ∧ row.sndfa = true ∧ row.sndfaEmail = false :=
    ⟨_, rfl, rfl, rfl⟩
  have huser : w.users "alice" = some Sample.alice := rfl
  have hsends : SendMail.Sends Sample.conf .up (.text "alice@a.example") := rfl
  have hops : ops.filter (·.userId = "alice") =
      wayBack "alice" Sample.alice Sample.emailCode .up := by
    simp [ops, wayBack, Op.userId, Request.userId]
  have hticks : (run Sample.conf Sample.ticking w ops).ticks ≤ 100 := by decide +kernel
  -- from here on the states are not computed any more
  clear_value w ops
  refine ⟨hlocked, hrow, ?_⟩
  obtain ⟨-, before, -, -, hlogins⟩ := nobody_locked_out_for_good rfl rfl (by decide) hreach huser
    rfl Sample.emailCode hsends hops
  refine hlogins [] (Sample.env Sample.code) trivial ⟨⟨_, rfl⟩, ?_⟩
  show ((run Sample.conf Sample.ticking w ops).ticks : ℤ) ≤
    (run Sample.conf Sample.ticking w before).ticks + 365 * 86400000000
  omega

end KeystoneSpassword
