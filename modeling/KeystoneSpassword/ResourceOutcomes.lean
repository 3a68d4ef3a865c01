import KeystoneSpassword.Outcomes

/-!
# How a request ends

The programs that only read, and the handlers that write in more than one step. A recovery
stores a code and confirms it itself before it mails it. A reset confirms a code, changes the
password, and mails the new one last. Each of these writes is committed on its own, so the state
after an early exit is stated next to the state after a success.

## Main results

* `reads_…` — the programs that leave the state as it is
* `SPasswordResource.recoverPassword_cases`
* `SPasswordResource.resetPassword_of_mismatch`, `resetPassword_of_match`
-/

namespace KeystoneSpassword

open StateProgram

variable {conf : Conf} {clock : ℕ → Time} {w : World} {u : String}

/-- The password in force. -/
def passwordOf (w : World) (u : String) : Option String := (w.users u).map UserRecord.password

/-! ### Programs that only read -/

theorem reads_getUser (v : String) : Reads (getUser v) := by
  intro w
  cases h : w.users v with
  | none => exact final_of_run_error (run_getUser_none w h)
  | some userRecord => exact final_of_run_ok (run_getUser_some w h)

theorem reads_alreadyEmailChecked (v : String) : Reads (SPassword.alreadyEmailChecked v) :=
  fun w => final_of_run_ok (SPassword.run_alreadyEmailChecked w v)

theorem reads_getSndfa (v : String) : Reads (SPassword.getSndfa v) := by
  intro w
  cases h : w.spassword v <;> simp [final, SPassword.getSndfa, h]

theorem reads_ofExcept {α : Type} (x : Except PyExc α) : Reads (ofExcept x) := by
  intro w
  cases x <;> rfl

theorem reads_getBlack (v : String) : Reads (SPassword.getBlack v) := by
  intro w
  cases h : w.spassword v with
  | none => simp [final, SPassword.getBlack, h]
  | some row =>
    cases hblack : row.extra.lookup "black" with
    | none => simp [final, SPassword.getBlack, h, hblack]
    | some black =>
      simpa [final, SPassword.getBlack, h, hblack] using reads_ofExcept (pyEval black) w

theorem reads_getPwdExpiration (v : String) : Reads (SPassword.getPwdExpiration conf v) := by
  intro w
  cases h : w.spassword v with
  | none => simp [final, SPassword.getPwdExpiration, h]
  | some row =>
    cases htime : row.creationTime <;>
      simp [final, SPassword.getPwdExpiration, h, htime, normalizeDbDate_some,
        normalizeDbDate_none]

theorem run_checkSpasswordConfigured (conf : Conf) (w : World) :
    (SPasswordResource.checkSpasswordConfigured conf).run w =
      if conf.enabled = true ∧ conf.sndfa = true then .ok () w else .error .notConfigured w := by
  cases henabled : conf.enabled <;> cases hsndfa : conf.sndfa <;>
    simp [SPasswordResource.checkSpasswordConfigured, henabled, hsndfa]

theorem reads_checkSpasswordConfigured :
    Reads (SPasswordResource.checkSpasswordConfigured conf) := by
  intro w
  rw [final, run_checkSpasswordConfigured]
  split_ifs <;> rfl

theorem reads_enforceCall (allowed : Bool) : Reads (SPasswordResource.enforceCall allowed) := by
  intro w
  cases allowed <;> rfl

theorem run_checkUserHasEmailDefined_some {user : User} {address : Address}
    (h : user.email = some address) :
    (SPasswordResource.checkUserHasEmailDefined user).run w = .ok address w := by
  rw [SPasswordResource.checkUserHasEmailDefined, h]
  rfl

theorem run_checkUserHasEmailDefined_none {user : User} (h : user.email = none) :
    (SPasswordResource.checkUserHasEmailDefined user).run w = .error (.unauthorized
      ("User " ++ user.id ++ " " ++ user.name ++ " has no email defined")) w := by
  rw [SPasswordResource.checkUserHasEmailDefined, h]
  rfl

theorem reads_checkUserHasEmailDefined (user : User) :
    Reads (SPasswordResource.checkUserHasEmailDefined user) := by
  intro w
  cases h : user.email with
  | none => exact final_of_run_error (run_checkUserHasEmailDefined_none h)
  | some address => exact final_of_run_ok (run_checkUserHasEmailDefined_some h)

/-- The user's row says that the email is verified. -/
def EmailVerified (w : World) (u : String) : Prop :=
  ∃ row, w.spassword u = some row ∧ row.sndfaEmail = true

theorem run_checkUserHasEmailValidated_of_verified {user : User}
    (h : EmailVerified w user.id) :
    (SPasswordResource.checkUserHasEmailValidated user).run w = .ok () w := by
  obtain ⟨row, hrow, hemail⟩ := h
  simp [SPasswordResource.checkUserHasEmailValidated, SPasswordManager.alreadyUserCheckEmail,
    SPassword.run_alreadyEmailChecked, hrow, hemail]

theorem run_checkUserHasEmailValidated_of_not_verified {user : User}
    (h : ¬ EmailVerified w user.id) :
    (SPasswordResource.checkUserHasEmailValidated user).run w = .error (.unauthorized
      ("User " ++ user.id ++ " " ++ user.name ++ " has no email verified")) w := by
  cases hrow : w.spassword user.id with
  | none =>
    simp [SPasswordResource.checkUserHasEmailValidated, SPasswordManager.alreadyUserCheckEmail,
      SPassword.run_alreadyEmailChecked, hrow]
  | some row =>
    have hemail : row.sndfaEmail = false := Bool.eq_false_iff.mpr fun h' => h ⟨row, hrow, h'⟩
    simp [SPasswordResource.checkUserHasEmailValidated, SPasswordManager.alreadyUserCheckEmail,
      SPassword.run_alreadyEmailChecked, hrow, hemail]

theorem reads_checkUserHasEmailValidated (user : User) :
    Reads (SPasswordResource.checkUserHasEmailValidated user) := by
  intro w
  by_cases h : EmailVerified w user.id
  · exact final_of_run_ok (run_checkUserHasEmailValidated_of_verified h)
  · exact final_of_run_error (run_checkUserHasEmailValidated_of_not_verified h)

/-- What a mail leaves: a note of it. -/
theorem final_sendEmail (server : SmtpServer) (mail : Mail) (w : World) :
    final (SendMail.sendEmail conf server u mail) w =
      w.note (.mailed u mail (SendMail.delivery conf server mail.dest).1) := by
  rw [final_congr (SendMail.run_sendEmail conf server u mail w), reads_ofExcept]

/-! ### Updates of a user -/

/-- The state after a created or updated event for a user with a row. -/
def touchedState (clock : ℕ → Time) (w : World) (u : String) (row : SPasswordModel) : World :=
  (w.tick.setRow u (some
    { row with creationTime := some (.utc (clock w.ticks)), loginAttempts := 0 })).note
      (.rowTouched u (clock w.ticks))

/-- The state after a created or updated event for a user without a row. -/
def createdState (clock : ℕ → Time) (w : World) (user : User) : World :=
  (w.tick.setRow user.id (some (SPassword.newRow user (.utc (clock w.ticks))))).note
    (.rowCreated user.id (clock w.ticks))

/-- The state once Keystone has stored a new record, and before it delivers the event. -/
def recordChanged (w : World) (u : String) (old new : UserRecord) : World :=
  if new.password ≠ old.password then (w.setUser u (some new)).note (.passwordSet u)
  else w.setUser u (some new)

section RecordChanged

variable {old new : UserRecord}

@[simp] theorem recordChanged_users :
    (recordChanged w u old new).users = Function.update w.users u (some new) := by
  rw [recordChanged]
  split_ifs <;> rfl

@[simp] theorem recordChanged_spassword : (recordChanged w u old new).spassword = w.spassword := by
  rw [recordChanged]
  split_ifs <;> rfl

@[simp] theorem recordChanged_ticks : (recordChanged w u old new).ticks = w.ticks := by
  rw [recordChanged]
  split_ifs <;> rfl

/-- A changed record is noted, if at all, as a stored password. -/
theorem recordChanged_log :
    (recordChanged w u old new).log = w.log ∨
      (recordChanged w u old new).log = .passwordSet u :: w.log := by
  rw [recordChanged]
  split_ifs
  · exact .inr rfl
  · exact .inl rfl

end RecordChanged

theorem run_stampCreationTime_of_row {user : User} {row : SPasswordModel}
    (hrow : w.spassword user.id = some row) :
    (SPassword.stampCreationTime clock user).run w =
      .ok () (touchedState clock w user.id row) := by
  simp [SPassword.stampCreationTime, hrow, touchedState]

theorem run_stampCreationTime_of_no_row {user : User} (hrow : w.spassword user.id = none) :
    (SPassword.stampCreationTime clock user).run w = .ok () (createdState clock w user) := by
  have hinsert : (sessionInsert (SPassword.newRow user (.utc (clock w.ticks)))).run w.tick = _ :=
    run_sessionInsert w.tick hrow
  simp [SPassword.stampCreationTime, hrow, hinsert, createdState]
  rfl

/-- An update of an existing user changes the record, and delivers the event. -/
theorem run_updateUser {old : UserRecord} (huser : w.users u = some old)
    (change : UserRecord → UserRecord) :
    (IdentityApi.updateUser conf clock u change).run w =
      (SPasswordManager.userUpdatedCallback conf clock u).run
        (recordChanged w u old (change old)) := by
  by_cases hpassword : (change old).password = old.password <;>
    simp [IdentityApi.updateUser, huser, recordChanged, hpassword]

/-- The updated event for a user with a row. -/
theorem run_userUpdatedCallback_of_row (henabled : conf.enabled = true) {userRecord : UserRecord}
    {row : SPasswordModel} (huser : w.users u = some userRecord)
    (hrow : w.spassword u = some row) :
    (SPasswordManager.userUpdatedCallback conf clock u).run w =
      .ok () (touchedState clock w u row) := by
  have hstamp : (SPassword.stampCreationTime clock (userRecord.toUser u)).run w =
      .ok () (touchedState clock w u row) := run_stampCreationTime_of_row hrow
  simp [SPasswordManager.userUpdatedCallback, run_getUser_some w huser, henabled,
    SPassword.updateUserModificationTime, hstamp]

/-- After a created or updated event the user has a row. -/
theorem row_of_stampCreationTime (user : User) (w : World) :
    (final (SPassword.stampCreationTime clock user) w).spassword user.id ≠ none := by
  cases hrow : w.spassword user.id with
  | none =>
    rw [final_of_run_ok (run_stampCreationTime_of_no_row hrow)]
    simp [createdState]
  | some row =>
    rw [final_of_run_ok (run_stampCreationTime_of_row hrow)]
    simp [touchedState]

/-- The creation of a user: the record is stored, and the created event stamps the row. -/
theorem final_createUser (henabled : conf.enabled = true) (w : World) (u : String)
    (userRecord : UserRecord) :
    final (IdentityApi.createUser conf clock u userRecord) w =
      final (SPassword.stampCreationTime clock (userRecord.toUser u))
        ((w.setUser u (some userRecord)).note (.passwordSet u)) := by
  have hget : (getUser u).run ((w.setUser u (some userRecord)).note (.passwordSet u)) =
      .ok (userRecord.toUser u) ((w.setUser u (some userRecord)).note (.passwordSet u)) :=
    run_getUser_some _ (by simp)
  simp [final, IdentityApi.createUser, SPasswordManager.userCreatedCallback, hget, henabled,
    SPassword.setUserCreationTime]

/-- The update of a user: the record is changed, and the updated event stamps the row. -/
theorem final_updateUser (henabled : conf.enabled = true) {old : UserRecord}
    (huser : w.users u = some old) (change : UserRecord → UserRecord) :
    final (IdentityApi.updateUser conf clock u change) w =
      final (SPassword.stampCreationTime clock ((change old).toUser u))
        (recordChanged w u old (change old)) := by
  have hget : (getUser u).run (recordChanged w u old (change old)) =
      .ok ((change old).toUser u) (recordChanged w u old (change old)) :=
    run_getUser_some _ (by simp)
  rw [final_congr (run_updateUser huser change)]
  simp [final, SPasswordManager.userUpdatedCallback, hget, henabled,
    SPassword.updateUserModificationTime]

/-- Storing the row that is stored changes nothing. -/
theorem World.setRow_self {v : String} {row : Option SPasswordModel}
    (h : w.spassword v = row) : w.setRow v row = w := by
  rw [setRow, ← h, Function.update_eq_self]

/-- The deletion of a user, with the extension on: the row goes along. -/
theorem final_deleteUser (henabled : conf.enabled = true) (w : World) (u : String) :
    final (IdentityApi.deleteUser conf u) w =
      ((w.setUser u none).setRow u none).note (.userDeleted u) := by
  cases hrow : w.spassword u with
  | none =>
    rw [World.setRow_self (w := w.setUser u none) hrow]
    simp [final, IdentityApi.deleteUser, SPasswordManager.userDeletedCallback, henabled,
      SPassword.removeUser, hrow]
  | some row =>
    simp [final, IdentityApi.deleteUser, SPasswordManager.userDeletedCallback, henabled,
      SPassword.removeUser, hrow]

/-- After the creation of a user, the user has a row. -/
theorem row_of_createUser (henabled : conf.enabled = true) (w : World) (u : String)
    (userRecord : UserRecord) :
    (final (IdentityApi.createUser conf clock u userRecord) w).spassword u ≠ none := by
  rw [final_createUser henabled]
  exact row_of_stampCreationTime (userRecord.toUser u) _

/-- After an update of a user, the user has a row, or there is no such user. -/
theorem row_of_updateUser (henabled : conf.enabled = true) (w : World) (u : String)
    (change : UserRecord → UserRecord) :
    (final (IdentityApi.updateUser conf clock u change) w).spassword u ≠ none ∨
      (final (IdentityApi.updateUser conf clock u change) w).users u = none := by
  cases huser : w.users u with
  | none => exact .inr (by simp [final, IdentityApi.updateUser, huser])
  | some old =>
    rw [final_updateUser henabled huser]
    exact .inl (row_of_stampCreationTime ((change old).toUser u) _)

/-! ### What a comparison leaves -/

/-- If an email code is stored, the flag says whether it is `code`. -/
def Compared (row : SPasswordModel) (code : String) : Prop :=
  truthy row.sndfaEmailCode = true → row.sndfaEmail = decide (row.sndfaEmailCode = some code)

/-- A row that is written back as it was. -/
theorem update_table_iff {row row' : SPasswordModel} (hrow : w.spassword u = some row) :
    Function.update w.spassword u (some row') = w.spassword ↔ row' = row := by
  rw [Function.update_eq_self_iff, hrow]
  exact Option.some_inj

/-- What a comparison with a stored code leaves of the table. -/
theorem table_checkEmailCode_iff {row : SPasswordModel} (hrow : w.spassword u = some row)
    (code : String) :
    (final (SPassword.checkEmailCode u code) w).spassword = w.spassword ↔ Compared row code := by
  by_cases hset : truthy row.sndfaEmailCode = true
  · rw [final_of_run_ok (SPassword.run_checkEmailCode_of_set hrow hset)]
    refine (update_table_iff hrow).trans ⟨fun h _ => ?_, fun h => ?_⟩
    · rw [← h]
    · rw [← h hset]
  · have hunset : (SPassword.checkEmailCode u code).run w = .ok false w := by
      refine SPassword.run_checkEmailCode_of_unset fun row' hrow' => ?_
      rw [hrow] at hrow'
      cases hrow'
      exact Bool.eq_false_iff.mpr hset
    rw [final_of_run_ok hunset]
    exact iff_of_true rfl fun h => absurd h hset

/-- A code that is not the stored one, by the state it leaves. -/
theorem run_checkEmailCode_false {code : String} (h : ¬ SPassword.EmailCodeStored w u code) :
    (SPassword.checkEmailCode u code).run w =
      .ok false (final (SPassword.checkEmailCode u code) w) := by
  rcases SPassword.run_checkEmailCode_of_mismatch h with hrun | ⟨row, -, -, hrun⟩ <;>
    rw [final_of_run_ok hrun, hrun]

/-- A comparison touches neither the users nor the clock. -/
theorem rest_checkEmailCode (w : World) (u code : String) :
    (final (SPassword.checkEmailCode u code) w).users = w.users ∧
      (final (SPassword.checkEmailCode u code) w).ticks = w.ticks := by
  by_cases hset : ∃ row, w.spassword u = some row ∧ truthy row.sndfaEmailCode = true
  · obtain ⟨row, hrow, hset⟩ := hset
    rw [final_of_run_ok (SPassword.run_checkEmailCode_of_set hrow hset)]
    exact ⟨rfl, rfl⟩
  · have hunset : (SPassword.checkEmailCode u code).run w = .ok false w :=
      SPassword.run_checkEmailCode_of_unset fun row hrow =>
        Bool.eq_false_iff.mpr fun h => hset ⟨row, hrow, h⟩
    rw [final_of_run_ok hunset]
    exact ⟨rfl, rfl⟩

theorem users_checkEmailCode (code : String) :
    (final (SPassword.checkEmailCode u code) w).users = w.users := (rest_checkEmailCode w u code).1

/-! ### Recovery -/

/-- A second write of a row hides the first one, whatever was noted in between. -/
theorem World.setRow_note_setRow (w : World) (u : String) (row row' : Option SPasswordModel)
    (e : Event) : ((w.setRow u row).note e).setRow u row' = (w.setRow u row').note e := by
  simp [setRow, note]

namespace SPasswordResource

/-- `row` with an email code stored and the email unverified. -/
def withEmailCode (row : SPasswordModel) (code : String) : SPasswordModel :=
  { row with sndfaEmailCode := some code, sndfaEmail := false }

/-- The state in which a recovery has stored its code and confirmed it. -/
def recoveredState (w : World) (u : String) (row : SPasswordModel) (code : String) : World :=
  ((w.setRow u (some { row with sndfaEmailCode := some code })).note
    (.emailCodeIssued u code .recover)).note (.emailCodeChecked u code true)

theorem run_userAskCheckEmailCode {row : SPasswordModel} (hrow : w.spassword u = some row)
    (origin : CodeOrigin) (uuid : ShortCode) :
    (SPasswordManager.userAskCheckEmailCode origin u uuid).run w = .ok uuid.code
      ((w.setRow u (some (withEmailCode row uuid.code))).note
        (.emailCodeIssued u uuid.code origin)) := by
  simp [SPasswordManager.userAskCheckEmailCode, SPassword.run_alreadyEmailChecked,
    SPassword.setCheckEmailCode, hrow, withEmailCode]

/-- The recovery confirms the code it has just stored. -/
theorem run_userCheckEmailCode_own {row : SPasswordModel} (hemail : row.sndfaEmail = true)
    (uuid : ShortCode) :
    (SPasswordManager.userCheckEmailCode u uuid.code).run
      ((w.setRow u (some (withEmailCode row uuid.code))).note
        (.emailCodeIssued u uuid.code .recover)) =
      .ok true (recoveredState w u row uuid.code) := by
  have hstored : ((w.setRow u (some (withEmailCode row uuid.code))).note
      (.emailCodeIssued u uuid.code .recover)).spassword u =
        some (withEmailCode row uuid.code) := by simp
  rw [SPasswordManager.userCheckEmailCode,
    SPassword.run_checkEmailCode_of_set hstored (truthy_code uuid), World.setRow_note_setRow]
  simp [recoveredState, withEmailCode, ← hemail]

/-- Whether a recovery of `u` is let through: the extension is configured, the user has an
address, and it is verified. -/
def Recoverable (conf : Conf) (w : World) (u : String) (userRecord : UserRecord)
    (address : Address) (row : SPasswordModel) : Prop :=
  conf.enabled = true ∧ conf.sndfa = true ∧ w.users u = some userRecord ∧
    userRecord.email = some address ∧ w.spassword u = some row ∧ row.sndfaEmail = true

/-- A recovery that is let through: the code is stored and confirmed, and then mailed. -/
theorem run_recoverPassword_of_recoverable {userRecord : UserRecord} {address : Address}
    {row : SPasswordModel} (h : Recoverable conf w u userRecord address row) (uuid : ShortCode)
    (server : SmtpServer) :
    (recoverPassword conf uuid server u).run w =
      (do
        let sent ← SendMail.sendEmail conf server u
          ⟨address, .resetPassword uuid.code (codeLink conf "reset_password" u uuid.code)⟩
        return mailResponse sent "reset password email link sent to "
          "reset password email link was not sent to " address : Py HttpResponse).run
          (recoveredState w u row uuid.code) := by
  obtain ⟨henabled, hsndfa, huser, haddress, hrow, hemail⟩ := h
  have hdefined : (checkUserHasEmailDefined (userRecord.toUser u)).run w = .ok address w :=
    run_checkUserHasEmailDefined_some haddress
  have hvalidated : (checkUserHasEmailValidated (userRecord.toUser u)).run w = .ok () w :=
    run_checkUserHasEmailValidated_of_verified ⟨row, hrow, hemail⟩
  simp [recoverPassword, run_checkSpasswordConfigured, henabled, hsndfa, run_getUser_some w huser,
    hdefined, hvalidated, run_userAskCheckEmailCode hrow, run_userCheckEmailCode_own hemail]

/-- **A recovery changes nothing, or it was let through.** -/
theorem recoverPassword_cases (conf : Conf) (w : World) (u : String) (uuid : ShortCode)
    (server : SmtpServer) :
    (∃ e, (recoverPassword conf uuid server u).run w = .error e w) ∨
      ∃ userRecord address row, Recoverable conf w u userRecord address row := by
  by_cases hconf : conf.enabled = true ∧ conf.sndfa = true
  · cases huser : w.users u with
    | none =>
      exact .inl ⟨.userNotFound u, by
        simp [recoverPassword, run_checkSpasswordConfigured, hconf, run_getUser_none w huser]⟩
    | some userRecord =>
      cases haddress : userRecord.email with
      | none =>
        obtain ⟨e, hundefined⟩ : ∃ e, (checkUserHasEmailDefined (userRecord.toUser u)).run w =
            .error e w := ⟨_, run_checkUserHasEmailDefined_none haddress⟩
        exact .inl ⟨e, by
          simp [recoverPassword, run_checkSpasswordConfigured, hconf, run_getUser_some w huser,
            hundefined]⟩
      | some address =>
        have hdefined : (checkUserHasEmailDefined (userRecord.toUser u)).run w = .ok address w :=
          run_checkUserHasEmailDefined_some haddress
        by_cases hverified : EmailVerified w u
        · obtain ⟨row, hrow, hemail⟩ := hverified
          exact .inr ⟨userRecord, address, row, hconf.1, hconf.2, huser, haddress, hrow, hemail⟩
        · obtain ⟨e, hrefused⟩ : ∃ e, (checkUserHasEmailValidated (userRecord.toUser u)).run w =
              .error e w := ⟨_, run_checkUserHasEmailValidated_of_not_verified hverified⟩
          exact .inl ⟨e, by
            simp [recoverPassword, run_checkSpasswordConfigured, hconf, run_getUser_some w huser,
              hdefined, hrefused]⟩
  · exact .inl ⟨.notConfigured, by
      simp [recoverPassword, run_checkSpasswordConfigured, hconf]⟩

/-! ### Requests for a check code -/

/-- Whether a request for a check code of `u` is let through. -/
def Askable (w : World) (u : String) (allowed : Bool) (userRecord : UserRecord)
    (address : Address) : Prop :=
  allowed = true ∧ w.users u = some userRecord ∧ userRecord.email = some address

/-- The state in which a request has stored its check code. Without a row nothing is stored. -/
def askedState (w : World) (u code : String) : World :=
  match w.spassword u with
  | some row =>
    (w.setRow u (some (withEmailCode row code))).note (.emailCodeIssued u code .checkemail)
  | none => w

/-- A request for a check code that is let through: the code is stored, and then mailed. -/
theorem run_askForCheckEmailCode_of_askable {allowed : Bool} {userRecord : UserRecord}
    {address : Address} (h : Askable w u allowed userRecord address) (uuid : ShortCode)
    (server : SmtpServer) :
    (askForCheckEmailCode conf allowed uuid server u).run w =
      (do
        let sent ← SendMail.sendEmail conf server u
          ⟨address, .checkEmail uuid.code (codeLink conf "checkemail" u uuid.code)⟩
        return mailResponse sent "check email code sent to "
          "check email code was not sent to " address : Py HttpResponse).run
          (askedState w u uuid.code) := by
  obtain ⟨rfl, huser, haddress⟩ := h
  have hdefined : (checkUserHasEmailDefined (userRecord.toUser u)).run w = .ok address w :=
    run_checkUserHasEmailDefined_some haddress
  have hask : (SPasswordManager.userAskCheckEmailCode .checkemail u uuid).run w =
      .ok uuid.code (askedState w u uuid.code) := by
    cases hrow : w.spassword u with
    | none =>
      simp [SPasswordManager.userAskCheckEmailCode, SPassword.run_alreadyEmailChecked,
        SPassword.setCheckEmailCode, hrow, askedState]
    | some row => rw [run_userAskCheckEmailCode hrow, askedState, hrow]
  simp [askForCheckEmailCode, enforceCall, run_getUser_some w huser, hdefined, hask]

/-- **A request for a check code changes nothing, or it was let through.** -/
theorem askForCheckEmailCode_cases (conf : Conf) (w : World) (u : String) (allowed : Bool)
    (uuid : ShortCode) (server : SmtpServer) :
    (∃ e, (askForCheckEmailCode conf allowed uuid server u).run w = .error e w) ∨
      ∃ userRecord address, Askable w u allowed userRecord address := by
  cases allowed with
  | false => exact .inl ⟨.forbidden, by simp [askForCheckEmailCode, enforceCall]⟩
  | true =>
    cases huser : w.users u with
    | none =>
      exact .inl ⟨.userNotFound u, by
        simp [askForCheckEmailCode, enforceCall, run_getUser_none w huser]⟩
    | some userRecord =>
      cases haddress : userRecord.email with
      | none =>
        obtain ⟨e, hundefined⟩ : ∃ e, (checkUserHasEmailDefined (userRecord.toUser u)).run w =
            .error e w := ⟨_, run_checkUserHasEmailDefined_none haddress⟩
        exact .inl ⟨e, by
          simp [askForCheckEmailCode, enforceCall, run_getUser_some w huser, hundefined]⟩
      | some address => exact .inr ⟨userRecord, address, rfl, huser, haddress⟩

/-! ### Presented codes -/

/-- The response to a presented second-factor code. -/
def sndfaResponse (checked : Bool) : HttpResponse :=
  if checked then ⟨.text "Valid code. Sndfa successfully authorized", 200, some "text/html"⟩
  else ⟨.text "No valid code. sndfa Unauthorized", 401, some "application/json"⟩

/-- A presented second-factor code, once the request has been let through. -/
theorem run_checkSndfaCode_of_verified (hconf : conf.enabled = true ∧ conf.sndfa = true)
    {userRecord : UserRecord} (huser : w.users u = some userRecord) (hverified : EmailVerified w u)
    (code : String) :
    (checkSndfaCode conf clock u code).run w =
      (sndfaResponse <$> SPassword.checkSndfaCode clock u code).run w := by
  have hvalidated : (checkUserHasEmailValidated (userRecord.toUser u)).run w = .ok () w :=
    run_checkUserHasEmailValidated_of_verified hverified
  simp only [checkSndfaCode, EStateM.run_bind, run_checkSpasswordConfigured, hconf,
    and_self, if_true, run_getUser_some w huser, hvalidated, SPasswordManager.userCheckSndfaCode,
    run_map]
  cases (SPassword.checkSndfaCode clock u code).run w with
  | ok checked w' => cases checked <;> rfl
  | error e w' => rfl

/-- A presented second-factor code of a user without a verified email. -/
theorem run_checkSndfaCode_of_refused (h : w.users u = none ∨ ¬ EmailVerified w u) (code : String) :
    ∃ e, (checkSndfaCode conf clock u code).run w = .error e w := by
  by_cases hconf : conf.enabled = true ∧ conf.sndfa = true
  · cases huser : w.users u with
    | none =>
      exact ⟨.userNotFound u, by
        simp [checkSndfaCode, run_checkSpasswordConfigured, hconf, run_getUser_none w huser]⟩
    | some userRecord =>
      have hverified : ¬ EmailVerified w u := h.resolve_left (by simp [huser])
      obtain ⟨e, hrefused⟩ : ∃ e, (checkUserHasEmailValidated (userRecord.toUser u)).run w =
          .error e w := ⟨_, run_checkUserHasEmailValidated_of_not_verified hverified⟩
      exact ⟨e, by
        simp [checkSndfaCode, run_checkSpasswordConfigured, hconf, run_getUser_some w huser,
          hrefused]⟩
  · exact ⟨.notConfigured, by simp [checkSndfaCode, run_checkSpasswordConfigured, hconf]⟩

/-! ### Reset -/

theorem run_resetPassword_of_no_user (huser : w.users u = none) (newPassword : NewPassword)
    (fault : Option PyExc) (server : SmtpServer) (code : String) :
    (resetPassword conf clock newPassword fault server u code).run w =
      .error (.userNotFound u) w := by
  simp [resetPassword, run_getUser_none w huser]

/-- The response to a code that is not the stored one. -/
def noValidCode : HttpResponse :=
  ⟨.text "No valid code. Password not reset", 401, some "text/html"⟩

theorem run_resetPassword_of_check_false {userRecord : UserRecord} {w' : World} {code : String}
    (huser : w.users u = some userRecord)
    (hcheck : (SPassword.checkEmailCode u code).run w = .ok false w')
    (newPassword : NewPassword) (fault : Option PyExc) (server : SmtpServer) :
    (resetPassword conf clock newPassword fault server u code).run w = .ok noValidCode w' := by
  simp [resetPassword, run_getUser_some w huser, SPasswordManager.userCheckEmailCode, hcheck,
    noValidCode]

/-- A confirmed code, and a fault of Keystone: nothing but the check has happened. -/
theorem run_resetPassword_of_fault {userRecord : UserRecord} {w' : World} {code : String}
    (huser : w.users u = some userRecord)
    (hcheck : (SPassword.checkEmailCode u code).run w = .ok true w')
    (newPassword : NewPassword) (fault : PyExc) (server : SmtpServer) :
    ∃ e, (resetPassword conf clock newPassword (some fault) server u code).run w =
      .error e w' := by
  obtain ⟨e, he⟩ : ∃ e, (updatePassword conf clock u newPassword.password (some fault)).run w' =
      .error e w' := by
    cases fault <;> exact ⟨_, rfl⟩
  exact ⟨e, by
    simp [resetPassword, run_getUser_some w huser, SPasswordManager.userCheckEmailCode, hcheck,
      he]⟩

/-- The response to a reset, by whether the new password was mailed. -/
def resetResponse (sent : Bool) (address : Address) : HttpResponse :=
  ⟨.text ("Request with valid code. Password sucessfully reset." ++
    if sent then " New password was sent by email to " ++ address.str
    else " New password was not sent by email to " ++ address.str), 200, some "text/html"⟩

/-- The state once a confirmed code has changed the password, and before the mail. -/
def resetState (clock : ℕ → Time) (w : World) (u : String) (userRecord : UserRecord)
    (row : SPasswordModel) (code password : String) : World :=
  (touchedState clock (recordChanged w u userRecord { userRecord with password }) u row).note
    (.passwordReset u code password)

@[simp] theorem resetState_users (clock : ℕ → Time) (w : World) (u : String)
    (userRecord : UserRecord) (row : SPasswordModel) (code password : String) :
    (resetState clock w u userRecord row code password).users =
      Function.update w.users u (some { userRecord with password }) := by
  simp [resetState, touchedState]

/-- A confirmed code and an update that goes through: the password is changed, and the new one is
mailed if there is an address. -/
theorem run_resetPassword_of_match (henabled : conf.enabled = true) {userRecord : UserRecord}
    {row : SPasswordModel} {w' : World} {code : String} (huser : w.users u = some userRecord)
    (hcheck : (SPassword.checkEmailCode u code).run w = .ok true w')
    (huser' : w'.users u = some userRecord) (hrow' : w'.spassword u = some row)
    (newPassword : NewPassword) (server : SmtpServer) :
    (resetPassword conf clock newPassword none server u code).run w =
      (match userRecord.email with
        | none => throw (.keyError "email")
        | some address => do
          let sent ← SendMail.sendEmail conf server u
            ⟨address, .newPassword newPassword.password⟩
          return resetResponse sent address : Py HttpResponse).run
          (resetState clock w' u userRecord row code newPassword.password) := by
  have hupdate : (updatePassword conf clock u newPassword.password none).run w' = .ok ()
      (touchedState clock (recordChanged w' u userRecord
        { userRecord with password := newPassword.password }) u row) := by
    have hnew : (recordChanged w' u userRecord
        { userRecord with password := newPassword.password }).users u =
          some { userRecord with password := newPassword.password } := by simp
    rw [updatePassword, run_updateUser huser']
    exact run_userUpdatedCallback_of_row henabled hnew (by simpa using hrow')
  cases haddress : userRecord.email with
  | none =>
    simp [resetPassword, run_getUser_some w huser, SPasswordManager.userCheckEmailCode, hcheck,
      hupdate, haddress, resetState]
  | some address =>
    simp [resetPassword, run_getUser_some w huser, SPasswordManager.userCheckEmailCode, hcheck,
      hupdate, haddress, resetState, resetResponse]

/-- The state a reset with a confirmed code leaves. -/
theorem final_resetPassword_of_match (henabled : conf.enabled = true) {userRecord : UserRecord}
    {row : SPasswordModel} {w' : World} {code : String} (huser : w.users u = some userRecord)
    (hcheck : (SPassword.checkEmailCode u code).run w = .ok true w')
    (huser' : w'.users u = some userRecord) (hrow' : w'.spassword u = some row)
    (newPassword : NewPassword) (server : SmtpServer) :
    final (resetPassword conf clock newPassword none server u code) w =
        resetState clock w' u userRecord row code newPassword.password ∨
      ∃ mail handed, final (resetPassword conf clock newPassword none server u code) w =
        (resetState clock w' u userRecord row code newPassword.password).note
          (.mailed u mail handed) := by
  rw [final_congr (run_resetPassword_of_match henabled huser hcheck huser' hrow' newPassword
    server)]
  cases userRecord.email with
  | none => exact .inl rfl
  | some address =>
    refine .inr ⟨⟨address, .newPassword newPassword.password⟩,
      (SendMail.delivery conf server address).1, ?_⟩
    dsimp only
    rw [final_bind_reads fun _ => reads_pure _, final_sendEmail]

/-- The state once a stored email code has been confirmed. -/
def confirmedState (w : World) (u : String) (row : SPasswordModel) (code : String) : World :=
  (w.setRow u (some { row with sndfaEmail := true })).note (.emailCodeChecked u code true)

/-- What a reset can do, by the state it leaves. -/
inductive ResetOutcome (clock : ℕ → Time) (w : World) (u code password : String)
    (fault : Option PyExc) : World → Prop
  | nobody (huser : w.users u = none) : ResetOutcome clock w u code password fault w
  /-- the code is not the stored one -/
  | refused (userRecord : UserRecord) (huser : w.users u = some userRecord)
      (hcode : ¬ SPassword.EmailCodeStored w u code) :
      ResetOutcome clock w u code password fault (final (SPassword.checkEmailCode u code) w)
  /-- the code is confirmed, and Keystone does not store the password -/
  | faulted (userRecord : UserRecord) (row : SPasswordModel) (huser : w.users u = some userRecord)
      (hrow : w.spassword u = some row) (hcode : row.sndfaEmailCode = some code) (hne : code ≠ "")
      (hfault : fault ≠ none) :
      ResetOutcome clock w u code password fault (confirmedState w u row code)
  /-- the password is changed, and there is no address to mail it to -/
  | reset (userRecord : UserRecord) (row : SPasswordModel) (huser : w.users u = some userRecord)
      (hrow : w.spassword u = some row) (hcode : row.sndfaEmailCode = some code) (hne : code ≠ "")
      (hfault : fault = none) :
      ResetOutcome clock w u code password fault
        (resetState clock (confirmedState w u row code) u userRecord
          { row with sndfaEmail := true } code password)
  /-- the password is changed and mailed -/
  | mailed (userRecord : UserRecord) (row : SPasswordModel) (mail : Mail) (handed : Bool)
      (huser : w.users u = some userRecord) (hrow : w.spassword u = some row)
      (hcode : row.sndfaEmailCode = some code) (hne : code ≠ "") (hfault : fault = none) :
      ResetOutcome clock w u code password fault
        ((resetState clock (confirmedState w u row code) u userRecord
          { row with sndfaEmail := true } code password).note (.mailed u mail handed))

/-- **A reset does one of five things.** -/
theorem resetPassword_outcome {w : World} (hon : conf.enabled = true ∨ w.spassword u = none)
    (code : String) (newPassword : NewPassword) (fault : Option PyExc) (server : SmtpServer) :
    ResetOutcome clock w u code newPassword.password fault
      (final (resetPassword conf clock newPassword fault server u code) w) := by
  cases huser : w.users u with
  | none =>
    rw [final_of_run_error (run_resetPassword_of_no_user huser newPassword fault server code)]
    exact .nobody huser
  | some userRecord =>
    by_cases hstored : SPassword.EmailCodeStored w u code
    · obtain ⟨row, hrow, hcode, hne⟩ := hstored
      have henabled : conf.enabled = true := hon.resolve_right (by rw [hrow]; simp)
      have hcheck := SPassword.run_checkEmailCode_of_match hrow hcode hne
      cases fault with
      | some e =>
        obtain ⟨e', he'⟩ : ∃ e', (resetPassword conf clock newPassword (some e) server u code).run
            w = .error e' _ := run_resetPassword_of_fault huser hcheck newPassword e server
        rw [final_of_run_error he']
        exact .faulted userRecord row huser hrow hcode hne (by simp)
      | none =>
        rcases final_resetPassword_of_match henabled huser hcheck huser (Function.update_self ..)
          newPassword server with hfinal | ⟨mail, handed, hfinal⟩
        · rw [hfinal]
          exact .reset userRecord row huser hrow hcode hne rfl
        · rw [hfinal]
          exact .mailed userRecord row mail handed huser hrow hcode hne rfl
    · rw [final_of_run_ok (run_resetPassword_of_check_false huser
        (run_checkEmailCode_false hstored) newPassword fault server)]
      exact .refused userRecord huser hstored

end SPasswordResource

end KeystoneSpassword
