import KeystoneSpassword.Moves

/-!
# The extension switched off

With `enabled = False` the callbacks and `authenticate` do nothing of their own, and four of the
handlers refuse. Three handlers do not ask: `_ask_for_check_email_code`, `_check_email_code` and
`_reset_password` write whatever row is left from a time when the extension was on. This file says
for every call exactly when it is inert.

Nothing is assumed of the state. The rows may be anything, since they are leftovers.

## Main definitions

* `Inert` — the call leaves the table alone, changes no password, and a login is the base driver's
* `Op.Idle` — which stored code, flag and password leave the call nothing to change

## Main results

* `disabled_inert_iff`
-/

namespace KeystoneSpassword

open StateProgram Machine

variable {conf : Conf} {clock : ℕ → Time} {w : World} {u : String}

/-! ### What is asked of a call -/

/-- The routes that need no token. -/
def Request.TokenLess : Request → Prop
  | .recoverPassword _ _ _ | .resetPassword _ _ _ _ _ | .checkSndfaCode _ _
  | .checkEmailCode _ _ => True
  | .modifySndfa _ _ _ | .getSndfa _ _ | .askForCheckEmailCode _ _ _ _ | .modifyBlack _ _ _
  | .getBlack _ _ => False

/-- The call comes from outside: a login, a change of Keystone's users, or a request. -/
def Op.Outside : Op → Prop
  | .createUser _ _ | .updateUser _ _ | .deleteUser _ | .authenticate _ _ _ | .request _ => True
  | .userModifySndfa _ _ | .userGetSndfa _ | .userAskCheckEmailCode _ _ | .userCheckEmailCode _ _
  | .alreadyUserCheckEmail _ | .userCheckSndfaCode _ _ | .userModifyBlack _ _ | .userGetBlack _
  | .userGetPwdExpiration _ => False

/-- Every user has the password they had. -/
def KeepsPasswords (w w' : World) : Prop :=
  ∀ v, (w'.users v).map UserRecord.password = (w.users v).map UserRecord.password

/-- A login returns a result exactly when the base driver answers with a user, and it returns that
user. -/
def AnswersAsBase (conf : Conf) (clock : ℕ → Time) (w : World) (u password : String)
    (env : AuthEnv) : Prop :=
  ∀ result, (∃ w', (Identity.authenticate conf clock env u password).run w = .ok result w') ↔
    ∃ user, (env.base u password).own = .user user ∧ result = ⟨user, none⟩

/-- The call has no effect of the extension's own. -/
structure Inert (conf : Conf) (clock : ℕ → Time) (w : World) (op : Op) : Prop where
  table : (step conf clock w op).spassword = w.spassword
  passwords : ∀ r, op = .request r → r.TokenLess → KeepsPasswords w (step conf clock w op)
  logins : ∀ u password env, op = .authenticate u password env →
    AnswersAsBase conf clock w u password env

/-- What the stored code, the flag and the password are where the request has nothing to change. A
new code is the stored one, and not confirmed; a presented code finds the flag at the answer of the
comparison; and a reset with the stored code draws the password that the user has. -/
def Request.Idle (w : World) : Request → Prop
  | .askForCheckEmailCode u uuid _ allowed => allowed = true →
    ∀ userRecord row, w.users u = some userRecord → userRecord.email ≠ none →
      w.spassword u = some row → row.sndfaEmailCode = some uuid.code ∧ row.sndfaEmail = false
  | .checkEmailCode u code =>
    ∀ userRecord row, w.users u = some userRecord → userRecord.email ≠ none →
      w.spassword u = some row → Compared row code
  | .resetPassword u code newPassword fault _ =>
    ∀ userRecord row, w.users u = some userRecord → w.spassword u = some row →
      Compared row code ∧ (row.sndfaEmailCode = some code → code ≠ "" → fault = none →
        newPassword.password = userRecord.password)
  | .recoverPassword _ _ _ | .modifySndfa _ _ _ | .getSndfa _ _ | .checkSndfaCode _ _
  | .modifyBlack _ _ _ | .getBlack _ _ => True

/-- The other calls have nothing to change in any state. -/
def Op.Idle (w : World) : Op → Prop
  | .request r => r.Idle w
  | _ => True

/-! ### Parts that change neither users nor rows -/

/-- The users and the table are as they were. -/
structure SameStores (w w' : World) : Prop where
  users : w'.users = w.users
  table : w'.spassword = w.spassword

instance : IsPreorder World SameStores where
  refl _ := ⟨rfl, rfl⟩
  trans _ _ _ h₁ h₂ := ⟨h₂.users.trans h₁.users, h₂.table.trans h₁.table⟩

theorem sameStores_record (e : Event) : Within SameStores (record e) := fun _ => ⟨rfl, rfl⟩

theorem sameStores_sendEmail (server : SmtpServer) (mail : Mail) :
    Within SameStores (SendMail.sendEmail conf server u mail) :=
  (sameStores_record _).bind fun _ => (reads_ofExcept _).within

/-- What happens after the last write. -/
theorem sameStores_of_run_ok {α β : Type} {m : Py α} {f : α → Py β} {a : α} {w' : World}
    (hrun : m.run w = .ok a w') (hf : Within SameStores (f a)) :
    SameStores w' (final (m >>= f) w) := by
  rw [final_bind, hrun]
  exact hf w'

theorem KeepsPasswords.of_users {w' : World} (h : w'.users = w.users) : KeepsPasswords w w' :=
  fun _ => by rw [h]

/-- A user whose record is replaced. -/
theorem keepsPasswords_update_iff {old new : UserRecord} {w' : World} (huser : w.users u = some old)
    (husers : w'.users = Function.update w.users u (some new)) :
    KeepsPasswords w w' ↔ new.password = old.password := by
  constructor
  · intro h
    have hu := h u
    rw [husers, Function.update_self, huser] at hu
    exact Option.some_inj.mp hu
  · intro h v
    rw [husers]
    by_cases hv : v = u
    · subst hv
      rw [Function.update_self, huser, Option.map_some, Option.map_some, h]
    · rw [Function.update_of_ne hv]

/-! ### The handlers that do not ask whether the extension is on -/

namespace SPasswordResource

/-- A new email code changes the row unless it is the stored one, and not confirmed. -/
theorem withEmailCode_eq_self_iff {row : SPasswordModel} {code : String} :
    withEmailCode row code = row ↔ row.sndfaEmailCode = some code ∧ row.sndfaEmail = false := by
  constructor
  · intro h
    rw [← h]
    exact ⟨rfl, rfl⟩
  · rintro ⟨hcode, hemail⟩
    rw [withEmailCode, ← hcode, ← hemail]

theorem table_askForCheckEmailCode_iff (allowed : Bool) (uuid : ShortCode) (server : SmtpServer) :
    (final (askForCheckEmailCode conf allowed uuid server u) w).spassword = w.spassword ↔
      (Request.askForCheckEmailCode u uuid server allowed).Idle w := by
  rw [Request.Idle]
  by_cases h : ∃ userRecord address, Askable w u allowed userRecord address
  · obtain ⟨userRecord, address, h⟩ := h
    rw [final_congr (run_askForCheckEmailCode_of_askable h uuid server),
      final_bind_reads fun _ => reads_pure _, final_sendEmail, World.note_spassword]
    obtain ⟨rfl, huser, haddress⟩ := h
    cases hrow : w.spassword u with
    | none =>
      rw [askedState, hrow]
      exact iff_of_true rfl fun _ _ _ _ _ h => by cases h
    | some row =>
      rw [askedState, hrow]
      refine ((update_table_iff hrow).trans withEmailCode_eq_self_iff).trans
        ⟨fun h _ _ row' _ _ hrow' => ?_, fun h => ?_⟩
      · cases hrow'
        exact h
      · exact h rfl userRecord row huser (by simp [haddress]) rfl
  · obtain ⟨e, he⟩ := (askForCheckEmailCode_cases conf w u allowed uuid server).resolve_right h
    rw [final_of_run_error he]
    refine iff_of_true rfl fun hallowed userRecord row huser hdefined _ => absurd ?_ h
    obtain ⟨address, haddress⟩ := Option.ne_none_iff_exists'.mp hdefined
    exact ⟨userRecord, address, hallowed, huser, haddress⟩

/-- With the extension off, the updated event is delivered to nobody. -/
theorem run_updatePassword_of_disabled (clock : ℕ → Time) (hoff : conf.enabled = false)
    {userRecord : UserRecord} (huser : w.users u = some userRecord) (password : String) :
    (updatePassword conf clock u password none).run w =
      .ok () (recordChanged w u userRecord { userRecord with password }) := by
  have hget : (getUser u).run (recordChanged w u userRecord { userRecord with password }) =
      .ok ({ userRecord with password }.toUser u) _ := run_getUser_some _ (by simp)
  rw [updatePassword, run_updateUser huser]
  simp [SPasswordManager.userUpdatedCallback, hget, hoff]

/-- With the extension off, a reset with the stored code still changes the password. -/
theorem stores_resetPassword_of_match (clock : ℕ → Time) (hoff : conf.enabled = false)
    {userRecord : UserRecord} {w' : World} {code : String} (huser : w.users u = some userRecord)
    (hcheck : (SPassword.checkEmailCode u code).run w = .ok true w') (hsame : w'.users = w.users)
    (newPassword : NewPassword) (server : SmtpServer) :
    SameStores (recordChanged w' u userRecord { userRecord with password := newPassword.password })
      (final (resetPassword conf clock newPassword none server u code) w) := by
  have huser' : w'.users u = some userRecord := by rw [hsame, huser]
  have hupdate := run_updatePassword_of_disabled clock hoff huser' newPassword.password
  rw [resetPassword, final_bind, run_getUser_some w huser]
  dsimp only
  rw [final_bind, SPasswordManager.userCheckEmailCode, hcheck]
  dsimp only
  rw [if_pos rfl]
  refine sameStores_of_run_ok hupdate ((sameStores_record _).bind fun _ => ?_)
  cases (userRecord.toUser u).email with
  | none => exact within_throw _
  | some address => exact (sameStores_sendEmail server _).bind fun _ => within_pure _

/-- A reset writes the table as the comparison does, and changes the password if the code is the
stored one and Keystone stores it. -/
theorem resetPassword_of_disabled (clock : ℕ → Time) (hoff : conf.enabled = false)
    {userRecord : UserRecord} (huser : w.users u = some userRecord) (code : String)
    (newPassword : NewPassword) (fault : Option PyExc) (server : SmtpServer) :
    (final (resetPassword conf clock newPassword fault server u code) w).spassword =
        (final (SPassword.checkEmailCode u code) w).spassword ∧
      (KeepsPasswords w (final (resetPassword conf clock newPassword fault server u code) w) ↔
        (SPassword.EmailCodeStored w u code → fault = none →
          newPassword.password = userRecord.password)) := by
  have husers := users_checkEmailCode (w := w) (u := u) code
  by_cases hstored : SPassword.EmailCodeStored w u code
  · obtain ⟨row, hrow, hcode, hne⟩ := id hstored
    have hcheck := SPassword.run_checkEmailCode_of_match hrow hcode hne
    rw [final_of_run_ok hcheck] at husers ⊢
    cases fault with
    | some e =>
      obtain ⟨e', he'⟩ : ∃ e', (resetPassword conf clock newPassword (some e) server u code).run w =
          .error e' _ := run_resetPassword_of_fault huser hcheck newPassword e server
      rw [final_of_run_error he']
      exact ⟨rfl, iff_of_true (.of_users husers) fun _ h => by cases h⟩
    | none =>
      have hsame := stores_resetPassword_of_match clock hoff huser hcheck husers
        newPassword server
      refine ⟨by rw [hsame.table, recordChanged_spassword], ?_⟩
      have hnew := hsame.users
      rw [recordChanged_users, husers] at hnew
      refine (keepsPasswords_update_iff huser hnew).trans ⟨fun h _ _ => h, fun h => ?_⟩
      exact h hstored rfl
  · rw [final_of_run_ok (run_resetPassword_of_check_false huser (run_checkEmailCode_false hstored)
      newPassword fault server)]
    exact ⟨rfl, iff_of_true (.of_users husers) fun h => absurd h hstored⟩

/-- A reset is inert when the comparison is, and the password is the new one already. -/
theorem resetPassword_stores_iff (hoff : conf.enabled = false) (code : String)
    (newPassword : NewPassword) (fault : Option PyExc) (server : SmtpServer) :
    (final (resetPassword conf clock newPassword fault server u code) w).spassword = w.spassword ∧
        KeepsPasswords w (final (resetPassword conf clock newPassword fault server u code) w) ↔
      (Request.resetPassword u code newPassword fault server).Idle w := by
  cases huser : w.users u with
  | none =>
    rw [final_of_run_error (run_resetPassword_of_no_user huser newPassword fault server code)]
    refine iff_of_true ⟨rfl, fun _ => rfl⟩ fun userRecord row h => ?_
    rw [huser] at h
    cases h
  | some userRecord =>
    obtain ⟨htable, hpasswords⟩ := resetPassword_of_disabled clock hoff huser code
      newPassword fault server
    rw [htable, hpasswords, Request.Idle, huser]
    cases hrow : w.spassword u with
    | none =>
      have hunset : (SPassword.checkEmailCode u code).run w = .ok false w :=
        SPassword.run_checkEmailCode_of_unset fun row h => by rw [hrow] at h; cases h
      refine iff_of_true ⟨by rw [final_of_run_ok hunset], ?_⟩ fun _ _ _ h => by cases h
      rintro ⟨row, h, -⟩
      rw [hrow] at h
      cases h
    | some row =>
      rw [table_checkEmailCode_iff hrow]
      constructor
      · rintro ⟨hcompared, hpassword⟩ userRecord' row' huser' hrow'
        cases huser'
        cases hrow'
        exact ⟨hcompared, fun hcode hne => hpassword ⟨row, hrow, hcode, hne⟩⟩
      · intro h
        obtain ⟨hcompared, hpassword⟩ := h userRecord row rfl rfl
        refine ⟨hcompared, ?_⟩
        rintro ⟨row', hrow', hcode, hne⟩
        rw [hrow] at hrow'
        cases hrow'
        exact hpassword hcode hne

/-- A presented email code, on its own route. -/
theorem checkEmailCode_stores_iff (code : String) :
    (final (checkEmailCode u code) w).users = w.users ∧
      ((final (checkEmailCode u code) w).spassword = w.spassword ↔
        (Request.checkEmailCode u code).Idle w) := by
  cases huser : w.users u with
  | none =>
    have hquiet : final (checkEmailCode u code) w = w := by
      simp [final, checkEmailCode, run_getUser_none w huser]
    refine ⟨by rw [hquiet], iff_of_true (by rw [hquiet]) fun userRecord row h => ?_⟩
    rw [huser] at h
    cases h
  | some userRecord =>
    cases haddress : userRecord.email with
    | none =>
      have hquiet : final (checkEmailCode u code) w = w := by
        simp [final, checkEmailCode, run_getUser_some w huser, checkUserHasEmailDefined, haddress]
      refine ⟨by rw [hquiet], iff_of_true (by rw [hquiet]) fun userRecord' row h hdefined => ?_⟩
      rw [huser] at h
      cases h
      exact absurd haddress hdefined
    | some address =>
      have hdefined : (checkUserHasEmailDefined (userRecord.toUser u)).run w = .ok address w :=
        run_checkUserHasEmailDefined_some haddress
      have hcheck :
          final (checkEmailCode u code) w = final (SPassword.checkEmailCode u code) w := by
        rw [checkEmailCode, final_bind, run_getUser_some w huser]
        dsimp only
        rw [final_bind, hdefined]
        exact final_bind_reads (fun matched => by cases matched <;> exact reads_pure _) w
      rw [hcheck, Request.Idle, huser]
      refine ⟨users_checkEmailCode code, ?_⟩
      cases hrow : w.spassword u with
      | none =>
        have hunset : (SPassword.checkEmailCode u code).run w = .ok false w :=
          SPassword.run_checkEmailCode_of_unset fun row h => by rw [hrow] at h; cases h
        exact iff_of_true (by rw [final_of_run_ok hunset]) fun _ _ _ _ h => by cases h
      | some row =>
        rw [table_checkEmailCode_iff hrow]
        constructor
        · rintro hcompared userRecord' row' - - hrow'
          cases hrow'
          exact hcompared
        · exact fun h => h userRecord row rfl (by simp [haddress]) rfl

theorem final_of_unconfigured (hoff : conf.enabled = false) {α : Type} (f : Unit → Py α) :
    final (checkSpasswordConfigured conf >>= f) w = w := by
  rw [final_bind, run_checkSpasswordConfigured, hoff]
  rfl

end SPasswordResource

/-! ### Every call -/

/-- A login with the extension off is a call of the base driver. -/
theorem answersAsBase_of_disabled (hoff : conf.enabled = false) (w : World) (u password : String)
    (env : AuthEnv) : AnswersAsBase conf clock w u password env := by
  intro result
  rw [Identity.authenticate, EStateM.run_bind, Identity.run_verdict_of_disabled hoff]
  cases (env.base u password).own with
  | user user =>
    simp only [Identity.BaseAnswer.toPy, EStateM.run_pure, Identity.attempt, hoff]
    constructor
    · rintro ⟨w', h⟩
      cases h
      exact ⟨user, rfl, rfl⟩
    · rintro ⟨user', h, rfl⟩
      cases h
      exact ⟨w, rfl⟩
  | assertionError =>
    constructor
    · rintro ⟨w', h⟩
      simp [Identity.BaseAnswer.toPy, Identity.attempt, hoff] at h
    · rintro ⟨user, h, -⟩
      cases h
  | raised what =>
    constructor
    · rintro ⟨w', h⟩
      simp [Identity.BaseAnswer.toPy] at h
    · rintro ⟨user, h, -⟩
      cases h

/-- With the extension off, a created event writes no row. -/
theorem table_createUser_of_disabled (hoff : conf.enabled = false) (userRecord : UserRecord) :
    (final (IdentityApi.createUser conf clock u userRecord) w).spassword = w.spassword := by
  simp [final, IdentityApi.createUser, SPasswordManager.userCreatedCallback, getUser, hoff]

theorem table_updateUser_of_disabled (hoff : conf.enabled = false)
    (change : UserRecord → UserRecord) :
    (final (IdentityApi.updateUser conf clock u change) w).spassword = w.spassword := by
  cases huser : w.users u with
  | none => simp [final, IdentityApi.updateUser, huser]
  | some old =>
    have hget : (getUser u).run (recordChanged w u old (change old)) =
        .ok ((change old).toUser u) _ := run_getUser_some _ (by simp)
    rw [final_congr (run_updateUser huser change)]
    simp [final, SPasswordManager.userUpdatedCallback, hget, hoff]

/-- The row of a deleted user stays. -/
theorem table_deleteUser_of_disabled (hoff : conf.enabled = false) :
    (final (IdentityApi.deleteUser conf u) w).spassword = w.spassword := by
  simp [final, IdentityApi.deleteUser, SPasswordManager.userDeletedCallback, hoff]

/-- A request, by what it leaves of the table and of the passwords. -/
theorem inert_request_iff (r : Request) :
    Inert conf clock w (.request r) ↔
      (final (r.program conf clock) w).spassword = w.spassword ∧
        (r.TokenLess → KeepsPasswords w (final (r.program conf clock) w)) := by
  constructor
  · intro h
    rw [← step_request]
    exact ⟨h.table, h.passwords r rfl⟩
  · rintro ⟨htable, hpasswords⟩
    refine ⟨by rw [step_request, htable], fun r' hr' => ?_, fun _ _ _ h => ?_⟩
    · cases hr'
      rw [step_request]
      exact hpasswords
    · cases h

theorem inert_of_quiet {r : Request} (h : final (r.program conf clock) w = w) :
    Inert conf clock w (.request r) :=
  inert_request_iff r |>.mpr ⟨by rw [h], fun _ => .of_users (by rw [h])⟩

/-- A change of Keystone's users, by what it leaves of the table. -/
theorem inert_of_table {op : Op} (htable : (step conf clock w op).spassword = w.spassword)
    (hrequest : ∀ r, op ≠ .request r)
    (hlogin : ∀ u password env, op ≠ .authenticate u password env) : Inert conf clock w op :=
  ⟨htable, fun r h => absurd h (hrequest r), fun u password env h =>
    absurd h (hlogin u password env)⟩

/-- **One call with the extension off.** -/
theorem inert_iff_idle (hoff : conf.enabled = false) (w : World) {op : Op} (hop : op.Outside) :
    Inert conf clock w op ↔ op.Idle w := by
  cases op with
  | createUser u userRecord =>
    exact iff_of_true (inert_of_table (table_createUser_of_disabled hoff userRecord) (by simp)
      (by simp)) trivial
  | updateUser u userRecord =>
    exact iff_of_true (inert_of_table (table_updateUser_of_disabled hoff _) (by simp) (by simp))
      trivial
  | deleteUser u =>
    exact iff_of_true (inert_of_table (table_deleteUser_of_disabled hoff) (by simp) (by simp))
      trivial
  | authenticate u password env =>
    refine iff_of_true ⟨?_, fun r h => ?_, fun u' password' env' h => ?_⟩ trivial
    · rw [step_authenticate, final_authenticate_of_disabled hoff]
    · cases h
    · cases h
      exact answersAsBase_of_disabled hoff w u password env
  | request r =>
    cases r with
    | recoverPassword u uuid server =>
      exact iff_of_true (inert_of_quiet (SPasswordResource.final_of_unconfigured hoff _)) trivial
    | modifySndfa u enable allowed =>
      exact iff_of_true (inert_of_quiet (SPasswordResource.final_of_unconfigured hoff _)) trivial
    | checkSndfaCode u code =>
      exact iff_of_true (inert_of_quiet (SPasswordResource.final_of_unconfigured hoff _)) trivial
    | modifyBlack u enable allowed =>
      exact iff_of_true (inert_of_quiet (SPasswordResource.final_of_unconfigured hoff _)) trivial
    | getSndfa u allowed =>
      refine iff_of_true (inert_of_quiet ?_) trivial
      exact (reads_enforceCall allowed).bind (fun _ => (reads_getUser u).bind fun _ =>
        (reads_alreadyEmailChecked u).bind fun _ => (reads_getSndfa u).bind fun _ =>
          reads_pure _) w
    | getBlack u allowed =>
      refine iff_of_true (inert_of_quiet ?_) trivial
      exact (reads_enforceCall allowed).bind (fun _ => (reads_getUser u).bind fun _ =>
        (reads_getBlack u).bind fun _ => (reads_getPwdExpiration u).bind fun _ => reads_pure _) w
    | askForCheckEmailCode u uuid server allowed =>
      refine (inert_request_iff _).trans ?_
      exact (and_iff_left fun h => h.elim).trans
        (SPasswordResource.table_askForCheckEmailCode_iff allowed uuid server)
    | checkEmailCode u code =>
      obtain ⟨husers, htable⟩ := SPasswordResource.checkEmailCode_stores_iff (w := w) (u := u) code
      refine (inert_request_iff _).trans ?_
      exact (and_iff_left fun _ => .of_users husers).trans htable
    | resetPassword u code newPassword fault server =>
      refine (inert_request_iff _).trans ?_
      exact (and_congr_right fun _ => imp_iff_right trivial).trans
        (SPasswordResource.resetPassword_stores_iff hoff code newPassword fault server)
  | _ => exact hop.elim

/-- **The extension switched off.** From any users and any rows, every call of a run is inert if and
only if each request of the run that asks for, presents, or resets with an email code finds a stored
code, a flag and a password that leave it nothing to change. -/
theorem disabled_inert_iff (hoff : conf.enabled = false) (w : World) {ops : List Op}
    (hops : ∀ op ∈ ops, op.Outside) :
    Along (step conf clock) (Inert conf clock) w ops ↔
      Along (step conf clock) (fun w op => op.Idle w) w ops :=
  along_congr_of_mem (fun op hop w => inert_iff_idle hoff w (hops op hop)) w

/-- The extension switched off again. -/
def Sample.offConf : Conf := { Sample.conf with enabled := false }

/-- What is left when it is switched off: a row with a verified address and its code. -/
def Sample.leftover : World := run Sample.conf Sample.ticking (.initial Sample.users) Sample.setUp

/-- A login, a change of the record, a recovery, and the code that is confirmed already. -/
theorem disabled_inert_iff_leftover :
    Along (step Sample.offConf Sample.ticking) (Inert Sample.offConf Sample.ticking) Sample.leftover
      [Sample.login, .updateUser "alice" Sample.alice,
        .request (.recoverPassword "alice" Sample.code .up),
        .request (.checkEmailCode "alice" Sample.emailCode.code), .deleteUser "alice"] := by
  refine (disabled_inert_iff rfl Sample.leftover ?_).mpr ⟨trivial, trivial, trivial, ?_, trivial,
    trivial⟩
  · simp [Op.Outside, Sample.login]
  · rintro userRecord row - - hrow -
    cases hrow
    rfl

/-- The code of a leftover row resets the password of a deployment without the extension. -/
theorem leftover_code_resets_password :
    let reset : Op := .request (.resetPassword "alice" Sample.emailCode.code Sample.newPassword none
      .up)
    (Sample.leftover.users "alice").map UserRecord.password = some "secret" ∧
      ((step Sample.offConf Sample.ticking Sample.leftover reset).users "alice").map
        UserRecord.password = some "0123abcd4567" ∧
      ¬ Inert Sample.offConf Sample.ticking Sample.leftover reset := by
  refine ⟨rfl, rfl, fun h => ?_⟩
  have hkept := h.passwords _ rfl trivial "alice"
  exact absurd (Option.some_inj.mp hkept) (by decide)

end KeystoneSpassword
