import KeystoneSpassword.Invariants
import KeystoneSpassword.Refusals

/-!
# The table

Two properties of the table as a whole: which rows there are, and what a row looks like.

## Lives

A row belongs to a life of its user. The deleted event takes it away, and nothing puts it back
while the user does not exist: a created or updated event names a user, and a login inserts a row
only for a user that `get_user` finds.

## Columns

The columns are nullable, and the code reads some of them without looking. `WellFormed` says which
of them are set together. It is shown program by program with `Ensures`, for any order of the
methods of the driver, `set_user_sndfa_code` called on its own included. The exceptions it admits
say at the same time that no missing date is ever normalised.

## Main definitions

* `SPasswordModel.WellFormed`, `TableCall`

## Main results

* `no_orphan_rows`
* `rows_well_formed`
-/

namespace KeystoneSpassword

open StateProgram

variable {conf : Conf} {clock : ℕ → Time} {w : World}

/-! ### Lives -/

/-- **Rows belong to existing users.** A deletion takes the row along, and a creation finds none:
the row it leaves is a new one, with nothing of an earlier life. -/
theorem no_orphan_rows (henabled : conf.enabled = true) (hreach : Reachable conf clock w) :
    (∀ u, w.spassword u ≠ none → w.users u ≠ none) ∧
      (∀ u, (step conf clock w (.deleteUser u)).spassword u = none ∧
        (step conf clock w (.deleteUser u)).users u = none) ∧
      ∀ u userRecord, w.users u = none → w.spassword u = none ∧
        step conf clock w (.createUser u userRecord) =
          createdState clock ((w.setUser u (some userRecord)).note (.passwordSet u))
            (userRecord.toUser u) := by
  have huser : ∀ u, w.spassword u ≠ none → w.users u ≠ none := by
    intro u hrow
    obtain ⟨row, hrow⟩ := Option.ne_none_iff_exists'.mp hrow
    exact (tracks_of_reachable hreach).user u row hrow
  refine ⟨huser, fun u => ?_, fun u userRecord hnone => ?_⟩
  · rw [step, Op.program, final_deleteUser henabled]
    simp
  · have hrow : w.spassword u = none := not_not.mp fun h => huser u h hnone
    refine ⟨hrow, ?_⟩
    rw [step, Op.program, final_createUser henabled]
    exact final_of_run_ok (run_stampCreationTime_of_no_row hrow)

/-- A user that is deleted and created again, with the second factor on in the first life. -/
theorem no_orphan_rows_second_life :
    let w := run Sample.conf Sample.ticking (.initial Sample.users)
      (Sample.setUp ++ [.deleteUser "alice"])
    w.spassword "alice" = none ∧
      step Sample.conf Sample.ticking w (.createUser "alice" Sample.alice) =
      createdState Sample.ticking ((w.setUser "alice" (some Sample.alice)).note
        (.passwordSet "alice")) (Sample.alice.toUser "alice") := by
  intro w
  have hreach : Reachable Sample.conf Sample.ticking w := (reachable_initial Sample.users).run _
  exact (no_orphan_rows rfl hreach).2.2 "alice" Sample.alice (by decide)

/-! ### Columns -/

/-- Which columns of a row are set. -/
structure SPasswordModel.WellFormed (row : SPasswordModel) : Prop where
  creationTime : row.creationTime.isSome
  attempts_nonneg : 0 ≤ row.loginAttempts
  lastLoginAttemptTime : 0 < row.loginAttempts → row.lastLoginAttemptTime.isSome
  sndfaCode : row.sndfaCode.isSome ↔ row.sndfaTimeCode.isSome
  sndfaLast : row.sndfaLast.isSome → row.sndfaCode.isSome
  emailCode : row.sndfa = true ∨ row.sndfaEmail = true → row.sndfaEmailCode.isSome

/-- Every row of the table is well formed. -/
def TableFormed (w : World) : Prop := ∀ u row, w.spassword u = some row → row.WellFormed

/-- With a limit that is not negative, the exception is not that of a missing date. -/
def Dated (conf : Conf) (e : PyExc) : Prop := 0 ≤ conf.pwdMaxTries → e ≠ .attributeError "tzinfo"

/-- The row a created or updated event inserts. -/
theorem wellFormed_newRow (user : User) (now : DateTime) :
    (SPassword.newRow user now).WellFormed := by
  constructor <;> simp [SPassword.newRow]

/-- The row a login inserts. -/
theorem wellFormed_firstRow (user : User) (now : DateTime) (res : Option User) :
    (Identity.firstRow user now res).WellFormed := by
  constructor <;> simp [Identity.firstRow]
  split_ifs <;> simp

theorem tableFormed_setRow (h : TableFormed w) {u : String} {row : Option SPasswordModel}
    (hrow : ∀ r, row = some r → r.WellFormed) : TableFormed (w.setRow u row) := by
  intro v r hr
  by_cases hv : v = u
  · subst hv
    exact hrow r (by simpa using hr)
  · exact h v r (by simpa [hv] using hr)

section Primitives

variable {α : Type} {Q : α → Prop} {E : PyExc → Prop}

theorem ensures_record (e : Event) : Ensures TableFormed (fun _ => True) E (record e) :=
  fun _ h => ⟨h, trivial⟩

theorem ensures_utcnow : Ensures TableFormed (fun _ => True) E (utcnow clock) :=
  fun _ h => ⟨h, trivial⟩

/-- What a session reads is well formed. -/
theorem ensures_getSpasswordSession (u : String) :
    Ensures TableFormed (fun row => ∀ r, row = some r → r.WellFormed) E (getSpasswordSession u) :=
  fun _ h => ⟨h, fun r hr => h u r hr⟩

theorem ensures_getUser (u : String) (hE : E (.userNotFound u)) :
    Ensures TableFormed (fun _ => True) E (getUser u) := by
  intro w h
  cases huser : w.users u with
  | none =>
    rw [run_getUser_none w huser]
    exact ⟨h, hE⟩
  | some userRecord =>
    rw [run_getUser_some w huser]
    exact ⟨h, trivial⟩

theorem ensures_sessionUpdate (u : String) {assign : SPasswordModel → SPasswordModel}
    (hassign : ∀ r : SPasswordModel, r.WellFormed → (assign r).WellFormed) :
    Ensures TableFormed (fun _ => True) E (sessionUpdate u assign) := by
  intro w h
  refine ⟨tableFormed_setRow h fun r hr => ?_, trivial⟩
  obtain ⟨r₀, hr₀, rfl⟩ := Option.map_eq_some_iff.mp hr
  exact hassign r₀ (h u r₀ hr₀)

theorem ensures_sessionInsert {row : SPasswordModel} (hrow : row.WellFormed)
    (hE : E .integrityError) : Ensures TableFormed (fun _ => True) E (sessionInsert row) := by
  intro w h
  cases hstored : w.spassword row.userId with
  | none =>
    rw [run_sessionInsert w hstored]
    exact ⟨tableFormed_setRow h fun r hr => Option.some.inj hr ▸ hrow, trivial⟩
  | some r =>
    simp only [sessionInsert, EStateM.run_bind, EStateM.run_get, hstored, run_throw]
    exact ⟨h, hE⟩

theorem ensures_sessionDelete (u : String) :
    Ensures TableFormed (fun _ => True) E (sessionDelete u) :=
  fun _ h => ⟨tableFormed_setRow h fun _ hr => (by cases hr), trivial⟩

theorem ensures_ofExcept {x : Except PyExc α} (hQ : ∀ a, x = .ok a → Q a)
    (hE : ∀ e, x = .error e → E e) : Ensures TableFormed Q E (ofExcept x) := by
  intro w h
  cases x with
  | ok a => exact ⟨h, hQ a rfl⟩
  | error e => exact ⟨h, hE e rfl⟩

/-- A date that is set is normalised without an exception. -/
theorem ensures_normalizeDbDate {stored : Option DateTime} (h : stored.isSome) :
    Ensures TableFormed (fun _ => True) E (ofExcept (normalizeDbDate stored)) := by
  obtain ⟨date, rfl⟩ := Option.isSome_iff_exists.mp h
  rw [normalizeDbDate_some]
  exact ensures_pure trivial

end Primitives

/-! ### The methods keep the rows well formed -/

section Methods

variable (u : String)

theorem ensures_removeUser {E : PyExc → Prop} :
    Ensures TableFormed (fun _ => True) E (SPassword.removeUser u) := by
  refine (ensures_getSpasswordSession u).bind fun row _ => ?_
  cases row with
  | none => exact ensures_record (.userDeleted u)
  | some row =>
    show Ensures _ _ _ (sessionDelete u >>= fun _ => record (.userDeleted u))
    exact (ensures_sessionDelete u).bind fun _ _ => ensures_record _

theorem ensures_stampCreationTime (user : User) :
    Ensures TableFormed (fun _ => True) (Dated conf) (SPassword.stampCreationTime clock user) := by
  refine (ensures_getSpasswordSession user.id).bind fun row _ => ?_
  cases row with
  | none =>
    refine ensures_utcnow.bind fun now _ => ?_
    exact (ensures_sessionInsert (wellFormed_newRow user now) fun _ => by simp).bind fun _ _ =>
      ensures_record _
  | some row =>
    refine ensures_utcnow.bind fun now _ => ?_
    refine (ensures_sessionUpdate user.id fun r hr => ?_).bind fun _ _ => ensures_record _
    exact { hr with
      creationTime := rfl
      attempts_nonneg := le_refl _
      lastLoginAttemptTime := by simp }

/-- `set_user_sndfa_code` raises nothing: every row has the column it tests for. -/
theorem ensures_setUserSndfaCode (code : String) :
    Ensures TableFormed (fun _ => True) (fun _ => False)
      (SPassword.setUserSndfaCode clock u code) := by
  refine (ensures_getSpasswordSession u).bind fun row _ => ?_
  cases row with
  | none => exact ensures_pure trivial
  | some row =>
    refine Ensures.ite (fun _ => ?_) fun h => absurd row.sndfa_mem_keys h
    refine Ensures.ite (fun _ => ?_) fun _ => ensures_pure trivial
    refine ensures_utcnow.bind fun now _ => ?_
    refine (ensures_sessionUpdate u fun r hr => ?_).bind fun _ _ => ensures_record _
    exact { hr with sndfaCode := by simp, sndfaLast := fun _ => rfl }

/-- `already_email_checked` raises nothing either. -/
theorem ensures_alreadyEmailChecked :
    Ensures TableFormed (fun _ => True) (fun _ => False) (SPassword.alreadyEmailChecked u) := by
  intro w h
  rw [SPassword.run_alreadyEmailChecked]
  exact ⟨h, trivial⟩

/-- A match is on a row that has a code. -/
theorem ensures_checkSndfaCode {E : PyExc → Prop} (code : String) :
    Ensures TableFormed (fun _ => True) E (SPassword.checkSndfaCode clock u code) := by
  intro w h
  by_cases hmatch : ∃ row, w.spassword u = some row ∧ SPassword.Acceptable row code
  · obtain ⟨row, hrow, hcode⟩ := hmatch
    rw [SPassword.run_checkSndfaCode_of_match hrow hcode]
    refine ⟨tableFormed_setRow (w := w.tick) h fun r hr => ?_, trivial⟩
    cases hr
    exact { h u row hrow with sndfaLast := fun _ => by simp [hcode.2.2] }
  · rw [SPassword.run_checkSndfaCode_of_mismatch fun row hrow hcode => hmatch ⟨row, hrow, hcode⟩]
    exact ⟨h, trivial⟩

theorem ensures_modifySndfa {E : PyExc → Prop} (enable : Bool) :
    Ensures TableFormed (fun _ => True) E (SPassword.modifySndfa u enable) := by
  intro w h
  cases hrow : w.spassword u with
  | none => simpa [SPassword.modifySndfa, hrow] using h
  | some row =>
    cases hemail : row.sndfaEmail with
    | false => simpa [SPassword.modifySndfa, hrow, hemail] using h
    | true =>
      have hrun : (SPassword.modifySndfa u enable).run w = .ok true
          ((w.setRow u (some { row with sndfa := enable })).note (.sndfaModified u enable)) := by
        simp [SPassword.modifySndfa, hrow, hemail]
      rw [hrun]
      refine ⟨tableFormed_setRow h fun r hr => ?_, trivial⟩
      cases hr
      exact { h u row hrow with emailCode := fun _ => (h u row hrow).emailCode (.inr hemail) }

theorem ensures_setCheckEmailCode {E : PyExc → Prop} (origin : CodeOrigin) (code : String) :
    Ensures TableFormed (fun _ => True) E (SPassword.setCheckEmailCode origin u code) := by
  refine (ensures_getSpasswordSession u).bind fun row _ => ?_
  cases row with
  | none => exact ensures_pure trivial
  | some row =>
    refine (ensures_sessionUpdate u fun r hr => ?_).bind fun _ _ => ensures_record _
    exact { hr with emailCode := fun _ => rfl }

/-- The outcome of the comparison is written only where a code is stored. -/
theorem ensures_checkEmailCode {E : PyExc → Prop} (code : String) :
    Ensures TableFormed (fun _ => True) E (SPassword.checkEmailCode u code) := by
  intro w h
  by_cases hset : ∃ row, w.spassword u = some row ∧ truthy row.sndfaEmailCode = true
  · obtain ⟨row, hrow, hset⟩ := hset
    rw [SPassword.run_checkEmailCode_of_set hrow hset]
    refine ⟨tableFormed_setRow h fun r hr => ?_, trivial⟩
    cases hr
    refine { h u row hrow with emailCode := fun _ => ?_ }
    cases hcode : row.sndfaEmailCode with
    | none => simp [hcode, truthy] at hset
    | some code => rfl
  · rw [SPassword.run_checkEmailCode_of_unset fun row hrow =>
      Bool.eq_false_iff.mpr fun h' => hset ⟨row, hrow, h'⟩]
    exact ⟨h, trivial⟩

theorem ensures_modifyBlack {E : PyExc → Prop} (enable : Bool) :
    Ensures TableFormed (fun _ => True) E (SPassword.modifyBlack u enable) := by
  refine (ensures_getSpasswordSession u).bind fun row _ => ?_
  cases row with
  | none => exact ensures_pure trivial
  | some row =>
    refine (ensures_sessionUpdate u fun r hr => ?_).bind fun _ _ =>
      (ensures_record _).bind fun _ _ => ensures_pure trivial
    exact { hr with }

/-- `already_sndfa_signed` looks before it normalises. -/
theorem ensures_alreadySndfaSigned {E : PyExc → Prop} :
    Ensures TableFormed (fun _ => True) E (SPassword.alreadySndfaSigned conf clock u) := by
  refine (ensures_getSpasswordSession u).bind fun row _ => ?_
  cases row with
  | none => exact ensures_pure trivial
  | some row =>
    refine Ensures.ite (fun _ => ?_) fun _ => ensures_pure trivial
    cases row.sndfaLast with
    | none => exact ensures_pure trivial
    | some last =>
      refine (ensures_normalizeDbDate rfl).bind fun _ _ => ?_
      exact ensures_utcnow.bind fun _ _ => ensures_pure trivial

theorem ensures_getPwdExpiration {E : PyExc → Prop} :
    Ensures TableFormed (fun _ => True) E (SPassword.getPwdExpiration conf u) := by
  refine (ensures_getSpasswordSession u).bind fun row hrow => ?_
  cases row with
  | none => exact ensures_pure trivial
  | some row =>
    exact (ensures_normalizeDbDate (hrow row rfl).creationTime).bind fun _ _ => ensures_pure trivial

end Methods

/-! ### A login keeps the rows well formed -/

namespace Identity

theorem dated_spasswordUnauthorized (message : String) :
    Dated conf (.spasswordUnauthorized message) := fun _ => by simp

theorem dated_getUser (u : String) : Dated conf (.userNotFound u) := fun _ => by simp

/-- A counter above a limit that is not negative has been dated. -/
theorem ensures_lockoutTest (u : String) {row : Option SPasswordModel}
    (hrow : ∀ r, row = some r → r.WellFormed) :
    Ensures TableFormed (fun _ => True) (Dated conf) (lockoutTest conf clock u row) := by
  cases row with
  | none => exact ensures_pure trivial
  | some row =>
    refine Ensures.ite (fun hlt => ?_) fun _ => ensures_pure trivial
    refine Ensures.bind (Q := fun _ => True) ?_ fun last _ => ?_
    · refine ensures_ofExcept (fun _ _ => trivial) fun e he hlimit => ?_
      have hset := (hrow row rfl).lastLoginAttemptTime (lt_of_le_of_lt hlimit hlt)
      obtain ⟨last, hlast⟩ := Option.isSome_iff_exists.mp hset
      rw [hlast, normalizeDbDate_some] at he
      cases he
    · refine ensures_utcnow.bind fun now _ => ?_
      refine Ensures.ite (fun _ => ?_) fun _ => ensures_pure trivial
      exact (ensures_record _).bind fun _ _ => ensures_throw (dated_spasswordUnauthorized _)

theorem ensures_checkPassword (u : String) :
    Ensures TableFormed (fun _ => True) (Dated conf) (checkPassword conf clock u) := by
  refine Ensures.ite (fun _ => ?_) fun _ => ensures_pure trivial
  refine (ensures_getSpasswordSession u).bind fun row hrow => ?_
  cases row with
  | none => exact ensures_pure trivial
  | some row =>
    refine Ensures.bind (Q := fun _ => True) ?_ fun checks _ => ?_
    · refine ensures_ofExcept (fun _ _ => trivial) fun e he _ => ?_
      simp [checksExpiry_error he]
    · refine Ensures.ite (fun _ => ?_) fun _ => ensures_pure trivial
      refine ensures_utcnow.bind fun now _ => ?_
      refine (ensures_normalizeDbDate (hrow row rfl).creationTime).bind fun created _ => ?_
      refine Ensures.ite (fun _ => ?_) fun _ => ensures_pure trivial
      exact (ensures_record _).bind fun _ _ => ensures_throw (dated_spasswordUnauthorized _)

theorem ensures_toPy (a : BaseAnswer) :
    Ensures TableFormed (fun _ => True) (Dated conf) (BaseAnswer.toPy a) := by
  cases a with
  | user user => exact ensures_pure trivial
  | assertionError => exact ensures_pure trivial
  | raised what => exact ensures_throw fun _ => by simp

theorem ensures_baseAuthenticate (env : AuthEnv) (u password : String) :
    Ensures TableFormed (fun _ => True) (Dated conf)
      (baseAuthenticate conf clock env u password) := by
  rw [baseAuthenticate]
  cases env.base u password with
  | answer a => exact ensures_toPy a
  | check a => exact (ensures_checkPassword u).bind fun _ _ => ensures_toPy a

theorem ensures_verdict (env : AuthEnv) (u password : String) :
    Ensures TableFormed (fun _ => True) (Dated conf) (verdict conf clock env u password) := by
  have hbase : Ensures TableFormed (fun _ => True) (Dated conf)
      (baseAuthenticate conf clock env u password) := ensures_baseAuthenticate env u password
  refine Ensures.ite (fun _ => ?_) fun _ => hbase
  refine (ensures_getSpasswordSession u).bind fun row hrow => ?_
  exact (ensures_lockoutTest u hrow).bind fun _ _ => hbase

theorem ensures_insideWindow {E : PyExc → Prop} (stored : Option DateTime) :
    Ensures TableFormed (fun _ => True) E (insideWindow conf clock stored) := by
  cases stored with
  | none => exact ensures_pure trivial
  | some date =>
    refine (ensures_normalizeDbDate rfl).bind fun _ _ => ?_
    exact ensures_utcnow.bind fun _ _ => ensures_pure trivial

theorem ensures_sndfaCodeToMail (env : AuthEnv) (u : String) (row : SPasswordModel) :
    Ensures TableFormed (fun _ => True) (Dated conf) (sndfaCodeToMail conf clock env u row) := by
  refine (ensures_insideWindow row.sndfaTimeCode).bind fun fresh _ => ?_
  refine Ensures.ite (fun _ => ensures_pure trivial) fun _ => ?_
  refine (ensures_getUser u (dated_getUser u)).bind fun user _ => ?_
  exact (ensures_setUserSndfaCode user.id env.uuid.code).of_never.bind fun _ _ =>
    ensures_pure trivial

theorem ensures_userEmail (u : String) :
    Ensures TableFormed (fun _ => True) (Dated conf) (userEmail u) := by
  refine (ensures_getUser u (dated_getUser u)).bind fun user _ => ?_
  cases user.email with
  | none => exact ensures_throw fun _ => by simp
  | some email => exact ensures_pure trivial

theorem ensures_sendEmail (server : SmtpServer) (u : String) (mail : Mail) :
    Ensures TableFormed (fun _ => True) (Dated conf) (SendMail.sendEmail conf server u mail) := by
  refine (ensures_record _).bind fun _ _ => ensures_ofExcept (fun _ _ => trivial) fun e he _ => ?_
  obtain ⟨what, rfl⟩ := SendMail.delivery_error he
  simp

theorem ensures_secondFactor (env : AuthEnv) (u : String) (row : SPasswordModel) :
    Ensures TableFormed (fun _ => True) (Dated conf) (secondFactor conf clock env u row) := by
  refine Ensures.ite (fun _ => ?_) fun _ => ensures_pure trivial
  refine Ensures.ite (fun _ => ?_) fun _ => ensures_pure trivial
  refine (ensures_insideWindow row.sndfaLast).bind fun signed _ => ?_
  refine Ensures.ite (fun _ => ensures_pure trivial) fun _ => ?_
  refine (ensures_sndfaCodeToMail env u row).bind fun code _ => ?_
  refine (ensures_userEmail u).bind fun address _ => ?_
  exact (ensures_sendEmail env.server u _).bind fun _ _ => ensures_pure trivial

/-- The counter that is written is the one that was read, plus one. -/
theorem ensures_registeredAttempt (env : AuthEnv) (u : String) {row : SPasswordModel}
    (hrow : row.WellFormed) (res : Option User) (now : DateTime) :
    Ensures TableFormed (fun _ => True) (Dated conf)
      (registeredAttempt conf clock env u row res now) := by
  refine (ensures_normalizeDbDate hrow.creationTime).bind fun created _ => ?_
  cases res with
  | none =>
    refine (ensures_sessionUpdate u fun r hr => ?_).bind fun _ _ =>
      ensures_throw (dated_spasswordUnauthorized _)
    have hnonneg := hrow.attempts_nonneg
    exact { hr with
      attempts_nonneg := by dsimp only; omega
      lastLoginAttemptTime := fun _ => rfl }
  | some user =>
    refine (ensures_secondFactor env u row).bind fun refusal _ => ?_
    refine (ensures_sessionUpdate u fun r hr => ?_).bind fun _ _ => ?_
    · exact { hr with attempts_nonneg := le_refl _, lastLoginAttemptTime := fun _ => rfl }
    · cases refusal with
      | none => exact (ensures_record _).bind fun _ _ => ensures_pure trivial
      | some message => exact ensures_throw (dated_spasswordUnauthorized message)

theorem ensures_firstAttempt (u : String) (res : Option User) (now : DateTime) :
    Ensures TableFormed (fun _ => True) (Dated conf) (firstAttempt conf u res now) := by
  refine (ensures_getUser u (dated_getUser u)).bind fun user _ => ?_
  refine (ensures_sessionInsert (wellFormed_firstRow user now res) fun _ => by simp).bind
    fun _ _ => (ensures_record _).bind fun _ _ => ?_
  cases res with
  | none => exact ensures_throw (dated_spasswordUnauthorized _)
  | some user => exact (ensures_record _).bind fun _ _ => ensures_pure trivial

theorem ensures_attempt (env : AuthEnv) (u : String) (res : Option User) :
    Ensures TableFormed (fun _ => True) (Dated conf) (attempt conf clock env u res) := by
  refine Ensures.ite (fun _ => ?_) fun _ => ?_
  · refine (ensures_getSpasswordSession u).bind fun row hrow => ?_
    refine ensures_utcnow.bind fun now _ => (ensures_record _).bind fun _ _ => ?_
    cases row with
    | none => exact ensures_firstAttempt u res now
    | some row => exact ensures_registeredAttempt env u (hrow row rfl) res now
  · cases res with
    | none => exact ensures_throw (dated_spasswordUnauthorized _)
    | some user => exact ensures_pure trivial

theorem ensures_authenticate (env : AuthEnv) (u password : String) :
    Ensures TableFormed (fun _ => True) (Dated conf) (authenticate conf clock env u password) :=
  (ensures_verdict env u password).bind fun res _ => ensures_attempt env u res

end Identity

/-! ### Any order of the methods -/

/-- A call that reads or writes the table: the user events, a login, and the methods of the driver
on their own. -/
inductive TableCall
  | createUser (userId : String) (userRecord : UserRecord)
  | updateUser (userId : String) (userRecord : UserRecord)
  | deleteUser (userId : String)
  | authenticate (userId password : String) (env : AuthEnv)
  | setUserSndfaCode (userId newcode : String)
  | checkSndfaCode (userId code : String)
  | modifySndfa (userId : String) (enable : Bool)
  | userAskCheckEmailCode (userId : String) (uuid : ShortCode)
  | checkEmailCode (userId code : String)
  | alreadyEmailChecked (userId : String)
  | modifyBlack (userId : String) (enable : Bool)

/-- The program of a call, without its result. -/
def TableCall.program (conf : Conf) (clock : ℕ → Time) : TableCall → Py Unit
  | .createUser u userRecord => IdentityApi.createUser conf clock u userRecord
  | .updateUser u userRecord =>
    IdentityApi.updateUser conf clock u fun old => old.merge userRecord
  | .deleteUser u => IdentityApi.deleteUser conf u
  | .authenticate u password env => do let _ ← Identity.authenticate conf clock env u password
  | .setUserSndfaCode u newcode => SPassword.setUserSndfaCode clock u newcode
  | .checkSndfaCode u code => do let _ ← SPassword.checkSndfaCode clock u code
  | .modifySndfa u enable => do let _ ← SPassword.modifySndfa u enable
  | .userAskCheckEmailCode u uuid => do
    let _ ← SPasswordManager.userAskCheckEmailCode .manager u uuid
  | .checkEmailCode u code => do let _ ← SPassword.checkEmailCode u code
  | .alreadyEmailChecked u => do let _ ← SPassword.alreadyEmailChecked u
  | .modifyBlack u enable => do let _ ← SPassword.modifyBlack u enable

/-- The state after a call, whether it returned or raised. -/
def tableStep (conf : Conf) (clock : ℕ → Time) (w : World) (call : TableCall) : World :=
  final (call.program conf clock) w

/-- A created or updated event. -/
theorem ensures_userEvent (u : String) :
    Ensures TableFormed (fun _ => True) (Dated conf) (getUser u >>= fun user =>
      if conf.enabled then SPassword.stampCreationTime clock user else pure ()) := by
  refine (ensures_getUser u (Identity.dated_getUser u)).bind fun user _ => ?_
  exact Ensures.ite (fun _ => ensures_stampCreationTime user) fun _ => ensures_pure trivial

theorem ensures_setUser (u : String) (userRecord : Option UserRecord) {E : PyExc → Prop} :
    Ensures TableFormed (fun _ => True) E (modify fun w => w.setUser u userRecord : Py Unit) :=
  fun _ h => ⟨h, trivial⟩

/-- A change of a user's record, and the updated event. -/
theorem ensures_updateUser (u : String) (change : UserRecord → UserRecord) :
    Ensures TableFormed (fun _ => True) (Dated conf)
      (IdentityApi.updateUser conf clock u change) := by
  intro w h
  cases huser : w.users u with
  | none =>
    have hrun : (IdentityApi.updateUser conf clock u change).run w =
        .error (.userNotFound u) w := by simp [IdentityApi.updateUser, huser]
    rw [hrun]
    exact ⟨h, Identity.dated_getUser u⟩
  | some old =>
    rw [run_updateUser huser]
    refine ensures_userEvent u _ fun v row hrow => h v row ?_
    simpa using hrow

theorem ensures_program (call : TableCall) :
    Ensures TableFormed (fun _ => True) (Dated conf) (call.program conf clock) := by
  cases call with
  | createUser u userRecord =>
    refine (ensures_setUser u (some userRecord)).bind fun _ _ => ?_
    exact (ensures_record _).bind fun _ _ => ensures_userEvent u
  | updateUser u userRecord => exact ensures_updateUser u _
  | deleteUser u =>
    refine (ensures_setUser u none).bind fun _ _ => ?_
    exact Ensures.ite (fun _ => ensures_removeUser u) fun _ => ensures_pure trivial
  | authenticate u password env =>
    exact (Identity.ensures_authenticate env u password).bind fun _ _ => ensures_pure trivial
  | setUserSndfaCode u newcode =>
    exact (ensures_setUserSndfaCode u newcode).of_never
  | checkSndfaCode u code =>
    exact (ensures_checkSndfaCode u code).bind fun _ _ => ensures_pure trivial
  | modifySndfa u enable =>
    exact (ensures_modifySndfa u enable).bind fun _ _ => ensures_pure trivial
  | userAskCheckEmailCode u uuid =>
    have hask : Ensures TableFormed (fun _ => True) (Dated conf)
        (SPasswordManager.userAskCheckEmailCode .manager u uuid) :=
      (ensures_alreadyEmailChecked u).of_never.bind fun _ _ =>
        (ensures_setCheckEmailCode u .manager uuid.code).bind fun _ _ => ensures_pure trivial
    exact hask.bind fun _ _ => ensures_pure trivial
  | checkEmailCode u code =>
    exact (ensures_checkEmailCode u code).bind fun _ _ => ensures_pure trivial
  | alreadyEmailChecked u =>
    exact (ensures_alreadyEmailChecked u).of_never.bind fun _ _ => ensures_pure trivial
  | modifyBlack u enable =>
    exact (ensures_modifyBlack u enable).bind fun _ _ => ensures_pure trivial

/-- The program raises the exception. -/
def Raises {α : Type} (m : Py α) (w : World) (e : PyExc) : Prop := ∃ w', m.run w = .error e w'

/-- **Every row is well formed**, after any sequence of calls on an empty table. So no missing date
is normalised, and no row is inserted without a `user_id`. -/
theorem rows_well_formed (conf : Conf) (clock : ℕ → Time) (users : String → Option UserRecord)
    (calls : List TableCall) :
    let w := Machine.run (tableStep conf clock) (.initial users) calls
    (∀ u row, w.spassword u = some row → row.WellFormed) ∧
      (0 ≤ conf.pwdMaxTries → ∀ u,
        (∀ env password, ¬ Raises (Identity.authenticate conf clock env u password) w
          (.attributeError "tzinfo")) ∧
        ¬ Raises (Identity.checkPassword conf clock u) w (.attributeError "tzinfo") ∧
        ¬ Raises (SPassword.alreadySndfaSigned conf clock u) w (.attributeError "tzinfo") ∧
        ¬ Raises (SPassword.getPwdExpiration conf u) w (.attributeError "tzinfo")) ∧
      ∀ u, (∀ code, ¬ Raises (SPassword.setUserSndfaCode clock u code) w .integrityError) ∧
        ¬ Raises (SPassword.alreadyEmailChecked u) w .integrityError := by
  intro w
  have hformed : TableFormed w := Machine.run_invariant (P := fun _ _ => True)
    (fun s call _ => (ensures_program call).preserves s)
    (Machine.along_of_forall (fun _ _ => trivial) _ _) fun _ _ hrow => by cases hrow
  refine ⟨hformed, fun hlimit u => ⟨?_, ?_, ?_, ?_⟩, fun u => ⟨?_, ?_⟩⟩
  · rintro env password ⟨w', hrun⟩
    exact (Identity.ensures_authenticate env u password).raises hformed hrun hlimit rfl
  · rintro ⟨w', hrun⟩
    exact (Identity.ensures_checkPassword u).raises hformed hrun hlimit rfl
  · rintro ⟨w', hrun⟩
    exact (ensures_alreadySndfaSigned (E := fun _ => False) u).raises hformed hrun
  · rintro ⟨w', hrun⟩
    exact (ensures_getPwdExpiration (E := fun _ => False) u).raises hformed hrun
  · rintro code ⟨w', hrun⟩
    exact (ensures_setUserSndfaCode u code).raises hformed hrun
  · rintro ⟨w', hrun⟩
    exact (ensures_alreadyEmailChecked u).raises hformed hrun

/-- A login of a user that a wrong password has registered. -/
theorem rows_well_formed_registered :
    let w := Machine.run (tableStep Sample.conf Sample.ticking) (.initial Sample.users)
      [.authenticate "alice" "guess" (Sample.env Sample.code)]
    w.spassword "alice" ≠ none ∧
      ¬ Raises (Identity.authenticate Sample.conf Sample.ticking (Sample.env Sample.code) "alice"
        "secret") w (.attributeError "tzinfo") := by
  intro w
  have hrows := rows_well_formed Sample.conf Sample.ticking Sample.users
    [.authenticate "alice" "guess" (Sample.env Sample.code)]
  exact ⟨by decide, (hrows.2.1 (by decide) "alice").1 (Sample.env Sample.code) "secret"⟩

end KeystoneSpassword
