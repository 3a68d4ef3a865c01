import KeystoneSpassword.Stepwise
import KeystoneSpassword.ResourceOutcomes

/-!
# Calls that nobody interrupts

The calls in database steps are a second text of the extension, so they are compared with the
first one: the steps of a call that runs alone are its program. The only place where the two texts
differ is the commit, which writes the changed columns and raises when the row is gone, and alone
a call finds the row as it has read it. A login that issues a code does so in a second session, so
it finds its row with another code, and with the counter and the date it has read.

## Main results

* `exec_process` — the steps of a call, taken without interruption, are the call
* `deployment_of_reachable` — what calls reach one after another, a deployment reaches
-/

namespace KeystoneSpassword

open StateProgram Interleaving Process

variable {conf : Conf} {clock : ℕ → Time} {w : World} {u : String}

/-- A commit that finds a row. -/
theorem run_commitUpdate {stored : SPasswordModel} (hrow : w.spassword u = some stored)
    (loaded assigned : SPasswordModel) (noted : Py Unit) :
    (exec (commitUpdate u loaded assigned noted)).run w =
      noted.run (w.setRow u (some (loaded.flush assigned stored))) := by
  rw [commitUpdate, exec_atomic]
  by_cases hassigned : assigned = loaded
  · rw [run_sessionCommit_unchanged hassigned, hassigned, SPasswordModel.flush_unchanged,
      World.setRow_self hrow]
  · exact run_sessionCommit_stored hassigned hrow noted

@[simp] theorem exec_ofExcept {α : Type} (x : Except PyExc α) :
    exec (Stepwise.ofExcept x) = ofExcept x := by
  cases x <;> rfl

/-! ### The driver -/

namespace SPassword

@[simp] theorem exec_removeUser (u : String) :
    exec (Stepwise.SPassword.removeUser u) = removeUser u := by
  refine ext_of_run fun w => ?_
  cases hrow : w.spassword u <;> simp [Stepwise.SPassword.removeUser, removeUser, hrow]

@[simp] theorem exec_stampCreationTime (user : User) :
    exec (Stepwise.SPassword.stampCreationTime clock user) = stampCreationTime clock user := by
  refine ext_of_run fun w => ?_
  cases hrow : w.spassword user.id with
  | none => simp [Stepwise.SPassword.stampCreationTime, stampCreationTime, hrow]
  | some row =>
    have hcommit := run_commitUpdate (w := w.tick) hrow
    simp [Stepwise.SPassword.stampCreationTime, stampCreationTime, hrow, hcommit]

@[simp] theorem exec_setUserSndfaCode (u code : String) :
    exec (Stepwise.SPassword.setUserSndfaCode clock u code) = setUserSndfaCode clock u code := by
  refine ext_of_run fun w => ?_
  cases hrow : w.spassword u with
  | none => simp [Stepwise.SPassword.setUserSndfaCode, setUserSndfaCode, hrow]
  | some row =>
    have hcommit := run_commitUpdate (w := w.tick) hrow
    by_cases hon : row.sndfa = true ∧ row.sndfaEmail = true <;>
      simp [Stepwise.SPassword.setUserSndfaCode, setUserSndfaCode, hrow, hon, hcommit]

@[simp] theorem exec_modifySndfa (u : String) (enable : Bool) :
    exec (Stepwise.SPassword.modifySndfa u enable) = modifySndfa u enable := by
  refine ext_of_run fun w => ?_
  cases hrow : w.spassword u with
  | none => simp [Stepwise.SPassword.modifySndfa, modifySndfa, hrow]
  | some row =>
    cases hemail : row.sndfaEmail <;>
      simp [Stepwise.SPassword.modifySndfa, modifySndfa, hrow, hemail, run_commitUpdate hrow]

@[simp] theorem exec_checkSndfaCode (u code : String) :
    exec (Stepwise.SPassword.checkSndfaCode clock u code) = checkSndfaCode clock u code := by
  refine ext_of_run fun w => ?_
  cases hrow : w.spassword u with
  | none => simp [Stepwise.SPassword.checkSndfaCode, checkSndfaCode, hrow]
  | some row =>
    have hcommit := run_commitUpdate (w := w.tick) hrow
    by_cases hon : row.sndfa = true ∧ row.sndfaEmail = true <;>
      by_cases hcode : row.sndfaCode = some code <;>
        simp [Stepwise.SPassword.checkSndfaCode, checkSndfaCode, hrow, hon, hcode, hcommit]

@[simp] theorem exec_modifyBlack (u : String) (enable : Bool) :
    exec (Stepwise.SPassword.modifyBlack u enable) = modifyBlack u enable := by
  refine ext_of_run fun w => ?_
  cases hrow : w.spassword u with
  | none => simp [Stepwise.SPassword.modifyBlack, modifyBlack, hrow]
  | some row =>
    simp [Stepwise.SPassword.modifyBlack, modifyBlack, hrow, run_commitUpdate hrow]

@[simp] theorem exec_setCheckEmailCode (origin : CodeOrigin) (u code : String) :
    exec (Stepwise.SPassword.setCheckEmailCode origin u code) =
      setCheckEmailCode origin u code := by
  refine ext_of_run fun w => ?_
  cases hrow : w.spassword u with
  | none => simp [Stepwise.SPassword.setCheckEmailCode, setCheckEmailCode, hrow]
  | some row =>
    simp [Stepwise.SPassword.setCheckEmailCode, setCheckEmailCode, hrow, run_commitUpdate hrow]

@[simp] theorem exec_checkEmailCode (u code : String) :
    exec (Stepwise.SPassword.checkEmailCode u code) = checkEmailCode u code := by
  refine ext_of_run fun w => ?_
  cases hrow : w.spassword u with
  | none => simp [Stepwise.SPassword.checkEmailCode, checkEmailCode, hrow]
  | some row =>
    cases hset : truthy row.sndfaEmailCode <;>
      simp [Stepwise.SPassword.checkEmailCode, checkEmailCode, hrow, hset, run_commitUpdate hrow]

end SPassword

/-! ### The manager, and Keystone's users -/

@[simp] theorem SPasswordManager.exec_userAskCheckEmailCode (origin : CodeOrigin) (u : String)
    (uuid : ShortCode) : exec (Stepwise.SPasswordManager.userAskCheckEmailCode origin u uuid) =
      userAskCheckEmailCode origin u uuid := by
  simp [Stepwise.SPasswordManager.userAskCheckEmailCode, userAskCheckEmailCode]

namespace IdentityApi

@[simp] theorem exec_createUser (u : String) (userRecord : UserRecord) :
    exec (Stepwise.IdentityApi.createUser conf clock u userRecord) =
      createUser conf clock u userRecord := by
  simp [Stepwise.IdentityApi.createUser, createUser, Stepwise.SPasswordManager.userCreatedCallback,
    SPasswordManager.userCreatedCallback, SPassword.setUserCreationTime, exec_ite]

@[simp] theorem exec_updateUser (u : String) (change : UserRecord → UserRecord) :
    exec (Stepwise.IdentityApi.updateUser conf clock u change) =
      updateUser conf clock u change := by
  refine ext_of_run fun w => ?_
  cases huser : w.users u with
  | none => simp [Stepwise.IdentityApi.updateUser, updateUser, huser]
  | some old =>
    by_cases hpassword : (change old).password = old.password <;>
      simp [Stepwise.IdentityApi.updateUser, updateUser,
        Stepwise.SPasswordManager.userUpdatedCallback, SPasswordManager.userUpdatedCallback,
        SPassword.updateUserModificationTime, exec_ite, huser, hpassword]

@[simp] theorem exec_deleteUser (u : String) :
    exec (Stepwise.IdentityApi.deleteUser conf u) = deleteUser conf u := by
  simp [Stepwise.IdentityApi.deleteUser, deleteUser, Stepwise.SPasswordManager.userDeletedCallback,
    SPasswordManager.userDeletedCallback, exec_ite]

end IdentityApi

/-! ### The identity driver -/

namespace Identity

@[simp] theorem exec_checkPassword (u : String) :
    exec (Stepwise.Identity.checkPassword conf clock u) = checkPassword conf clock u := by
  rw [Stepwise.Identity.checkPassword, checkPassword, exec_ite, exec_bind, exec_atomic]
  congr 1
  refine bind_congr fun spasswordRef => ?_
  cases spasswordRef with
  | none => rfl
  | some spassword => simp [exec_ite]

@[simp] theorem exec_baseAuthenticate (env : AuthEnv) (u password : String) :
    exec (Stepwise.Identity.baseAuthenticate conf clock env u password) =
      baseAuthenticate conf clock env u password := by
  rw [Stepwise.Identity.baseAuthenticate, baseAuthenticate]
  cases env.base u password <;> simp

@[simp] theorem exec_sndfaCodeToMail (env : AuthEnv) (u : String) (row : SPasswordModel) :
    exec (Stepwise.Identity.sndfaCodeToMail conf clock env u row) =
      sndfaCodeToMail conf clock env u row := by
  simp [Stepwise.Identity.sndfaCodeToMail, sndfaCodeToMail, exec_ite]

@[simp] theorem exec_secondFactor (env : AuthEnv) (u : String) (row : SPasswordModel) :
    exec (Stepwise.Identity.secondFactor conf clock env u row) =
      secondFactor conf clock env u row := by
  simp [Stepwise.Identity.secondFactor, secondFactor, exec_ite]

/-- The row is stored with the counter and the date that were loaded. -/
def StoredAs (u : String) (loaded : SPasswordModel) (w : World) : Prop :=
  ∃ stored, w.spassword u = some stored ∧ stored.loginAttempts = loaded.loginAttempts ∧
    stored.lastLoginAttemptTime = loaded.lastLoginAttemptTime

/-- The commit of an attempt, when nobody else has counted one. -/
theorem flush_attempt {loaded stored : SPasswordModel} (attempts : ℤ) (last : Option DateTime)
    (hattempts : stored.loginAttempts = loaded.loginAttempts)
    (hlast : stored.lastLoginAttemptTime = loaded.lastLoginAttemptTime) :
    loaded.flush { loaded with loginAttempts := attempts, lastLoginAttemptTime := last } stored =
      { stored with loginAttempts := attempts, lastLoginAttemptTime := last } := by
  simp [SPasswordModel.flush, hattempts, hlast]

theorem preserves_setUserSndfaCode {loaded : SPasswordModel} (code : String) :
    Preserves (StoredAs u loaded) (SPassword.setUserSndfaCode clock u code) := by
  rintro w ⟨row, hrow, hstored⟩
  by_cases hon : row.sndfa = true ∧ row.sndfaEmail = true <;>
    simpa [final, SPassword.setUserSndfaCode, StoredAs, hrow, hon] using hstored

theorem preserves_insideWindow {loaded : SPasswordModel} (stored : Option DateTime) :
    Preserves (StoredAs u loaded) (insideWindow conf clock stored) := by
  intro w h
  cases stored with
  | none => exact h
  | some date => simpa [final, insideWindow, normalizeDbDate_some, StoredAs] using h

/-- What follows a correct password leaves the counter and the date alone. -/
theorem preserves_secondFactor (env : AuthEnv) (row : SPasswordModel) :
    Preserves (StoredAs u row) (secondFactor conf clock env u row) := by
  refine Within.ite (fun _ => ?_) fun _ => within_pure _
  refine Within.ite (fun _ => ?_) fun _ => within_pure _
  refine (preserves_insideWindow row.sndfaLast).bind fun signed => ?_
  refine Within.ite (fun _ => within_pure _) fun _ => ?_
  have hcode : Preserves (StoredAs u row) (sndfaCodeToMail conf clock env u row) := by
    refine (preserves_insideWindow row.sndfaTimeCode).bind fun fresh => ?_
    refine Within.ite (fun _ => within_pure _) fun _ w h => ?_
    cases huser : w.users u with
    | none => simpa [final, run_getUser_none w huser] using h
    | some userRecord =>
      rw [final_bind, run_getUser_some w huser]
      exact ((preserves_setUserSndfaCode env.uuid.code).bind fun _ => within_pure _) w h
  refine hcode.bind fun code => ?_
  have haddress : Reads (userEmail u) := by
    refine (reads_getUser u).bind fun user => ?_
    cases user.email <;> exact fun _ => rfl
  refine haddress.within.bind fun address => ?_
  refine Within.bind (fun w h => ?_) fun _ => within_pure _
  rwa [final_sendEmail]

/-- Alone, the attempt still finds the row that it has read. -/
theorem run_registeredAttempt (env : AuthEnv) (row : SPasswordModel) (res : Option User)
    (now : DateTime) (h : StoredAs u row w) :
    (exec (Stepwise.Identity.registeredAttempt conf clock env u row res now)).run w =
      (registeredAttempt conf clock env u row res now).run w := by
  obtain ⟨stored, hrow, hattempts, hlast⟩ := id h
  cases htime : normalizeDbDate row.creationTime with
  | error e => simp [Stepwise.Identity.registeredAttempt, registeredAttempt, htime]
  | ok created =>
    cases res with
    | none =>
      simp [Stepwise.Identity.registeredAttempt, registeredAttempt, htime, hrow,
        run_commitUpdate hrow, flush_attempt _ _ hattempts hlast]
    | some user =>
      have hkeeps : StoredAs u row (final (secondFactor conf clock env u row) w) :=
        preserves_secondFactor env row w h
      cases hrun : (secondFactor conf clock env u row).run w with
      | error e w' => simp [Stepwise.Identity.registeredAttempt, registeredAttempt, htime, hrun]
      | ok refusal w' =>
        rw [final_of_run_ok hrun] at hkeeps
        obtain ⟨stored', hrow', hattempts', hlast'⟩ := hkeeps
        cases refusal <;>
          simp [Stepwise.Identity.registeredAttempt, registeredAttempt, htime, hrun, hrow',
            run_commitUpdate hrow', flush_attempt _ _ hattempts' hlast']

@[simp] theorem exec_firstAttempt (u : String) (res : Option User) (now : DateTime) :
    exec (Stepwise.Identity.firstAttempt conf u res now) = firstAttempt conf u res now := by
  cases res <;> simp [Stepwise.Identity.firstAttempt, firstAttempt]

@[simp] theorem exec_attempt (env : AuthEnv) (u : String) (res : Option User) :
    exec (Stepwise.Identity.attempt conf clock env u res) = attempt conf clock env u res := by
  refine ext_of_run fun w => ?_
  by_cases henabled : conf.enabled = true
  · cases hrow : w.spassword u with
    | none =>
      simp [Stepwise.Identity.attempt, attempt, henabled, hrow, Stepwise.Identity.recordAttempt,
        recordAttempt]
    | some row =>
      let noted := w.tick.note (.baseVerdict u (clock w.ticks) res.isSome)
      have hattempt : (exec (Stepwise.Identity.registeredAttempt conf clock env u row res
          (.utc (clock w.ticks)))).run noted =
            (registeredAttempt conf clock env u row res (.utc (clock w.ticks))).run noted :=
        run_registeredAttempt env row res _ ⟨row, hrow, rfl, rfl⟩
      simpa [Stepwise.Identity.attempt, attempt, henabled, hrow, Stepwise.Identity.recordAttempt,
        recordAttempt] using hattempt
  · cases res <;> simp [Stepwise.Identity.attempt, attempt, henabled]

@[simp] theorem exec_authenticate (env : AuthEnv) (u password : String) :
    exec (Stepwise.Identity.authenticate conf clock env u password) =
      authenticate conf clock env u password := by
  simp [Stepwise.Identity.authenticate, authenticate, Stepwise.Identity.verdict, verdict, exec_ite]

end Identity

/-! ### The requests -/

namespace SPasswordResource

@[simp] theorem exec_recoverPassword (uuid : ShortCode) (server : SmtpServer) (u : String) :
    exec (Stepwise.SPasswordResource.recoverPassword conf uuid server u) =
      recoverPassword conf uuid server u := by
  simp [Stepwise.SPasswordResource.recoverPassword, recoverPassword,
    SPasswordManager.userCheckEmailCode]

@[simp] theorem exec_updatePassword (u password : String) (fault : Option PyExc) :
    exec (Stepwise.SPasswordResource.updatePassword conf clock u password fault) =
      updatePassword conf clock u password fault := by
  rcases fault with _ | e
  · exact IdentityApi.exec_updateUser u _
  · cases e <;> rfl

@[simp] theorem exec_resetPassword (newPassword : NewPassword) (fault : Option PyExc)
    (server : SmtpServer) (u code : String) :
    exec (Stepwise.SPasswordResource.resetPassword conf clock newPassword fault server u code) =
      resetPassword conf clock newPassword fault server u code := by
  rw [Stepwise.SPasswordResource.resetPassword, resetPassword, exec_bind, exec_atomic]
  refine bind_congr fun userInfo => ?_
  cases userInfo.email <;> simp [SPasswordManager.userCheckEmailCode, exec_ite]

theorem exec_process (r : Request) : exec (r.process conf clock) = r.program conf clock := by
  cases r with
  | recoverPassword u uuid server => exact exec_recoverPassword uuid server u
  | resetPassword u code newPassword fault server =>
    exact exec_resetPassword newPassword fault server u code
  | modifySndfa u enable allowed =>
    cases henable : enable.getD (.bool false) <;>
      simp [Request.process, Request.program, Stepwise.SPasswordResource.modifySndfa, modifySndfa,
        SPasswordManager.userModifySndfa, henable]
  | getSndfa u allowed =>
    simp [Request.process, Request.program, Stepwise.SPasswordResource.getSndfa, getSndfa]
  | checkSndfaCode u code =>
    simp [Request.process, Request.program, Stepwise.SPasswordResource.checkSndfaCode,
      checkSndfaCode, SPasswordManager.userCheckSndfaCode, exec_ite]
  | askForCheckEmailCode u uuid server allowed =>
    simp [Request.process, Request.program, Stepwise.SPasswordResource.askForCheckEmailCode,
      askForCheckEmailCode]
  | checkEmailCode u code =>
    simp [Request.process, Request.program, Stepwise.SPasswordResource.checkEmailCode,
      checkEmailCode, SPasswordManager.userCheckEmailCode, exec_ite]
  | modifyBlack u enable allowed =>
    cases henable : enable.getD (.bool false) <;>
      simp [Request.process, Request.program, Stepwise.SPasswordResource.modifyBlack, modifyBlack,
        SPasswordManager.userModifyBlack, henable]
  | getBlack u allowed =>
    simp [Request.process, Request.program, Stepwise.SPasswordResource.getBlack, getBlack]

end SPasswordResource

/-! ### The calls -/

theorem exec_unanswered {α : Type} (p : Steps α) :
    (exec (unanswered p) >>= fun _ => pure ()) = (exec p >>= fun _ => pure () : Py Unit) := by
  simp [unanswered]

/-- The steps of a call, taken without interruption, are the call. -/
theorem exec_process (conf : Conf) (clock : ℕ → Time) (op : Op) :
    (do let _ ← exec (op.process conf clock)) = op.program conf clock := by
  cases op with
  | authenticate u password env => simp [Op.process, Op.program]
  | request r =>
    rw [Op.process, exec_unanswered, SPasswordResource.exec_process]
    rfl
  | _ =>
    rw [Op.process, exec_unanswered]
    simp [Op.program, SPasswordManager.userModifySndfa, SPasswordManager.userCheckEmailCode,
      SPasswordManager.userCheckSndfaCode, SPasswordManager.userModifyBlack]

theorem final_exec_process (conf : Conf) (clock : ℕ → Time) (op : Op) (w : World) :
    final (exec (op.process conf clock)) w = step conf clock w op := by
  rw [step, ← exec_process, final_bind_reads fun _ => reads_pure _]

/-- A deployment can make a call and let it run to its end before anybody else moves. -/
theorem exists_turns_of_call (clock : ℕ → Time) (d : Deployment) (call : Call) :
    ∃ turns, Machine.run (Deployment.turn clock) d turns =
      ⟨step call.conf clock d.state call.op,
        d.entries ++ [⟨call, d.state, .done (answer (exec (call.process clock)) d.state)⟩]⟩ := by
  obtain ⟨n, hn⟩ := Pool.run_alone (Call.process clock) call d.state d.entries
    (call.process clock) d.state
  refine ⟨.start call :: List.replicate n (.act d.entries.length), ?_⟩
  rw [← final_exec_process]
  exact hn

/-- Every call of the deployment is over, and has ended as its program ends from the state it was
called in. -/
def Deployment.CarriedOut (conf : Conf) (clock : ℕ → Time) (d : Deployment) : Prop :=
  ∀ e ∈ d.entries, ∃ op, e.call = ⟨conf, op⟩ ∧
    e.process = .done (answer (exec (op.process conf clock)) e.origin)

/-- **What calls reach one after another, a deployment reaches**, with every call carried out. -/
theorem deployment_of_reachable (h : Reachable conf clock w) :
    ∃ d : Deployment, d.Reachable clock ∧ d.CarriedOut conf clock ∧ d.state = w := by
  refine Reachable.induction (I := fun w => ∃ d : Deployment, d.Reachable clock ∧
    d.CarriedOut conf clock ∧ d.state = w)
    (fun users => ⟨⟨.initial users, []⟩, ⟨users, [], rfl⟩, by simp [Deployment.CarriedOut], rfl⟩)
    ?_ h
  rintro _ op ⟨d, ⟨users, turns, hd⟩, hcarried, rfl⟩
  obtain ⟨turns', hturns⟩ := exists_turns_of_call clock d ⟨conf, op⟩
  refine ⟨Machine.run (Deployment.turn clock) d turns', ⟨users, turns ++ turns', ?_⟩, ?_, ?_⟩
  · rw [Machine.run_append, ← hd]
  · rw [hturns]
    intro e he
    rcases List.mem_append.mp he with he | he
    · exact hcarried e he
    · rw [List.mem_singleton.mp he]
      exact ⟨op, rfl, rfl⟩
  · rw [hturns]

/-- The set-up of the second factor, as a deployment. -/
theorem deployment_of_reachable_set_up : ∃ d : Deployment, d.Reachable Sample.ticking ∧
    d.CarriedOut Sample.conf Sample.ticking ∧
      d.state = run Sample.conf Sample.ticking (.initial Sample.users) Sample.setUp :=
  deployment_of_reachable ((reachable_initial Sample.users).run Sample.setUp)

end KeystoneSpassword
