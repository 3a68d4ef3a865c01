import KeystoneSpassword.Lib.Interleaving
import KeystoneSpassword.System

/-!
# The calls in database steps

No call of the extension is one transaction. A method reads the row in one session and commits
later, and a request goes through several methods. Here every call is a `Process` whose steps are
what the source does at one moment: a read of a row or of a user, a reading of the clock, a commit,
a mail. The text of each definition is that of its namesake, cut at these points.

## Commits

`commitUpdate` is the commit of an object read earlier. The ORM compares the object with what it
has loaded and writes an `UPDATE` of the columns that differ, on the row as it is stored by then;
an object without a difference is not written at all. If the row is gone the statement matches
nothing and the ORM raises.
`sessionInsert` raises when somebody else has inserted the row. What is noted in the history is
noted in the step that makes it true.

## Configurations

A deployment runs several servers, and an option changes when one of them restarts. A `Call` is
therefore a call together with the configuration of the server that answers it, and nothing relates
the configurations of two calls. All servers share the clock.

## Main definitions

* `Steps`, `commitUpdate`
* `Stepwise.SPassword`, `Stepwise.Identity`, `Stepwise.SPasswordResource` — the methods
* `Op.process`, `Call`, `Deployment`
-/

namespace KeystoneSpassword

open StateProgram Interleaving Process

/-- A method of the source, in atomic steps. -/
abbrev Steps := Process PyExc World

/-- What the ORM raises when the row of an object is gone at its commit. -/
def staleData : PyExc := .other "StaleDataError"

/-- One column of an `UPDATE`: written if its value is not the one that was loaded. -/
def flushColumn {α : Type} [DecidableEq α] (loaded assigned stored : α) : α :=
  if assigned = loaded then stored else assigned

/-- The row after the `UPDATE` of an object: the columns that were changed since it was loaded are
written, and the others stay as they are stored by then. -/
def SPasswordModel.flush (loaded assigned stored : SPasswordModel) : SPasswordModel where
  userId := flushColumn loaded.userId assigned.userId stored.userId
  userName := flushColumn loaded.userName assigned.userName stored.userName
  domainId := flushColumn loaded.domainId assigned.domainId stored.domainId
  creationTime := flushColumn loaded.creationTime assigned.creationTime stored.creationTime
  loginAttempts := flushColumn loaded.loginAttempts assigned.loginAttempts stored.loginAttempts
  lastLoginAttemptTime := flushColumn loaded.lastLoginAttemptTime assigned.lastLoginAttemptTime
    stored.lastLoginAttemptTime
  extra := flushColumn loaded.extra assigned.extra stored.extra
  sndfa := flushColumn loaded.sndfa assigned.sndfa stored.sndfa
  sndfaLast := flushColumn loaded.sndfaLast assigned.sndfaLast stored.sndfaLast
  sndfaCode := flushColumn loaded.sndfaCode assigned.sndfaCode stored.sndfaCode
  sndfaTimeCode := flushColumn loaded.sndfaTimeCode assigned.sndfaTimeCode stored.sndfaTimeCode
  sndfaEmail := flushColumn loaded.sndfaEmail assigned.sndfaEmail stored.sndfaEmail
  sndfaEmailCode := flushColumn loaded.sndfaEmailCode assigned.sndfaEmailCode stored.sndfaEmailCode

@[simp] theorem flushColumn_loaded {α : Type} [DecidableEq α] (loaded assigned : α) :
    flushColumn loaded assigned loaded = assigned := by
  simp only [flushColumn, ite_eq_right_iff]
  exact Eq.symm

@[simp] theorem flushColumn_unchanged {α : Type} [DecidableEq α] (loaded stored : α) :
    flushColumn loaded loaded stored = stored := if_pos rfl

/-- An object that is still as it was stored is stored as it has become. -/
@[simp] theorem SPasswordModel.flush_loaded (loaded assigned : SPasswordModel) :
    loaded.flush assigned loaded = assigned := by
  simp [flush]

@[simp] theorem SPasswordModel.flush_unchanged (loaded stored : SPasswordModel) :
    loaded.flush loaded stored = stored := by
  simp [flush]

/-- Commit of an object read from the database, with what is noted of it. -/
def sessionCommit (userId : String) (loaded assigned : SPasswordModel) (noted : Py Unit) :
    Py Unit := do
  if assigned = loaded then noted
  else
    match (← get).spassword userId with
    | some _ =>
      sessionUpdate userId (loaded.flush assigned)
      noted
    | none => throw staleData

/-- The commit, as a step. -/
def commitUpdate (userId : String) (loaded assigned : SPasswordModel) (noted : Py Unit) :
    Steps Unit := atomic (sessionCommit userId loaded assigned noted)

section Commit

variable {w : World} {u : String} {loaded assigned stored : SPasswordModel}

theorem run_sessionCommit_unchanged (h : assigned = loaded) (noted : Py Unit) :
    (sessionCommit u loaded assigned noted).run w = noted.run w := by
  rw [sessionCommit, if_pos h]

theorem run_sessionCommit_gone (h : assigned ≠ loaded) (hrow : w.spassword u = none)
    (noted : Py Unit) : (sessionCommit u loaded assigned noted).run w = .error staleData w := by
  simp [sessionCommit, h, hrow]

theorem run_sessionCommit_stored (h : assigned ≠ loaded) (hrow : w.spassword u = some stored)
    (noted : Py Unit) : (sessionCommit u loaded assigned noted).run w =
      noted.run (w.setRow u (some (loaded.flush assigned stored))) := by
  simp [sessionCommit, h, hrow]

end Commit

namespace Stepwise

/-- A computation that reads no state. -/
def ofExcept {α : Type} (x : Except PyExc α) : Steps α := .done x

variable (conf : Conf) (clock : ℕ → Time)

/-! ### The driver -/

namespace SPassword

/-- `remove_user`. The deleted event is noted where the method is over, or the row goes. -/
def removeUser (userId : String) : Steps Unit := do
  let spasswordRef ← atomic do
    let spasswordRef ← getSpasswordSession userId
    if spasswordRef.isNone then record (.userDeleted userId)
    return spasswordRef
  match spasswordRef with
  | some _ => atomic do
    sessionDelete userId
    record (.userDeleted userId)
  | none => pure ()

/-- The common body of `set_user_creation_time` and `update_user_modification_time`. -/
def stampCreationTime (user : User) : Steps Unit := do
  match ← atomic (getSpasswordSession user.id) with
  | none =>
    let now ← atomic (utcnow clock)
    atomic do
      sessionInsert (SPassword.newRow user now)
      record (.rowCreated user.id now.wall)
  | some spassword =>
    let now ← atomic (utcnow clock)
    commitUpdate user.id spassword { spassword with creationTime := some now, loginAttempts := 0 }
      (record (.rowTouched user.id now.wall))

/-- `set_user_sndfa_code` -/
def setUserSndfaCode (userId newcode : String) : Steps Unit := do
  match ← atomic (getSpasswordSession userId) with
  | some spassword =>
    if "sndfa" ∈ spassword.keys then
      if spassword.sndfa && spassword.sndfaEmail then
        let now ← atomic (utcnow clock)
        commitUpdate userId spassword
          { spassword with sndfaTimeCode := some now, sndfaCode := some newcode }
          (record (.sndfaIssued userId newcode now.wall))
      else pure ()
    else raise .integrityError
  | none => pure ()

/-- `modify_sndfa` -/
def modifySndfa (userId : String) (enable : Bool) : Steps Bool := do
  match ← atomic (getSpasswordSession userId) with
  | some spassword =>
    if spassword.sndfaEmail then
      commitUpdate userId spassword { spassword with sndfa := enable }
        (record (.sndfaModified userId enable))
      return true
    else return false
  | none => return false

/-- `check_sndfa_code` -/
def checkSndfaCode (userId code : String) : Steps Bool := do
  match ← atomic (getSpasswordSession userId) with
  | some spassword =>
    if spassword.sndfa && spassword.sndfaEmail then
      if spassword.sndfaCode = some code then
        let now ← atomic (utcnow clock)
        commitUpdate userId spassword { spassword with sndfaLast := some now }
          (record (.sndfaAccepted userId code now.wall spassword))
        return true
      else return false
    else return false
  | none => return false

/-- `modify_black` -/
def modifyBlack (userId : String) (enable : Bool) : Steps Bool := do
  match ← atomic (getSpasswordSession userId) with
  | some spassword =>
    commitUpdate userId spassword { spassword with extra := [("black", pyStr enable)] }
      (record (.blackModified userId enable))
    return true
  | none => return false

/-- `set_check_email_code` -/
def setCheckEmailCode (origin : CodeOrigin) (userId newcode : String) : Steps Unit := do
  match ← atomic (getSpasswordSession userId) with
  | some spassword =>
    commitUpdate userId spassword
      { spassword with sndfaEmailCode := some newcode, sndfaEmail := false }
      (record (.emailCodeIssued userId newcode origin))
  | none => pure ()

/-- `check_email_code` -/
def checkEmailCode (userId code : String) : Steps Bool := do
  match ← atomic (getSpasswordSession userId) with
  | some spassword =>
    if truthy spassword.sndfaEmailCode then
      let check := decide (spassword.sndfaEmailCode = some code)
      commitUpdate userId spassword { spassword with sndfaEmail := check }
        (record (.emailCodeChecked userId code check))
      return check
    else return false
  | none => return false

end SPassword

/-! ### The manager -/

namespace SPasswordManager

/-- `user_updated_callback` -/
def userUpdatedCallback (userId : String) : Steps Unit := do
  let user ← atomic (getUser userId)
  if conf.enabled then SPassword.stampCreationTime clock user else pure ()

/-- `user_created_callback` -/
def userCreatedCallback (userId : String) : Steps Unit := do
  let user ← atomic (getUser userId)
  if conf.enabled then SPassword.stampCreationTime clock user else pure ()

/-- `user_deleted_callback` -/
def userDeletedCallback (userId : String) : Steps Unit :=
  if conf.enabled then SPassword.removeUser userId else pure ()

/-- `user_ask_check_email_code` -/
def userAskCheckEmailCode (origin : CodeOrigin) (userId : String) (uuid : ShortCode) :
    Steps String := do
  let _ ← atomic (SPassword.alreadyEmailChecked userId)
  SPassword.setCheckEmailCode origin userId uuid.code
  return uuid.code

end SPasswordManager

/-! ### Keystone's users -/

namespace IdentityApi

/-- `create_user` -/
def createUser (userId : String) (userRecord : UserRecord) : Steps Unit := do
  atomic do
    modify fun w => w.setUser userId (some userRecord)
    record (.passwordSet userId)
  SPasswordManager.userCreatedCallback conf clock userId

/-- `update_user` -/
def updateUser (userId : String) (change : UserRecord → UserRecord) : Steps Unit := do
  atomic do
    match (← get).users userId with
    | some old =>
      modify fun w => w.setUser userId (some (change old))
      if (change old).password ≠ old.password then record (.passwordSet userId)
    | none => throw (.userNotFound userId)
  SPasswordManager.userUpdatedCallback conf clock userId

/-- `delete_user` -/
def deleteUser (userId : String) : Steps Unit := do
  atomic (modify fun w => w.setUser userId none)
  SPasswordManager.userDeletedCallback conf userId

end IdentityApi

/-! ### The identity driver -/

namespace Identity

/-- `_check_password`, up to the call of the base method. -/
def checkPassword (userId : String) : Steps Unit := do
  if conf.enabled then
    match ← atomic (getSpasswordSession userId) with
    | some spassword =>
      if ← ofExcept (Identity.checksExpiry conf userId spassword) then
        let now ← atomic (utcnow clock)
        let creationTime ← ofExcept (normalizeDbDate spassword.creationTime)
        if creationTime < now.sub (days conf.pwdExpDays) then
          atomic (record (.expired userId now.wall))
          raise (.spasswordUnauthorized (Identity.expiredMessage spassword.userName))
    | none => pure ()

/-- `super().authenticate`, under `except AssertionError`. -/
def baseAuthenticate (env : AuthEnv) (userId password : String) : Steps (Option User) := do
  match env.base userId password with
  | .answer a => atomic (Identity.BaseAnswer.toPy a)
  | .check a =>
    checkPassword conf clock userId
    atomic (Identity.BaseAnswer.toPy a)

/-- The code to mail. -/
def sndfaCodeToMail (env : AuthEnv) (userId : String) (spassword : SPasswordModel) :
    Steps String := do
  if ← atomic (Identity.insideWindow conf clock spassword.sndfaTimeCode) then
    return spassword.sndfaCode.getD "None"
  else
    let user ← atomic (getUser userId)
    SPassword.setUserSndfaCode clock user.id env.uuid.code
    return env.uuid.code

/-- What a correct password leads to on the row read second. -/
def secondFactor (env : AuthEnv) (userId : String) (spassword : SPasswordModel) :
    Steps (Option String) := do
  if conf.sndfa && ("sndfa" ∈ spassword.keys && spassword.sndfa) then
    if spassword.sndfaEmail then
      if ← atomic (Identity.insideWindow conf clock spassword.sndfaLast) then
        return none
      else
        let code ← sndfaCodeToMail conf clock env userId spassword
        let address ← atomic (Identity.userEmail userId)
        let _ ← atomic (SendMail.sendEmail conf env.server userId
          ⟨address, .sndfaCode code (Identity.sndfaLink conf userId code)⟩)
        return some Identity.expectingMessage
    else return some Identity.notVerifiedMessage
  else return none

/-- The attempt on an existing row, as it was read second. -/
def registeredAttempt (env : AuthEnv) (userId : String) (spassword : SPasswordModel)
    (res : Option User) (currentAttemptTime : DateTime) : Steps AuthResult := do
  let creationTime ← ofExcept (normalizeDbDate spassword.creationTime)
  match res with
  | none =>
    commitUpdate userId spassword
      { spassword with
        loginAttempts := spassword.loginAttempts + 1
        lastLoginAttemptTime := some currentAttemptTime } (pure ())
    raise (.spasswordUnauthorized Identity.invalidMessage)
  | some user =>
    let cleared : SPasswordModel :=
      { spassword with loginAttempts := 0, lastLoginAttemptTime := some currentAttemptTime }
    match ← secondFactor conf clock env userId spassword with
    | some message =>
      commitUpdate userId spassword cleared (pure ())
      raise (.spasswordUnauthorized message)
    | none =>
      let extras := Identity.registeredExtras conf userId spassword creationTime
      commitUpdate userId spassword cleared (record (.token userId extras))
      return ⟨user, some extras⟩

/-- The attempt of a user without a row. -/
def firstAttempt (userId : String) (res : Option User) (currentAttemptTime : DateTime) :
    Steps AuthResult := do
  let user ← atomic (getUser userId)
  let registered : Py Unit := do
    sessionInsert (Identity.firstRow user currentAttemptTime res)
    record (.rowRegistered user.id currentAttemptTime.wall)
  match res with
  | none =>
    atomic registered
    raise (.spasswordUnauthorized Identity.invalidMessage)
  | some user =>
    let extras := Identity.firstExtras conf userId currentAttemptTime
    atomic do
      registered
      record (.token userId extras)
    return ⟨user, some extras⟩

/-- The first part of `authenticate`: the lockout test, then the base driver. -/
def verdict (env : AuthEnv) (userId password : String) : Steps (Option User) := do
  if conf.enabled && !decide (userId ∈ conf.pwdUserBlacklist) then
    let spasswordRef ← atomic (getSpasswordSession userId)
    atomic (Identity.lockoutTest conf clock userId spasswordRef)
  baseAuthenticate conf clock env userId password

/-- The bookkeeping of the attempt, on the row read second. -/
def recordAttempt (env : AuthEnv) (userId : String) (spasswordRef : Option SPasswordModel)
    (res : Option User) (currentAttemptTime : DateTime) : Steps AuthResult :=
  match spasswordRef with
  | some spassword => registeredAttempt conf clock env userId spassword res currentAttemptTime
  | none => firstAttempt conf userId res currentAttemptTime

/-- The second part of `authenticate`, once the base driver has answered. -/
def attempt (env : AuthEnv) (userId : String) (res : Option User) : Steps AuthResult := do
  if conf.enabled then
    let spasswordRef ← atomic (getSpasswordSession userId)
    let currentAttemptTime ← atomic do
      let now ← utcnow clock
      record (.baseVerdict userId now.wall res.isSome)
      return now
    recordAttempt conf clock env userId spasswordRef res currentAttemptTime
  else
    match res with
    | some user => return ⟨user, none⟩
    | none => raise (.spasswordUnauthorized Identity.invalidMessage)

/-- `authenticate` -/
def authenticate (env : AuthEnv) (userId password : String) : Steps AuthResult := do
  let res ← verdict conf clock env userId password
  attempt conf clock env userId res

end Identity

/-! ### The request handlers -/

namespace SPasswordResource

/-- `_recover_password` -/
def recoverPassword (uuid : ShortCode) (server : SmtpServer) (userId : String) :
    Steps HttpResponse := do
  atomic (SPasswordResource.checkSpasswordConfigured conf)
  let userInfo ← atomic (getUser userId)
  let address ← atomic (SPasswordResource.checkUserHasEmailDefined userInfo)
  atomic (SPasswordResource.checkUserHasEmailValidated userInfo)
  let code ← SPasswordManager.userAskCheckEmailCode .recover userId uuid
  let _ ← SPassword.checkEmailCode userId code
  let link := SPasswordResource.codeLink conf "reset_password" userInfo.id code
  let sent ← atomic (SendMail.sendEmail conf server userId ⟨address, .resetPassword code link⟩)
  return SPasswordResource.mailResponse sent "reset password email link sent to "
    "reset password email link was not sent to " address

/-- `identity_api.update_user` with a password, under `except AssertionError`. -/
def updatePassword (userId password : String) (fault : Option PyExc) : Steps Unit :=
  match fault with
  | none => IdentityApi.updateUser conf clock userId fun r => { r with password }
  | some .assertionError => raise (.unauthorized "Invalid username or password")
  | some e => raise e

/-- `_reset_password` -/
def resetPassword (newPassword : NewPassword) (fault : Option PyExc) (server : SmtpServer)
    (userId code : String) : Steps HttpResponse := do
  let userInfo ← atomic (getUser userId)
  if ← SPassword.checkEmailCode userId code then
    updatePassword conf clock userId newPassword.password fault
    atomic (record (.passwordReset userId code newPassword.password))
    match userInfo.email with
    | none => raise (.keyError "email")
    | some address =>
      let sent ← atomic (SendMail.sendEmail conf server userId
        ⟨address, .newPassword newPassword.password⟩)
      let msg := if sent then " New password was sent by email to " ++ address.str
        else " New password was not sent by email to " ++ address.str
      return ⟨.text ("Request with valid code. Password sucessfully reset." ++ msg), 200,
        some "text/html"⟩
  else return ⟨.text "No valid code. Password not reset", 401, some "text/html"⟩

/-- `_modify_sndfa` -/
def modifySndfa (allowed : Bool) (enable : Option Json) (userId : String) :
    Steps HttpResponse := do
  atomic (SPasswordResource.checkSpasswordConfigured conf)
  atomic (SPasswordResource.enforceCall allowed)
  let userInfo ← atomic (getUser userId)
  let _ ← atomic (SPasswordResource.checkUserHasEmailDefined userInfo)
  atomic (SPasswordResource.checkUserHasEmailValidated userInfo)
  match enable.getD (.bool false) with
  | .bool b =>
    let res ← SPassword.modifySndfa userId b
    return ⟨.modified res, 200, some "application/json"⟩
  | _ => raise (.validationError "invalid body format")

/-- `_get_sndfa` -/
def getSndfa (allowed : Bool) (userId : String) : Steps HttpResponse := do
  atomic (SPasswordResource.enforceCall allowed)
  let _ ← atomic (getUser userId)
  let emailChecked ← atomic (SPasswordManager.alreadyUserCheckEmail userId)
  let sndfa ← atomic (SPasswordManager.userGetSndfa userId)
  return ⟨.sndfa emailChecked sndfa, 200, none⟩

/-- `_check_sndfa_code` -/
def checkSndfaCode (userId code : String) : Steps HttpResponse := do
  atomic (SPasswordResource.checkSpasswordConfigured conf)
  let userInfo ← atomic (getUser userId)
  atomic (SPasswordResource.checkUserHasEmailValidated userInfo)
  if ← SPassword.checkSndfaCode clock userId code then
    return ⟨.text "Valid code. Sndfa successfully authorized", 200, some "text/html"⟩
  else return ⟨.text "No valid code. sndfa Unauthorized", 401, some "application/json"⟩

/-- `_ask_for_check_email_code` -/
def askForCheckEmailCode (allowed : Bool) (uuid : ShortCode) (server : SmtpServer)
    (userId : String) : Steps HttpResponse := do
  atomic (SPasswordResource.enforceCall allowed)
  let userInfo ← atomic (getUser userId)
  let address ← atomic (SPasswordResource.checkUserHasEmailDefined userInfo)
  let code ← SPasswordManager.userAskCheckEmailCode .checkemail userId uuid
  let link := SPasswordResource.codeLink conf "checkemail" userInfo.id code
  let sent ← atomic (SendMail.sendEmail conf server userId ⟨address, .checkEmail code link⟩)
  return SPasswordResource.mailResponse sent "check email code sent to "
    "check email code was not sent to " address

/-- `_check_email_code` -/
def checkEmailCode (userId code : String) : Steps HttpResponse := do
  let userInfo ← atomic (getUser userId)
  let _ ← atomic (SPasswordResource.checkUserHasEmailDefined userInfo)
  if ← SPassword.checkEmailCode userId code then
    return ⟨.text "Valid code. Email sucessfully checked", 200, some "text/html"⟩
  else return ⟨.text "No valid code. Email not checked", 401, some "application/json"⟩

/-- `_modify_black` -/
def modifyBlack (allowed : Bool) (enable : Option Json) (userId : String) :
    Steps HttpResponse := do
  atomic (SPasswordResource.checkSpasswordConfigured conf)
  atomic (SPasswordResource.enforceCall allowed)
  let _ ← atomic (getUser userId)
  match enable.getD (.bool false) with
  | .bool b =>
    let res ← SPassword.modifyBlack userId b
    return ⟨.modified res, 200, some "application/json"⟩
  | _ => raise (.validationError "invalid body format")

/-- `_get_black` -/
def getBlack (allowed : Bool) (userId : String) : Steps HttpResponse := do
  atomic (SPasswordResource.enforceCall allowed)
  let _ ← atomic (getUser userId)
  let black ← atomic (SPasswordManager.userGetBlack userId)
  let pwdExpiration ← atomic (SPasswordManager.userGetPwdExpiration conf userId)
  return ⟨.black black pwdExpiration, 200, none⟩

end SPasswordResource

end Stepwise

/-! ### Calls -/

section Calls

variable (conf : Conf) (clock : ℕ → Time)

/-- The handler of a request. -/
def Request.process : Request → Steps HttpResponse
  | .recoverPassword u uuid server => Stepwise.SPasswordResource.recoverPassword conf uuid server u
  | .resetPassword u c newPassword fault server =>
    Stepwise.SPasswordResource.resetPassword conf clock newPassword fault server u c
  | .modifySndfa u enable allowed =>
    Stepwise.SPasswordResource.modifySndfa conf allowed enable u
  | .getSndfa u allowed => Stepwise.SPasswordResource.getSndfa allowed u
  | .checkSndfaCode u c => Stepwise.SPasswordResource.checkSndfaCode conf clock u c
  | .askForCheckEmailCode u uuid server allowed =>
    Stepwise.SPasswordResource.askForCheckEmailCode conf allowed uuid server u
  | .checkEmailCode u c => Stepwise.SPasswordResource.checkEmailCode u c
  | .modifyBlack u enable allowed =>
    Stepwise.SPasswordResource.modifyBlack conf allowed enable u
  | .getBlack u allowed => Stepwise.SPasswordResource.getBlack conf allowed u

/-- A call without a result that is looked at. -/
def unanswered {α : Type} (p : Steps α) : Steps (Option AuthResult) := do
  let _ ← p
  return none

/-- A call in database steps, with the result of a login. -/
def Op.process : Op → Steps (Option AuthResult)
  | .createUser u userRecord =>
    unanswered (Stepwise.IdentityApi.createUser conf clock u userRecord)
  | .updateUser u userRecord =>
    unanswered (Stepwise.IdentityApi.updateUser conf clock u fun old => old.merge userRecord)
  | .deleteUser u => unanswered (Stepwise.IdentityApi.deleteUser conf u)
  | .authenticate u password env => do
    return some (← Stepwise.Identity.authenticate conf clock env u password)
  | .userModifySndfa u enable => unanswered (Stepwise.SPassword.modifySndfa u enable)
  | .userGetSndfa u => unanswered (atomic (SPasswordManager.userGetSndfa u))
  | .userAskCheckEmailCode u uuid =>
    unanswered (Stepwise.SPasswordManager.userAskCheckEmailCode .manager u uuid)
  | .userCheckEmailCode u c => unanswered (Stepwise.SPassword.checkEmailCode u c)
  | .alreadyUserCheckEmail u => unanswered (atomic (SPasswordManager.alreadyUserCheckEmail u))
  | .userCheckSndfaCode u c => unanswered (Stepwise.SPassword.checkSndfaCode clock u c)
  | .userModifyBlack u enable => unanswered (Stepwise.SPassword.modifyBlack u enable)
  | .userGetBlack u => unanswered (atomic (SPasswordManager.userGetBlack u))
  | .userGetPwdExpiration u =>
    unanswered (atomic (SPasswordManager.userGetPwdExpiration conf u))
  | .request r => unanswered (r.process conf clock)

end Calls

/-- A call, and the configuration of the server that answers it. -/
structure Call where
  conf : Conf
  op : Op

/-- The steps of a call. -/
def Call.process (clock : ℕ → Time) (call : Call) : Steps (Option AuthResult) :=
  call.op.process call.conf clock

/-- The database, and the calls in progress. -/
abbrev Deployment := Pool Call PyExc World (Option AuthResult)

/-- One turn of a deployment. -/
def Deployment.turn (clock : ℕ → Time) : Deployment → Turn Call → Deployment :=
  Pool.turn (Call.process clock)

/-- What a deployment reaches that starts on users the extension has never seen. -/
def Deployment.Reachable (clock : ℕ → Time) (d : Deployment) : Prop :=
  ∃ users turns, d = Machine.run (Deployment.turn clock) ⟨.initial users, []⟩ turns

end KeystoneSpassword
