import KeystoneSpassword.Mailer
import KeystoneSpassword.Manager
import Mathlib.Data.List.Infix

/-!
# The identity driver

`class Identity(Identity, SendMail)` of `backends/sql.py`: `_check_password` and `authenticate`.

## The base driver

Keystone's own `Identity` driver is outside the extension. For one call it does one of two
things, which is what `BaseCall` says: it answers by itself (the user does not exist, the account
is locked), or it asks `self._check_password`, which is the override here, and answers once the
override has let the password through. The answer is a user, an `AssertionError`, or some other
exception. `AuthEnv.base` gives this for every user id and password.

## Order of effects

`authenticate` reads the row twice, in two sessions, and commits at the end. Between the second
read and the commit it may call `set_user_sndfa_code`, which commits on the same row, and it may
send a mail. The final commit writes the two columns it assigned and no other, on the row as it
is stored at that moment.

## Main definitions

* `Identity.blockedAt`, `Identity.lockoutTest` — the refusal before the password is looked at
* `Identity.checkPassword` — the override, up to the call of the base method
* `Identity.secondFactor` — what a correct password leads to on a row with the second factor on
* `Identity.verdict`, `Identity.attempt`, `Identity.authenticate` — before and after the verdict
-/

namespace KeystoneSpassword

/-- How a call of the base driver ends. -/
inductive BaseAnswer
  /-- the user dict -/
  | user (user : User)
  /-- wrong password, or no such user -/
  | assertionError
  /-- account locked, user disabled, and the like -/
  | raised (what : String)
  deriving DecidableEq, Repr

/-- What the base driver does with one call. -/
inductive BaseCall
  /-- it answers without asking `_check_password` -/
  | answer (a : BaseAnswer)
  /-- it asks `_check_password`, and answers unless that raises -/
  | check (a : BaseAnswer)
  deriving DecidableEq, Repr

/-- What the base driver answers when nothing is in the way. -/
def BaseCall.own : BaseCall → BaseAnswer
  | .answer a | .check a => a

/-- What one call of `authenticate` finds outside the extension. -/
structure AuthEnv where
  base : String → String → BaseCall
  uuid : ShortCode
  server : SmtpServer

namespace Identity

variable (conf : Conf) (clock : ℕ → Time)

/-! ### The lockout test -/

/-- The message of the lockout refusal. -/
def blockedMessage (userName : Option String) : String :=
  "Password temporarily blocked for user " ++ userName.getD "None" ++
    " due to reach max number of tries. Contact with your  admin"

/-- The message of the expiry refusal. -/
def expiredMessage (userName : Option String) : String :=
  "Password expired for user " ++ userName.getD "None" ++ ". Contact with your admin"

/-- The message of a wrong password. -/
def invalidMessage : String := "Invalid username or password"

/-- The message of a login that waits for the second factor. -/
def expectingMessage : String :=
  "Expecting Second Factor Authentication, email was sent. " ++
    "Please check it and click in provided link."

/-- The message of a login whose second factor has no verified email. -/
def notVerifiedMessage : String :=
  "Email not verificated to perform Second Factor Authentication. " ++
    "Please contact with your admin to solve it."

/-- The last attempt is inside the blocking time at `now`. -/
def blockedAt (last now : DateTime) : Bool := decide (now.sub conf.blockTime < last)

/-- The lockout test on the row read first. Refuses, or lets the call through. -/
def lockoutTest (userId : String) (spasswordRef : Option SPasswordModel) : Py Unit :=
  match spasswordRef with
  | some spassword => do
    if conf.pwdMaxTries < spassword.loginAttempts then
      let last ← ofExcept (normalizeDbDate spassword.lastLoginAttemptTime)
      let now ← utcnow clock
      if blockedAt conf last now then
        record (.blocked userId now.wall)
        throw (.spasswordUnauthorized (blockedMessage spassword.userName))
  | none => pure ()

/-! ### The password check -/

/-- The extension checks the expiry of this user's password: the row exists, and neither the
configured list nor the row's own flag exempts the user. -/
def checksExpiry (userId : String) (spassword : SPasswordModel) : Except PyExc Bool :=
  if userId ∈ conf.pwdUserBlacklist then .ok false
  else
    match (if "extra" ∈ spassword.keys then spassword.extra else []).lookup "black" with
    | some black => (pyEval black).map not
    | none => .ok true

/-- `_check_password`, up to the call of the base method. -/
def checkPassword (userId : String) : Py Unit := do
  if conf.enabled then
    match ← getSpasswordSession userId with
    | some spassword =>
      if ← ofExcept (checksExpiry conf userId spassword) then
        let now ← utcnow clock
        let creationTime ← ofExcept (normalizeDbDate spassword.creationTime)
        if creationTime < now.sub (days conf.pwdExpDays) then
          record (.expired userId now.wall)
          throw (.spasswordUnauthorized (expiredMessage spassword.userName))
    | none => pure ()

/-- The base driver's answer, as a program. -/
def BaseAnswer.toPy : BaseAnswer → Py (Option User)
  | .user user => pure (some user)
  | .assertionError => pure none
  | .raised what => throw (.other what)

/-- `super().authenticate`, under `except AssertionError`: the user, or `none` for `False`. -/
def baseAuthenticate (env : AuthEnv) (userId password : String) : Py (Option User) := do
  match env.base userId password with
  | .answer a => BaseAnswer.toPy a
  | .check a =>
    checkPassword conf clock userId
    BaseAnswer.toPy a

/-! ### The second factor -/

/-- The link in the mail of a second-factor code. -/
def sndfaLink (userId code : String) : String :=
  (if "http".toList <:+: conf.sndfaEndpoint.toList then "" else "http://") ++
    (if "/idm".toList <:+: conf.sndfaEndpoint.toList then
      conf.sndfaEndpoint ++ "/users/" ++ userId ++ "/sndfa/" ++ code
    else conf.sndfaEndpoint ++ "/v3/users/" ++ userId ++ "/sndfa/" ++ code)

/-- A stored date that is set and inside the second-factor window. Without a date the clock is
not read. -/
def insideWindow (stored : Option DateTime) : Py Bool :=
  match stored with
  | some _ => do
    let date ← ofExcept (normalizeDbDate stored)
    let now ← utcnow clock
    return decide (now.sub conf.window < date)
  | none => pure false

/-- The code to mail: the stored one while it is fresh, otherwise a new one, stored by
`set_user_sndfa_code`. -/
def sndfaCodeToMail (env : AuthEnv) (userId : String) (spassword : SPasswordModel) :
    Py String := do
  if ← insideWindow conf clock spassword.sndfaTimeCode then
    return spassword.sndfaCode.getD "None"
  else
    let user ← getUser userId
    SPassword.setUserSndfaCode clock user.id env.uuid.code
    return env.uuid.code

/-- `self.get_user(user_id)['email']` -/
def userEmail (userId : String) : Py Address := do
  match (← getUser userId).email with
  | some email => return email
  | none => throw (.keyError "email")

/-- What a correct password leads to on the row read second: `none` when the login goes through,
and the message of the refusal otherwise. -/
def secondFactor (env : AuthEnv) (userId : String) (spassword : SPasswordModel) :
    Py (Option String) := do
  if conf.sndfa && ("sndfa" ∈ spassword.keys && spassword.sndfa) then
    if spassword.sndfaEmail then
      if ← insideWindow conf clock spassword.sndfaLast then
        return none
      else
        let code ← sndfaCodeToMail conf clock env userId spassword
        let address ← userEmail userId
        let _ ← SendMail.sendEmail conf env.server userId
          ⟨address, .sndfaCode code (sndfaLink conf userId code)⟩
        return some expectingMessage
    else return some notVerifiedMessage
  else return none

/-! ### The attempt -/

/-- The `extras` of a login on an existing row. -/
def registeredExtras (userId : String) (spassword : SPasswordModel) (creationTime : DateTime) :
    Extras where
  passwordCreationTime := creationTime
  passwordExpirationTime := creationTime.add (days conf.pwdExpDays)
  pwdUserInBlacklist := decide (userId ∈ conf.pwdUserBlacklist)
  lastLoginAttemptTime := some spassword.lastLoginAttemptTime
  previousLoginAttempts := spassword.loginAttempts
  sndfa := if conf.sndfa && ("sndfa" ∈ spassword.keys && spassword.sndfa) then
      some spassword.sndfa else none
  sndfaEmail := if conf.sndfa && "sndfa_email" ∈ spassword.keys then
      some spassword.sndfaEmail else none

/-- The attempt on an existing row, as it was read second. -/
def registeredAttempt (env : AuthEnv) (userId : String) (spassword : SPasswordModel)
    (res : Option User) (currentAttemptTime : DateTime) : Py AuthResult := do
  let creationTime ← ofExcept (normalizeDbDate spassword.creationTime)
  match res with
  | none =>
    sessionUpdate userId fun r =>
      { r with
        loginAttempts := spassword.loginAttempts + 1
        lastLoginAttemptTime := some currentAttemptTime }
    throw (.spasswordUnauthorized invalidMessage)
  | some user =>
    let refusal ← secondFactor conf clock env userId spassword
    sessionUpdate userId fun r =>
      { r with loginAttempts := 0, lastLoginAttemptTime := some currentAttemptTime }
    match refusal with
    | some message => throw (.spasswordUnauthorized message)
    | none =>
      let extras := registeredExtras conf userId spassword creationTime
      record (.token userId extras)
      return ⟨user, some extras⟩

/-- The row of a user first seen at login. -/
def firstRow (user : User) (currentAttemptTime : DateTime) (res : Option User) :
    SPasswordModel where
  userId := user.id
  userName := some user.name
  domainId := some user.domainId
  creationTime := some currentAttemptTime
  lastLoginAttemptTime := some currentAttemptTime
  sndfa := false
  sndfaLast := none
  sndfaCode := none
  sndfaTimeCode := none
  sndfaEmail := false
  sndfaEmailCode := none
  loginAttempts := if res.isSome then 0 else 1

/-- The `extras` of a login that registers the user. -/
def firstExtras (userId : String) (currentAttemptTime : DateTime) : Extras where
  passwordCreationTime := currentAttemptTime
  passwordExpirationTime := currentAttemptTime.add (days conf.pwdExpDays)
  pwdUserInBlacklist := decide (userId ∈ conf.pwdUserBlacklist)
  lastLoginAttemptTime := none
  previousLoginAttempts := 0
  sndfa := some false
  sndfaEmail := some false

/-- The attempt of a user without a row. -/
def firstAttempt (userId : String) (res : Option User) (currentAttemptTime : DateTime) :
    Py AuthResult := do
  let user ← getUser userId
  sessionInsert (firstRow user currentAttemptTime res)
  record (.rowRegistered user.id currentAttemptTime.wall)
  match res with
  | none => throw (.spasswordUnauthorized invalidMessage)
  | some user =>
    let extras := firstExtras conf userId currentAttemptTime
    record (.token userId extras)
    return ⟨user, some extras⟩

/-- The first part of `authenticate`: the lockout test, then the base driver. -/
def verdict (env : AuthEnv) (userId password : String) : Py (Option User) := do
  if conf.enabled && !decide (userId ∈ conf.pwdUserBlacklist) then
    lockoutTest conf clock userId (← getSpasswordSession userId)
  baseAuthenticate conf clock env userId password

/-- The bookkeeping of the attempt, on the row read second. -/
def recordAttempt (env : AuthEnv) (userId : String) (spasswordRef : Option SPasswordModel)
    (res : Option User) (currentAttemptTime : DateTime) : Py AuthResult :=
  match spasswordRef with
  | some spassword => registeredAttempt conf clock env userId spassword res currentAttemptTime
  | none => firstAttempt conf userId res currentAttemptTime

/-- The second part of `authenticate`, once the base driver has answered. -/
def attempt (env : AuthEnv) (userId : String) (res : Option User) : Py AuthResult := do
  if conf.enabled then
    let spasswordRef ← getSpasswordSession userId
    let currentAttemptTime ← utcnow clock
    record (.baseVerdict userId currentAttemptTime.wall res.isSome)
    recordAttempt conf clock env userId spasswordRef res currentAttemptTime
  else
    match res with
    | some user => return ⟨user, none⟩
    | none => throw (.spasswordUnauthorized invalidMessage)

/-- `authenticate` -/
def authenticate (env : AuthEnv) (userId password : String) : Py AuthResult := do
  let res ← verdict conf clock env userId password
  attempt conf clock env userId res

end Identity

end KeystoneSpassword
