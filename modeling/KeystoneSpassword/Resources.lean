import KeystoneSpassword.Mailer
import KeystoneSpassword.Manager

/-!
# The request handlers

The resources of `spassword.py` that end in the `spassword` table: recover and reset of a
password, the second-factor routes, the email verification routes and the expiry blacklist.

A handler either returns a response or raises, and Keystone answers an exception with its own
status. `answerStatus` is the status the client sees in both cases.

The policy enforcer is Keystone's. What it decides for one request is the argument `allowed`. The
routes that need no token do not ask it.

## Main definitions

* `SPasswordResource.recoverPassword`, `resetPassword`
* `SPasswordResource.modifySndfa`, `getSndfa`, `checkSndfaCode`
* `SPasswordResource.askForCheckEmailCode`, `checkEmailCode`
* `SPasswordResource.modifyBlack`, `getBlack`
* `answerStatus`
-/

namespace KeystoneSpassword

/-- A JSON value. A number is kept as its literal. -/
inductive Json
  | null
  | bool (b : Bool)
  | number (literal : String)
  | string (s : String)
  | array (elements : List Json)
  | object (fields : List (String × Json))

/-- The body of a response. -/
inductive ResponseBody
  | text (message : String)
  /-- `{"modified": …}` -/
  | modified (res : Bool)
  /-- `{"sndfa_email": …, "sndfa": …}` -/
  | sndfa (emailChecked sndfa : Bool)
  /-- `{"black": …, "pwd_expiration_time": …}`, where `none` is the `0` of a missing row -/
  | black (black : Bool) (pwdExpiration : Option DateTime)
  deriving DecidableEq, Repr

/-- A response. `contentType` is `none` where the handler leaves the header to the framework. -/
structure HttpResponse where
  body : ResponseBody
  status : ℕ
  contentType : Option String
  deriving DecidableEq, Repr

/-- The status the client sees. -/
def answerStatus : EStateM.Result PyExc World HttpResponse → ℕ
  | .ok response _ => response.status
  | .error e _ => e.status

/-- `str(uuid.uuid4())[:12]` -/
structure NewPassword where
  password : String
  length_eq : password.length = 12

namespace SPasswordResource

variable (conf : Conf) (clock : ℕ → Time)

/-! ### Checks the handlers share -/

/-- `_check_spassword_configured` -/
def checkSpasswordConfigured : Py Unit :=
  if !conf.enabled || !conf.sndfa then throw .notConfigured else pure ()

/-- `_check_user_has_email_defined`: the key is there, whatever its value. Returns the value, which
the source reads from the same dict afterwards. -/
def checkUserHasEmailDefined (userInfo : User) : Py Address :=
  match userInfo.email with
  | some email => pure email
  | none => throw (.unauthorized
      ("User " ++ userInfo.id ++ " " ++ userInfo.name ++ " has no email defined"))

/-- `_check_user_has_email_validated` -/
def checkUserHasEmailValidated (userInfo : User) : Py Unit := do
  if ← SPasswordManager.alreadyUserCheckEmail userInfo.id then pure ()
  else throw (.unauthorized
    ("User " ++ userInfo.id ++ " " ++ userInfo.name ++ " has no email verified"))

/-- `ENFORCER.enforce_call` -/
def enforceCall (allowed : Bool) : Py Unit := if allowed then pure () else throw .forbidden

/-- The link of a mailed code, with the name of its route. -/
def codeLink (route userId code : String) : String :=
  (if "http".toList <+: conf.sndfaEndpoint.toList then "" else "http://") ++
    conf.sndfaEndpoint ++ "/v3/users/" ++ userId ++ "/" ++ route ++ "/" ++ code

/-- The response after `send_email`: `sent` or `notSent`, followed by the address. -/
def mailResponse (sent : Bool) (sentText notSentText : String) (address : Address) :
    HttpResponse :=
  if sent then ⟨.text (sentText ++ address.str), 200, some "application/json"⟩
  else ⟨.text (notSentText ++ address.str), 400, some "application/json"⟩

/-! ### Recover and reset a password -/

/-- `_recover_password` -/
def recoverPassword (uuid : ShortCode) (server : SmtpServer) (userId : String) :
    Py HttpResponse := do
  checkSpasswordConfigured conf
  let userInfo ← getUser userId
  let address ← checkUserHasEmailDefined userInfo
  checkUserHasEmailValidated userInfo
  let code ← SPasswordManager.userAskCheckEmailCode .recover userId uuid
  let _ ← SPasswordManager.userCheckEmailCode userId code
  let link := codeLink conf "reset_password" userInfo.id code
  let sent ← SendMail.sendEmail conf server userId ⟨address, .resetPassword code link⟩
  return mailResponse sent "reset password email link sent to "
    "reset password email link was not sent to " address

/-- `identity_api.update_user` with a password, under `except AssertionError`. The fault is what
Keystone raises before it stores anything. -/
def updatePassword (userId password : String) (fault : Option PyExc) : Py Unit :=
  match fault with
  | none => IdentityApi.updateUser conf clock userId fun r => { r with password }
  | some .assertionError => throw (.unauthorized "Invalid username or password")
  | some e => throw e

/-- `_reset_password` -/
def resetPassword (newPassword : NewPassword) (fault : Option PyExc) (server : SmtpServer)
    (userId code : String) : Py HttpResponse := do
  let userInfo ← getUser userId
  if ← SPasswordManager.userCheckEmailCode userId code then
    updatePassword conf clock userId newPassword.password fault
    record (.passwordReset userId code newPassword.password)
    match userInfo.email with
    | none => throw (.keyError "email")
    | some address =>
      let sent ← SendMail.sendEmail conf server userId
        ⟨address, .newPassword newPassword.password⟩
      let msg := if sent then " New password was sent by email to " ++ address.str
        else " New password was not sent by email to " ++ address.str
      return ⟨.text ("Request with valid code. Password sucessfully reset." ++ msg), 200,
        some "text/html"⟩
  else return ⟨.text "No valid code. Password not reset", 401, some "text/html"⟩

/-! ### Second factor -/

/-- `_modify_sndfa`. A missing `enable` is `False`. -/
def modifySndfa (allowed : Bool) (enable : Option Json) (userId : String) :
    Py HttpResponse := do
  checkSpasswordConfigured conf
  enforceCall allowed
  let userInfo ← getUser userId
  let _ ← checkUserHasEmailDefined userInfo
  checkUserHasEmailValidated userInfo
  match enable.getD (.bool false) with
  | .bool b =>
    let res ← SPasswordManager.userModifySndfa userId b
    return ⟨.modified res, 200, some "application/json"⟩
  | _ => throw (.validationError "invalid body format")

/-- `_get_sndfa` -/
def getSndfa (allowed : Bool) (userId : String) : Py HttpResponse := do
  enforceCall allowed
  let _ ← getUser userId
  let emailChecked ← SPasswordManager.alreadyUserCheckEmail userId
  let sndfa ← SPasswordManager.userGetSndfa userId
  return ⟨.sndfa emailChecked sndfa, 200, none⟩

/-- `_check_sndfa_code` -/
def checkSndfaCode (userId code : String) : Py HttpResponse := do
  checkSpasswordConfigured conf
  let userInfo ← getUser userId
  checkUserHasEmailValidated userInfo
  if ← SPasswordManager.userCheckSndfaCode clock userId code then
    return ⟨.text "Valid code. Sndfa successfully authorized", 200, some "text/html"⟩
  else return ⟨.text "No valid code. sndfa Unauthorized", 401, some "application/json"⟩

/-! ### Email verification -/

/-- `_ask_for_check_email_code` -/
def askForCheckEmailCode (allowed : Bool) (uuid : ShortCode) (server : SmtpServer)
    (userId : String) : Py HttpResponse := do
  enforceCall allowed
  let userInfo ← getUser userId
  let address ← checkUserHasEmailDefined userInfo
  let code ← SPasswordManager.userAskCheckEmailCode .checkemail userId uuid
  let link := codeLink conf "checkemail" userInfo.id code
  let sent ← SendMail.sendEmail conf server userId ⟨address, .checkEmail code link⟩
  return mailResponse sent "check email code sent to " "check email code was not sent to " address

/-- `_check_email_code` -/
def checkEmailCode (userId code : String) : Py HttpResponse := do
  let userInfo ← getUser userId
  let _ ← checkUserHasEmailDefined userInfo
  if ← SPasswordManager.userCheckEmailCode userId code then
    return ⟨.text "Valid code. Email sucessfully checked", 200, some "text/html"⟩
  else return ⟨.text "No valid code. Email not checked", 401, some "application/json"⟩

/-! ### Expiry blacklist -/

/-- `_modify_black`. A missing `enable` is `False`. -/
def modifyBlack (allowed : Bool) (enable : Option Json) (userId : String) :
    Py HttpResponse := do
  checkSpasswordConfigured conf
  enforceCall allowed
  let _ ← getUser userId
  match enable.getD (.bool false) with
  | .bool b =>
    let res ← SPasswordManager.userModifyBlack userId b
    return ⟨.modified res, 200, some "application/json"⟩
  | _ => throw (.validationError "invalid body format")

/-- `_get_black` -/
def getBlack (allowed : Bool) (userId : String) : Py HttpResponse := do
  enforceCall allowed
  let _ ← getUser userId
  let black ← SPasswordManager.userGetBlack userId
  let pwdExpiration ← SPasswordManager.userGetPwdExpiration conf userId
  return ⟨.black black pwdExpiration, 200, none⟩

end SPasswordResource

end KeystoneSpassword
