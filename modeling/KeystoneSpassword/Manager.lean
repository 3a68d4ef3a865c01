import KeystoneSpassword.Driver

/-!
# The manager

`class SPasswordManager` of `core.py`: the callbacks that Keystone runs when it creates, updates
or deletes a user, and the calls the request handlers make on `PROVIDERS.spassword_api`.

The identity API itself is Keystone's. `IdentityApi.createUser`, `updateUser` and `deleteUser`
stand for what the extension sees of it: the record changes, and then the notification is
delivered before the call returns.

## Main definitions

* `SPasswordManager.userCreatedCallback`, `userUpdatedCallback`, `userDeletedCallback`
* `SPasswordManager.userAskCheckEmailCode`, `userCheckEmailCode`, `alreadyUserCheckEmail`
* `IdentityApi.createUser`, `updateUser`, `deleteUser`
-/

namespace KeystoneSpassword

variable (conf : Conf) (clock : ℕ → Time)

namespace SPasswordManager

/-- `user_updated_callback` -/
def userUpdatedCallback (userId : String) : Py Unit := do
  let user ← getUser userId
  if conf.enabled then SPassword.updateUserModificationTime clock user

/-- `user_created_callback` -/
def userCreatedCallback (userId : String) : Py Unit := do
  let user ← getUser userId
  if conf.enabled then SPassword.setUserCreationTime clock user

/-- `user_deleted_callback` -/
def userDeletedCallback (userId : String) : Py Unit :=
  if conf.enabled then SPassword.removeUser userId else pure ()

/-- `user_check_sndfa_code` -/
def userCheckSndfaCode (userId code : String) : Py Bool :=
  SPassword.checkSndfaCode clock userId code

/-- `user_modify_sndfa` -/
def userModifySndfa (userId : String) (enable : Bool) : Py Bool :=
  SPassword.modifySndfa userId enable

/-- `user_get_sndfa` -/
def userGetSndfa (userId : String) : Py Bool := SPassword.getSndfa userId

/-- `user_get_black` -/
def userGetBlack (userId : String) : Py Bool := SPassword.getBlack userId

/-- `user_modify_black` -/
def userModifyBlack (userId : String) (enable : Bool) : Py Bool :=
  SPassword.modifyBlack userId enable

/-- `user_get_pwd_expiration` -/
def userGetPwdExpiration (userId : String) : Py (Option DateTime) :=
  SPassword.getPwdExpiration conf userId

/-- `user_ask_check_email_code`: generate a code, store it, return it. Who asked is noted in the
history only. -/
def userAskCheckEmailCode (origin : CodeOrigin) (userId : String) (uuid : ShortCode) :
    Py String := do
  let _ ← SPassword.alreadyEmailChecked userId
  SPassword.setCheckEmailCode origin userId uuid.code
  return uuid.code

/-- `user_check_email_code` -/
def userCheckEmailCode (userId code : String) : Py Bool := SPassword.checkEmailCode userId code

/-- `already_user_check_email` -/
def alreadyUserCheckEmail (userId : String) : Py Bool := SPassword.alreadyEmailChecked userId

end SPasswordManager

namespace IdentityApi

/-- `create_user`: store the record, then deliver the created event. -/
def createUser (userId : String) (userRecord : UserRecord) : Py Unit := do
  modify fun w => w.setUser userId (some userRecord)
  record (.passwordSet userId)
  SPasswordManager.userCreatedCallback conf clock userId

/-- `update_user`: change the record of an existing user, then deliver the updated event. -/
def updateUser (userId : String) (change : UserRecord → UserRecord) : Py Unit := do
  match (← get).users userId with
  | some old =>
    modify fun w => w.setUser userId (some (change old))
    if (change old).password ≠ old.password then record (.passwordSet userId)
    SPasswordManager.userUpdatedCallback conf clock userId
  | none => throw (.userNotFound userId)

/-- `delete_user`: remove the record, then deliver the deleted event. -/
def deleteUser (userId : String) : Py Unit := do
  modify fun w => w.setUser userId none
  SPasswordManager.userDeletedCallback conf userId

end IdentityApi

end KeystoneSpassword
