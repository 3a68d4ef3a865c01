import KeystoneSpassword.Model

/-!
# The driver

`class SPassword(Driver)` of `backends/sql.py`: the methods that read and write the `spassword`
table for the manager and for `authenticate`.

Each method reads the row in one session and commits at most one statement on it. A method that
only warns in the log file does nothing here. The branches behind `if 'sndfa' in spassword` and
`if 'sndfa_email' in spassword`, which would insert a row without a `user_id`, are kept: they
raise `IntegrityError`. `SPasswordModel.mem_keys` says that no row ever takes them.

## Main definitions

* `SPassword.setUserCreationTime`, `updateUserModificationTime`, `removeUser` — user events
* `SPassword.setUserSndfaCode`, `checkSndfaCode`, `modifySndfa` — second factor
* `SPassword.setCheckEmailCode`, `checkEmailCode`, `alreadyEmailChecked` — email verification
* `SPassword.modifyBlack`, `getBlack`, `getPwdExpiration` — expiry blacklist
-/

namespace KeystoneSpassword

/-- `eval` on the string stored under `black`. Anything but a boolean literal is outside the
model: it raises. -/
def pyEval (s : String) : Except PyExc Bool :=
  if s = "True" then .ok true
  else if s = "False" then .ok false
  else .error (.other "eval")

/-- `str(enable)` of a boolean. -/
def pyStr : Bool → String
  | true => "True"
  | false => "False"

@[simp] theorem pyEval_pyStr (b : Bool) : pyEval (pyStr b) = .ok b := by
  cases b <;> rfl

namespace SPassword

variable (conf : Conf) (clock : ℕ → Time)

/-! ### User events -/

/-- `remove_user` -/
def removeUser (userId : String) : Py Unit := do
  match ← getSpasswordSession userId with
  | some _ => sessionDelete userId
  | none => pure ()
  record (.userDeleted userId)

/-- The row that a created or updated event inserts. `login_attempts` is left to its column
default by one of the two callers and set to the same value by the other. -/
def newRow (user : User) (now : DateTime) : SPasswordModel where
  userId := user.id
  userName := some user.name
  domainId := some user.domainId
  creationTime := some now
  sndfa := false
  sndfaLast := none
  sndfaCode := none
  sndfaTimeCode := none
  sndfaEmail := false
  sndfaEmailCode := none

/-- The common body of `set_user_creation_time` and `update_user_modification_time`. -/
def stampCreationTime (user : User) : Py Unit := do
  match ← getSpasswordSession user.id with
  | none =>
    let now ← utcnow clock
    sessionInsert (newRow user now)
    record (.rowCreated user.id now.wall)
  | some _ =>
    let now ← utcnow clock
    sessionUpdate user.id fun r => { r with creationTime := some now, loginAttempts := 0 }
    record (.rowTouched user.id now.wall)

/-- `set_user_creation_time` -/
def setUserCreationTime (user : User) : Py Unit := stampCreationTime clock user

/-- `update_user_modification_time` -/
def updateUserModificationTime (user : User) : Py Unit := stampCreationTime clock user

/-! ### Second factor -/

/-- `set_user_sndfa_code` -/
def setUserSndfaCode (userId newcode : String) : Py Unit := do
  match ← getSpasswordSession userId with
  | some spassword =>
    if "sndfa" ∈ spassword.keys then
      if spassword.sndfa && spassword.sndfaEmail then
        let now ← utcnow clock
        sessionUpdate userId fun r =>
          { r with sndfaTimeCode := some now, sndfaCode := some newcode }
        record (.sndfaIssued userId newcode now.wall)
      else pure ()
    else throw .integrityError
  | none => pure ()

/-- `modify_sndfa` -/
def modifySndfa (userId : String) (enable : Bool) : Py Bool := do
  match ← getSpasswordSession userId with
  | some spassword =>
    if spassword.sndfaEmail then
      sessionUpdate userId fun r => { r with sndfa := enable }
      record (.sndfaModified userId enable)
      return true
    else return false
  | none => return false

/-- `get_sndfa` -/
def getSndfa (userId : String) : Py Bool := do
  match ← getSpasswordSession userId with
  | some spassword => return if "sndfa" ∈ spassword.keys then spassword.sndfa else false
  | none => return false

/-- `check_sndfa_code` -/
def checkSndfaCode (userId code : String) : Py Bool := do
  match ← getSpasswordSession userId with
  | some spassword =>
    if spassword.sndfa && spassword.sndfaEmail then
      if spassword.sndfaCode = some code then
        let now ← utcnow clock
        sessionUpdate userId fun r => { r with sndfaLast := some now }
        record (.sndfaAccepted userId code now.wall spassword)
        return true
      else return false
    else return false
  | none => return false

/-- `already_sndfa_signed` -/
def alreadySndfaSigned (userId : String) : Py Bool := do
  match ← getSpasswordSession userId with
  | some spassword =>
    if spassword.sndfa && spassword.sndfaEmail then
      match spassword.sndfaLast with
      | some last =>
        let last ← ofExcept (normalizeDbDate (some last))
        let now ← utcnow clock
        return decide (last < now.add conf.window)
      | none => return false
    else return false
  | none => return false

/-! ### Expiry blacklist -/

/-- `get_black` -/
def getBlack (userId : String) : Py Bool := do
  match ← getSpasswordSession userId with
  | some spassword =>
    if "extra" ∈ spassword.keys then
      match spassword.extra.lookup "black" with
      | some black => ofExcept (pyEval black)
      | none => return false
    else return false
  | none => return false

/-- `get_pwd_expiration`; the `0` it returns without a row is `none`. -/
def getPwdExpiration (userId : String) : Py (Option DateTime) := do
  match ← getSpasswordSession userId with
  | some spassword =>
    let creationTime ← ofExcept (normalizeDbDate spassword.creationTime)
    return some (creationTime.add (days conf.pwdExpDays))
  | none => return none

/-- `modify_black` -/
def modifyBlack (userId : String) (enable : Bool) : Py Bool := do
  match ← getSpasswordSession userId with
  | some _ =>
    sessionUpdate userId fun r => { r with extra := [("black", pyStr enable)] }
    record (.blackModified userId enable)
    return true
  | none => return false

/-! ### Email verification -/

/-- `set_check_email_code` -/
def setCheckEmailCode (origin : CodeOrigin) (userId newcode : String) : Py Unit := do
  match ← getSpasswordSession userId with
  | some _ =>
    sessionUpdate userId fun r => { r with sndfaEmailCode := some newcode, sndfaEmail := false }
    record (.emailCodeIssued userId newcode origin)
  | none => pure ()

/-- `check_email_code`. The outcome of the comparison is written to the row either way. -/
def checkEmailCode (userId code : String) : Py Bool := do
  match ← getSpasswordSession userId with
  | some spassword =>
    if truthy spassword.sndfaEmailCode then
      let check := decide (spassword.sndfaEmailCode = some code)
      sessionUpdate userId fun r => { r with sndfaEmail := check }
      record (.emailCodeChecked userId code check)
      return check
    else return false
  | none => return false

/-- `already_email_checked` -/
def alreadyEmailChecked (userId : String) : Py Bool := do
  match ← getSpasswordSession userId with
  | some spassword =>
    if "sndfa_email" ∈ spassword.keys then return spassword.sndfaEmail
    else throw .integrityError
  | none => return false

/-! ### What the checks do

One equation for each row they can find. -/

section Run

variable {clock : ℕ → Time} {w : World} {u : String} {row : SPasswordModel} {code : String}

theorem run_checkEmailCode_of_set (hrow : w.spassword u = some row)
    (hset : truthy row.sndfaEmailCode = true) :
    (checkEmailCode u code).run w = .ok (decide (row.sndfaEmailCode = some code))
      ((w.setRow u (some { row with sndfaEmail := decide (row.sndfaEmailCode = some code) })).note
        (.emailCodeChecked u code (decide (row.sndfaEmailCode = some code)))) := by
  simp [checkEmailCode, hrow, hset]

/-- Without a stored code nothing is compared, and nothing is written. -/
theorem run_checkEmailCode_of_unset (h : ∀ row, w.spassword u = some row →
    truthy row.sndfaEmailCode = false) : (checkEmailCode u code).run w = .ok false w := by
  cases hrow : w.spassword u with
  | none => simp [checkEmailCode, hrow]
  | some row => simp [checkEmailCode, hrow, h row hrow]

/-- The code is the one stored for the user's email. -/
def EmailCodeStored (w : World) (u code : String) : Prop :=
  ∃ row, w.spassword u = some row ∧ row.sndfaEmailCode = some code ∧ code ≠ ""

theorem run_checkEmailCode_of_match (hrow : w.spassword u = some row)
    (hcode : row.sndfaEmailCode = some code) (hne : code ≠ "") :
    (checkEmailCode u code).run w = .ok true
      ((w.setRow u (some { row with sndfaEmail := true })).note
        (.emailCodeChecked u code true)) := by
  have hset : truthy row.sndfaEmailCode = true := by simp [hcode, truthy, hne]
  simp [run_checkEmailCode_of_set hrow hset, hcode]

/-- Any other code is refused. If a code is stored, the email becomes unverified. -/
theorem run_checkEmailCode_of_mismatch (h : ¬ EmailCodeStored w u code) :
    (checkEmailCode u code).run w = .ok false w ∨
      ∃ row, w.spassword u = some row ∧ truthy row.sndfaEmailCode = true ∧
        (checkEmailCode u code).run w = .ok false
          ((w.setRow u (some { row with sndfaEmail := false })).note
            (.emailCodeChecked u code false)) := by
  by_cases hset : ∃ row, w.spassword u = some row ∧ truthy row.sndfaEmailCode = true
  · obtain ⟨row, hrow, hset⟩ := hset
    have hcode : row.sndfaEmailCode ≠ some code := by
      intro hcode
      refine h ⟨row, hrow, hcode, ?_⟩
      rintro rfl
      simp [hcode, truthy] at hset
    exact .inr ⟨row, hrow, hset, by simp [run_checkEmailCode_of_set hrow hset, hcode]⟩
  · exact .inl (run_checkEmailCode_of_unset fun row hrow =>
      Bool.eq_false_iff.mpr fun h' => hset ⟨row, hrow, h'⟩)

/-- The row accepts this second-factor code. -/
def Acceptable (row : SPasswordModel) (code : String) : Prop :=
  row.sndfa = true ∧ row.sndfaEmail = true ∧ row.sndfaCode = some code

theorem run_checkSndfaCode_of_match (hrow : w.spassword u = some row)
    (h : Acceptable row code) : (checkSndfaCode clock u code).run w = .ok true
      ((w.tick.setRow u (some { row with sndfaLast := some (.utc (clock w.ticks)) })).note
        (.sndfaAccepted u code (clock w.ticks) row)) := by
  simp [checkSndfaCode, hrow, h.1, h.2.1, h.2.2]

/-- A second-factor code that is not accepted is refused, and nothing is written. -/
theorem run_checkSndfaCode_of_mismatch
    (h : ∀ row, w.spassword u = some row → ¬ Acceptable row code) :
    (checkSndfaCode clock u code).run w = .ok false w := by
  cases hrow : w.spassword u with
  | none => simp [checkSndfaCode, hrow]
  | some row =>
    have hmismatch := h row hrow
    by_cases hon : row.sndfa = true ∧ row.sndfaEmail = true
    · have hcode : row.sndfaCode ≠ some code := fun hcode => hmismatch ⟨hon.1, hon.2, hcode⟩
      simp [checkSndfaCode, hrow, hon, hcode]
    · simp [checkSndfaCode, hrow, hon]

theorem run_alreadyEmailChecked (w : World) (u : String) :
    (alreadyEmailChecked u).run w =
      .ok ((w.spassword u).elim false SPasswordModel.sndfaEmail) w := by
  cases hrow : w.spassword u <;> simp [alreadyEmailChecked, hrow]

end Run

end SPassword

end KeystoneSpassword
