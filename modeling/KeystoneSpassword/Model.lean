import KeystoneSpassword.Lib.Programs
import Mathlib.Logic.Function.Basic
import Mathlib.Data.Int.Notation
import Mathlib.Data.Nat.Notation

/-!
# The data of the extension

The row of the `spassword` table, Keystone's user records, the configuration group, the mails,
and the state the programs run over.

## Programs

Every method of the source that touches the database, the clock or the mail server is a program
`Py α := EStateM PyExc World α`. An exception leaves the state as it is at that moment: a commit
made before the exception stays, a commit that would have come after it never happens.

## Clock

`datetime.datetime.utcnow()` is the program `utcnow clock`, which returns the next reading of
`clock : ℕ → Time` and counts it in `World.ticks`. A call of `authenticate` reads the clock up to
six times and each reading is its own. A non-decreasing clock is `Monotone clock`.

## History

`World.log` is a history variable: the programs append to it what happened, and no program reads
it. Newest first. Every statement about a run is a statement about this list.

## Dates

A stored date is a `DateTime`, a wall-clock reading with an optional UTC offset, because
`normalize_db_date` distinguishes the two. The code itself only stores naive values.
-/

namespace KeystoneSpassword

/-! ### Dates -/

/-- An instant, or a difference of instants, in microseconds. -/
abbrev Time := ℤ

/-- A Python `datetime`: the wall-clock reading, and the UTC offset when the value is aware. Nothing
overflows here: the dates, and what is added to them, stay inside the years 1 to 9999. -/
structure DateTime where
  wall : Time
  tzinfo : Option Time
  deriving DecidableEq, Repr

/-- The naive UTC value that `utcnow()` returns at the instant `t`. -/
def DateTime.utc (t : Time) : DateTime := ⟨t, none⟩

@[simp] theorem DateTime.utc_wall (t : Time) : (DateTime.utc t).wall = t := rfl

/-- `dt + timedelta` -/
def DateTime.add (dt : DateTime) (delta : Time) : DateTime := { dt with wall := dt.wall + delta }

/-- `dt - timedelta` -/
def DateTime.sub (dt : DateTime) (delta : Time) : DateTime := { dt with wall := dt.wall - delta }

@[simp] theorem DateTime.add_wall (dt : DateTime) (delta : Time) :
    (dt.add delta).wall = dt.wall + delta := rfl

@[simp] theorem DateTime.sub_wall (dt : DateTime) (delta : Time) :
    (dt.sub delta).wall = dt.wall - delta := rfl

/-- Order of two naive values. The code compares a stored date only after `normalizeDbDate`. -/
instance : LT DateTime := ⟨fun a b => a.wall < b.wall⟩

theorem DateTime.lt_def (a b : DateTime) : a < b ↔ a.wall < b.wall := Iff.rfl

instance (a b : DateTime) : Decidable (a < b) := inferInstanceAs (Decidable (a.wall < b.wall))

/-- `timedelta(minutes=n)` -/
def minutes (n : ℤ) : Time := n * 60000000

/-- `timedelta(hours=n)` -/
def hours (n : ℤ) : Time := n * 3600000000

/-- `timedelta(days=n)` -/
def days (n : ℤ) : Time := n * 86400000000

/-! ### Exceptions -/

/-- The exceptions that cross a method of the source. -/
inductive PyExc
  /-- `SPasswordUnauthorized`, with its message -/
  | spasswordUnauthorized (message : String)
  /-- Keystone's `Unauthorized`, with its message -/
  | unauthorized (message : String)
  /-- `SPasswordNotConfigured` -/
  | notConfigured
  /-- Keystone's `ValidationError`, with its message -/
  | validationError (message : String)
  /-- the policy enforcer refused the call -/
  | forbidden
  /-- Keystone's `UserNotFound` -/
  | userNotFound (userId : String)
  /-- the base driver's `AssertionError` -/
  | assertionError
  /-- a method or attribute of `None` -/
  | attributeError (name : String)
  /-- a key missing from a dict -/
  | keyError (key : String)
  /-- a second row under one primary key, or a row without one -/
  | integrityError
  /-- an exception that `send_email` lets through, with the step that raised it -/
  | smtp (step : String)
  /-- any other exception of code outside the extension -/
  | other (what : String)
  deriving DecidableEq, Repr

/-- The HTTP status an exception is answered with. -/
def PyExc.status : PyExc → ℕ
  | .spasswordUnauthorized _ => 401
  | .unauthorized _ => 401
  | .notConfigured => 400
  | .validationError _ => 400
  | .forbidden => 403
  | .userNotFound _ => 404
  | .assertionError => 401
  | .attributeError _ => 500
  | .keyError _ => 500
  | .integrityError => 500
  | .smtp _ => 500
  | .other _ => 500

/-- `normalize_db_date`, on a column that may be `None`: reading `tzinfo` of `None` raises. -/
def normalizeDbDate : Option DateTime → Except PyExc DateTime
  | none => .error (.attributeError "tzinfo")
  | some dt => if dt.tzinfo.isSome then .ok { dt with tzinfo := none } else .ok dt

/-- A naive value is returned as it is. -/
@[simp] theorem normalizeDbDate_utc (t : Time) :
    normalizeDbDate (some (.utc t)) = .ok (.utc t) := rfl

/-! ### Configuration -/

/-- The `spassword` group of the configuration. `pwd_user_blacklist` is registered without a
default. Unset it is `None`, and then every membership test of an enabled extension raises
`TypeError`: here the option is set, to a list. -/
structure Conf where
  enabled : Bool
  pwdExpDays : ℤ
  pwdMaxTries : ℤ
  pwdBlockMinutes : ℤ
  pwdUserBlacklist : List String
  smtpTls : Bool
  smtpUser : String
  smtpPassword : String
  sndfa : Bool
  sndfaEndpoint : String
  sndfaTimeWindow : ℤ

/-- The time a blocked account stays blocked. -/
def Conf.blockTime (conf : Conf) : Time := minutes conf.pwdBlockMinutes

/-- The time a second-factor validation or code stays fresh. -/
def Conf.window (conf : Conf) : Time := hours conf.sndfaTimeWindow

/-- The defaults `register_opt` gives, with the blacklist set to the empty list. -/
def Conf.default : Conf where
  enabled := false
  pwdExpDays := 365
  pwdMaxTries := 3
  pwdBlockMinutes := 30
  pwdUserBlacklist := []
  smtpTls := true
  smtpUser := ""
  smtpPassword := ""
  sndfa := false
  sndfaEndpoint := "localhost:5001"
  sndfaTimeWindow := 24

/-! ### Users and codes -/

/-- The value under the key `email`. Keystone takes any JSON value there and validates none. -/
inductive Address
  | text (address : String)
  /-- JSON `null`, in Python `None` -/
  | null
  /-- a value of another type, by its text -/
  | other (shown : String)
  deriving DecidableEq, Repr

/-- `'%s' % address` -/
def Address.str : Address → String
  | .text address => address
  | .null => "None"
  | .other shown => shown

/-- A user as the identity backend stores it. A record without the key `email` has `none`. -/
structure UserRecord where
  name : String
  domainId : String
  email : Option Address
  password : String
  deriving DecidableEq, Repr

/-- The user dict that `get_user` returns: no password. -/
structure User where
  id : String
  name : String
  domainId : String
  email : Option Address
  deriving DecidableEq, Repr

/-- The dict of a stored record. -/
def UserRecord.toUser (record : UserRecord) (userId : String) : User :=
  ⟨userId, record.name, record.domainId, record.email⟩

@[simp] theorem UserRecord.toUser_id (record : UserRecord) (userId : String) :
    (record.toUser userId).id = userId := rfl

@[simp] theorem UserRecord.toUser_email (record : UserRecord) (userId : String) :
    (record.toUser userId).email = record.email := rfl

/-- An update of a stored record. Keystone merges the given values into it, so a key `email` that is
there stays. -/
def UserRecord.merge (old new : UserRecord) : UserRecord :=
  { new with email := new.email.or old.email }

@[simp] theorem UserRecord.merge_password (old new : UserRecord) :
    (old.merge new).password = new.password := rfl

theorem UserRecord.merge_email_ne_none {old : UserRecord} (h : old.email ≠ none)
    (new : UserRecord) : (old.merge new).email ≠ none := by
  cases hnew : new.email <;> simp [merge, hnew, h]

/-- `uuid.uuid4().hex[:6]` -/
structure ShortCode where
  code : String
  length_eq : code.length = 6

/-- Truth value of an optional string. -/
def truthy : Option String → Bool
  | none => false
  | some s => s != ""

theorem ShortCode.ne_empty (c : ShortCode) : c.code ≠ "" := by
  intro h
  have hlen := c.length_eq
  rw [h] at hlen
  simp at hlen

@[simp] theorem truthy_code (c : ShortCode) : truthy (some c.code) = true := by
  simp [truthy, c.ne_empty]

/-! ### The row -/

/-- A row of the table `spassword`. -/
structure SPasswordModel where
  userId : String
  userName : Option String := none
  domainId : Option String := none
  creationTime : Option DateTime := none
  loginAttempts : ℤ := 0
  lastLoginAttemptTime : Option DateTime := none
  extra : List (String × String) := []
  sndfa : Bool := false
  sndfaLast : Option DateTime := none
  sndfaCode : Option String := none
  sndfaTimeCode : Option DateTime := none
  sndfaEmail : Bool := false
  sndfaEmailCode : Option String := none
  deriving DecidableEq, Repr

/-- The class attribute `attributes`. -/
def SPasswordModel.attributes : List String :=
  ["user_id", "user_name", "domain_id", "creation_time", "login_attempts",
    "last_login_attempt_time", "extra", "sndfa", "sndfa_last", "sndfa_code", "sndfa_time_code",
    "sndfa_email", "sndfa_email_code"]

/-- The keys of `to_dict()`: those of `extra`, then the attributes. -/
def SPasswordModel.keys (spassword : SPasswordModel) : List String :=
  spassword.extra.map Prod.fst ++ attributes

/-- The keys the code tests for are attributes, so every row has them. -/
theorem SPasswordModel.mem_keys {key : String} (h : key ∈ attributes)
    (spassword : SPasswordModel) : key ∈ spassword.keys :=
  List.mem_append_right _ h

@[simp] theorem SPasswordModel.sndfa_mem_keys (spassword : SPasswordModel) :
    "sndfa" ∈ spassword.keys := mem_keys (by decide) _

@[simp] theorem SPasswordModel.sndfa_email_mem_keys (spassword : SPasswordModel) :
    "sndfa_email" ∈ spassword.keys := mem_keys (by decide) _

@[simp] theorem SPasswordModel.extra_mem_keys (spassword : SPasswordModel) :
    "extra" ∈ spassword.keys := mem_keys (by decide) _

/-! ### Mails -/

/-- What the extension mails. -/
inductive MailContent
  /-- the second-factor code, mailed by `authenticate` -/
  | sndfaCode (code link : String)
  /-- the reset link, mailed by `_recover_password` -/
  | resetPassword (code link : String)
  /-- the verification code, mailed by `_ask_for_check_email_code` -/
  | checkEmail (code link : String)
  /-- the new password, mailed by `_reset_password` -/
  | newPassword (password : String)
  deriving DecidableEq, Repr

/-- A mail to one address. -/
structure Mail where
  dest : Address
  content : MailContent
  deriving DecidableEq, Repr

/-! ### Results -/

/-- The `extras` of a successful `authenticate`. The two dates are the values whose `isoformat`
the source puts there; a key that the source may leave out is an `Option`. -/
structure Extras where
  passwordCreationTime : DateTime
  passwordExpirationTime : DateTime
  pwdUserInBlacklist : Bool
  lastLoginAttemptTime : Option (Option DateTime)
  previousLoginAttempts : ℤ
  sndfa : Option Bool
  sndfaEmail : Option Bool
  deriving DecidableEq, Repr

/-- What `authenticate` returns: the base driver's user dict, with `extras` when the extension is
enabled. -/
structure AuthResult where
  user : User
  extras : Option Extras
  deriving DecidableEq, Repr

/-! ### History -/

/-- Which caller had an email code generated. -/
inductive CodeOrigin
  /-- `_recover_password` -/
  | recover
  /-- `_ask_for_check_email_code` -/
  | checkemail
  /-- a direct call of the manager's `user_ask_check_email_code` -/
  | manager
  deriving DecidableEq, Repr

/-- What a program notes in the history. -/
inductive Event
  /-- a created or updated event found no row and inserted one -/
  | rowCreated (userId : String) (t : Time)
  /-- a created or updated event reset `creation_time` and `login_attempts` of the row -/
  | rowTouched (userId : String) (t : Time)
  /-- `authenticate` found no row and inserted one -/
  | rowRegistered (userId : String) (t : Time)
  /-- a deleted event removed the row, if there was one -/
  | userDeleted (userId : String)
  /-- the identity backend stored a password for the user -/
  | passwordSet (userId : String)
  /-- the lockout test refused the call -/
  | blocked (userId : String) (t : Time)
  /-- the expiry test refused the password -/
  | expired (userId : String) (t : Time)
  /-- the base driver returned a user (`true`) or raised `AssertionError` (`false`) -/
  | baseVerdict (userId : String) (t : Time) (accepted : Bool)
  /-- `authenticate` returned a result -/
  | token (userId : String) (extras : Extras)
  /-- `set_user_sndfa_code` stored a code -/
  | sndfaIssued (userId code : String) (t : Time)
  /-- `check_sndfa_code` returned `True`, having read `row` -/
  | sndfaAccepted (userId code : String) (t : Time) (row : SPasswordModel)
  /-- `modify_sndfa` switched the second factor on or off -/
  | sndfaModified (userId : String) (enable : Bool)
  /-- `modify_black` stored the flag -/
  | blackModified (userId : String) (enable : Bool)
  /-- `set_check_email_code` stored a code -/
  | emailCodeIssued (userId code : String) (origin : CodeOrigin)
  /-- `check_email_code` compared a code with the stored one -/
  | emailCodeChecked (userId code : String) (matched : Bool)
  /-- `_reset_password` changed the password -/
  | passwordReset (userId code password : String)
  /-- `send_email` was called; `handed` when the server took the message -/
  | mailed (userId : String) (mail : Mail) (handed : Bool)
  deriving DecidableEq, Repr

/-- The user an event is about. -/
def Event.userId : Event → String
  | .rowCreated u _ | .rowTouched u _ | .rowRegistered u _ | .userDeleted u | .passwordSet u
  | .blocked u _ | .expired u _ | .baseVerdict u _ _ | .token u _ | .sndfaIssued u _ _
  | .sndfaAccepted u _ _ _ | .sndfaModified u _ | .blackModified u _ | .emailCodeIssued u _ _
  | .emailCodeChecked u _ _ | .passwordReset u _ _ | .mailed u _ _ => u

/-- The clock reading an event is dated with. -/
def Event.time? : Event → Option Time
  | .rowCreated _ t | .rowTouched _ t | .rowRegistered _ t | .blocked _ t | .expired _ t
  | .baseVerdict _ t _ | .sndfaIssued _ _ t | .sndfaAccepted _ _ t _ => some t
  | .userDeleted _ | .passwordSet _ | .token _ _ | .sndfaModified _ _ | .blackModified _ _
  | .emailCodeIssued _ _ _ | .emailCodeChecked _ _ _ | .passwordReset _ _ _
  | .mailed _ _ _ => none

/-! ### The state -/

/-- Keystone's users, the `spassword` table, the number of clock readings taken so far, and the
history. -/
structure World where
  users : String → Option UserRecord
  spassword : String → Option SPasswordModel
  ticks : ℕ := 0
  log : List Event := []

/-- The users before the extension has seen any of them: no row, no history. -/
def World.initial (users : String → Option UserRecord) : World :=
  { users, spassword := fun _ => none }

/-- Note an event. -/
def World.note (w : World) (e : Event) : World := { w with log := e :: w.log }

/-- Count a clock reading. -/
def World.tick (w : World) : World := { w with ticks := w.ticks + 1 }

/-- Store, or remove, the row of a user. -/
def World.setRow (w : World) (userId : String) (row : Option SPasswordModel) : World :=
  { w with spassword := Function.update w.spassword userId row }

/-- Store, or remove, the record of a user. -/
def World.setUser (w : World) (userId : String) (record : Option UserRecord) : World :=
  { w with users := Function.update w.users userId record }

section Projections

variable (w : World) (e : Event) (u : String) (row : Option SPasswordModel)
  (record : Option UserRecord)

@[simp] theorem World.note_users : (w.note e).users = w.users := rfl
@[simp] theorem World.note_spassword : (w.note e).spassword = w.spassword := rfl
@[simp] theorem World.note_ticks : (w.note e).ticks = w.ticks := rfl
@[simp] theorem World.note_log : (w.note e).log = e :: w.log := rfl
@[simp] theorem World.tick_users : w.tick.users = w.users := rfl
@[simp] theorem World.tick_spassword : w.tick.spassword = w.spassword := rfl
@[simp] theorem World.tick_ticks : w.tick.ticks = w.ticks + 1 := rfl
@[simp] theorem World.tick_log : w.tick.log = w.log := rfl
@[simp] theorem World.setRow_users : (w.setRow u row).users = w.users := rfl
@[simp] theorem World.setRow_spassword :
    (w.setRow u row).spassword = Function.update w.spassword u row := rfl
@[simp] theorem World.setRow_ticks : (w.setRow u row).ticks = w.ticks := rfl
@[simp] theorem World.setRow_log : (w.setRow u row).log = w.log := rfl
@[simp] theorem World.setUser_users :
    (w.setUser u record).users = Function.update w.users u record := rfl
@[simp] theorem World.setUser_spassword : (w.setUser u record).spassword = w.spassword := rfl
@[simp] theorem World.setUser_ticks : (w.setUser u record).ticks = w.ticks := rfl
@[simp] theorem World.setUser_log : (w.setUser u record).log = w.log := rfl

end Projections

/-! ### Primitive programs -/

/-- A method of the source. -/
abbrev Py := EStateM PyExc World

/-- Note an event in the history. -/
def record (e : Event) : Py Unit := modify fun w => w.note e

/-- `datetime.datetime.utcnow()` -/
def utcnow (clock : ℕ → Time) : Py DateTime := do
  let w ← get
  set w.tick
  return .utc (clock w.ticks)

/-- A computation that reads no state. -/
def ofExcept {α : Type} : Except PyExc α → Py α
  | .ok a => pure a
  | .error e => throw e

/-- `get_spassword_session`: the row of the user, if there is one. -/
def getSpasswordSession (userId : String) : Py (Option SPasswordModel) := do
  return (← get).spassword userId

/-- `get_user`: the user, or `UserNotFound`. -/
def getUser (userId : String) : Py User := do
  match (← get).users userId with
  | some record => return record.toUser userId
  | none => throw (.userNotFound userId)

/-- Commit of an object read from the database: an `UPDATE` of the columns that were assigned,
on the row as it is stored now. -/
def sessionUpdate (userId : String) (assign : SPasswordModel → SPasswordModel) : Py Unit :=
  modify fun w => w.setRow userId ((w.spassword userId).map assign)

/-- Commit of a new object: an `INSERT`. -/
def sessionInsert (row : SPasswordModel) : Py Unit := do
  match (← get).spassword row.userId with
  | some _ => throw .integrityError
  | none => modify fun w => w.setRow row.userId (some row)

/-- Commit of a deleted object: a `DELETE`. -/
def sessionDelete (userId : String) : Py Unit := modify fun w => w.setRow userId none

section Run

variable (w : World)

@[simp] theorem run_record (e : Event) : (record e).run w = .ok () (w.note e) := rfl

@[simp] theorem run_utcnow (clock : ℕ → Time) :
    (utcnow clock).run w = .ok (.utc (clock w.ticks)) w.tick := rfl

@[simp] theorem run_ofExcept_ok {α : Type} (a : α) :
    (ofExcept (.ok a)).run w = .ok a w := rfl

@[simp] theorem run_ofExcept_error {α : Type} (e : PyExc) :
    (ofExcept (.error e) : Py α).run w = .error e w := rfl

@[simp] theorem run_getSpasswordSession (u : String) :
    (getSpasswordSession u).run w = .ok (w.spassword u) w := rfl

theorem run_getUser_some {u : String} {r : UserRecord} (h : w.users u = some r) :
    (getUser u).run w = .ok (r.toUser u) w := by
  simp [getUser, h]

theorem run_getUser_none {u : String} (h : w.users u = none) :
    (getUser u).run w = .error (.userNotFound u) w := by
  simp [getUser, h]

@[simp] theorem run_sessionUpdate (u : String) (assign : SPasswordModel → SPasswordModel) :
    (sessionUpdate u assign).run w = .ok () (w.setRow u ((w.spassword u).map assign)) := rfl

theorem run_sessionInsert {row : SPasswordModel} (h : w.spassword row.userId = none) :
    (sessionInsert row).run w = .ok () (w.setRow row.userId (some row)) := by
  simp [sessionInsert, h]

@[simp] theorem run_sessionDelete (u : String) :
    (sessionDelete u).run w = .ok () (w.setRow u none) := rfl

end Run

end KeystoneSpassword
