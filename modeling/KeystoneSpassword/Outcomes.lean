import KeystoneSpassword.System

/-!
# How a call of `authenticate` ends

`authenticate` is one program with a dozen exits. This file runs it once and for all: the two
inductive predicates below list what `verdict` and `attempt` can do from a given state, with the
guards under which they do it and the state they leave, and `verdict_outcome` and
`attempt_outcome` say that nothing else happens. Every later statement about a login is a case
analysis on them.

The dates are explicit. A call reads the clock several times, `World.ticked` counts the readings,
and each date in an outcome names the reading it comes from.

## Main definitions

* `LockedOut` — the lockout test would refuse a call made now
* `Identity.VerdictOutcome`, `Identity.CodeReady`, `Identity.AttemptOutcome`

## Main results

* `Identity.verdict_outcome`, `Identity.attempt_outcome`
-/

namespace KeystoneSpassword

open StateProgram

variable {conf : Conf} {clock : ℕ → Time}

/-! ### Clock readings -/

/-- The state after `n` clock readings. -/
def World.ticked (w : World) (n : ℕ) : World := { w with ticks := w.ticks + n }

section Ticked

variable (w : World) (n m : ℕ)

@[simp] theorem World.ticked_users : (w.ticked n).users = w.users := rfl
@[simp] theorem World.ticked_spassword : (w.ticked n).spassword = w.spassword := rfl
@[simp] theorem World.ticked_ticks : (w.ticked n).ticks = w.ticks + n := rfl
@[simp] theorem World.ticked_log : (w.ticked n).log = w.log := rfl
@[simp] theorem World.ticked_zero : w.ticked 0 = w := rfl
@[simp] theorem World.ticked_ticked : (w.ticked n).ticked m = w.ticked (n + m) := by
  rw [ticked, ticked, ticked, Nat.add_assoc]

theorem World.tick_eq_ticked : w.tick = w.ticked 1 := rfl

@[simp] theorem World.tick_ticked : w.tick.ticked n = w.ticked (n + 1) := by
  rw [tick_eq_ticked, ticked_ticked, Nat.add_comm]

@[simp] theorem World.ticked_tick : (w.ticked n).tick = w.ticked (n + 1) := rfl

end Ticked

/-- `normalize_db_date` raises on a missing date. -/
theorem normalizeDbDate_none : normalizeDbDate none = .error (.attributeError "tzinfo") := rfl

/-- `normalize_db_date` never moves the wall clock. -/
theorem normalizeDbDate_some (d : DateTime) :
    normalizeDbDate (some d) = .ok { d with tzinfo := none } := by
  rcases d with ⟨wall, _ | offset⟩ <;> rfl

/-! ### Before the verdict -/

/-- The lockout test refuses a call that is made now: the counter exceeds the limit and the last
attempt is inside the blocking time at the next clock reading. -/
def LockedOut (conf : Conf) (clock : ℕ → Time) (w : World) (u : String) : Prop :=
  u ∉ conf.pwdUserBlacklist ∧ ∃ row last, w.spassword u = some row ∧
    conf.pwdMaxTries < row.loginAttempts ∧ row.lastLoginAttemptTime = some last ∧
    clock w.ticks - conf.blockTime < last.wall

/-- The mail of a login has somewhere to go, and `send_email` returns: a message can be made for the
address, and the server raises nothing that is not caught. -/
def MailGoesOut (conf : Conf) (env : AuthEnv) (w : World) (u : String) : Prop :=
  ∃ address, (w.users u).bind UserRecord.email = some address ∧
    SendMail.Returns conf env.server address

/-- Without an address no mail goes out. -/
theorem not_mailGoesOut_of_none {conf : Conf} {env : AuthEnv} {w : World} {u : String}
    (h : (w.users u).bind UserRecord.email = none) : ¬ MailGoesOut conf env w u := by
  rintro ⟨address, haddress, -⟩
  rw [h] at haddress
  cases haddress

/-- No mail goes out while `send_email` raises. -/
theorem not_mailGoesOut_of_raises {conf : Conf} {env : AuthEnv} {w : World} {u : String}
    {userRecord : UserRecord} {address : Address} {e : PyExc} (huser : w.users u = some userRecord)
    (haddress : userRecord.email = some address)
    (hmail : (SendMail.delivery conf env.server address).2 = .error e) :
    ¬ MailGoesOut conf env w u := by
  rintro ⟨address', haddress', sent, hsent⟩
  rw [huser, Option.bind_some, haddress] at haddress'
  cases haddress'
  rw [hmail] at hsent
  cases hsent

namespace Identity

/-- What `verdict` can do. It never writes a row. -/
inductive VerdictOutcome (conf : Conf) (clock : ℕ → Time) (w : World) (u : String) :
    EStateM.Result PyExc World (Option User) → Prop
  /-- the lockout test refuses -/
  | blocked (row : SPasswordModel) (hrow : w.spassword u = some row)
      (hlocked : LockedOut conf clock w u) :
      VerdictOutcome conf clock w u (.error (.spasswordUnauthorized (blockedMessage row.userName))
        (w.tick.note (.blocked u (clock w.ticks))))
  /-- the expiry test refuses -/
  | expired (row : SPasswordModel) (n : ℕ) (hfree : ¬ LockedOut conf clock w u) :
      VerdictOutcome conf clock w u (.error (.spasswordUnauthorized (expiredMessage row.userName))
        ((w.ticked (n + 1)).note (.expired u (clock (w.ticks + n)))))
  /-- the base driver, or a missing date, raises -/
  | raised (e : PyExc) (n : ℕ) (hfree : ¬ LockedOut conf clock w u) :
      VerdictOutcome conf clock w u (.error e (w.ticked n))
  /-- the base driver answers -/
  | answered (res : Option User) (n : ℕ) (hfree : ¬ LockedOut conf clock w u) :
      VerdictOutcome conf clock w u (.ok res (w.ticked n))

/-- The lockout test either refuses, or it changes nothing but the number of readings. -/
theorem lockoutTest_cases (conf : Conf) (clock : ℕ → Time) (w : World) (u : String)
    (hblack : u ∉ conf.pwdUserBlacklist) :
    (∃ row, w.spassword u = some row ∧ LockedOut conf clock w u ∧
      (lockoutTest conf clock u (w.spassword u)).run w =
        .error (.spasswordUnauthorized (blockedMessage row.userName))
          (w.tick.note (.blocked u (clock w.ticks)))) ∨
    ¬ LockedOut conf clock w u ∧
      ((∃ e, (lockoutTest conf clock u (w.spassword u)).run w = .error e w) ∨
        ∃ n, (lockoutTest conf clock u (w.spassword u)).run w = .ok () (w.ticked n)) := by
  cases hrow : w.spassword u with
  | none =>
    refine .inr ⟨?_, .inr ⟨0, rfl⟩⟩
    rintro ⟨-, row, last, h, -⟩
    rw [hrow] at h
    cases h
  | some row =>
    by_cases htries : conf.pwdMaxTries < row.loginAttempts
    · cases hlast : row.lastLoginAttemptTime with
      | none =>
        refine .inr ⟨?_, .inl ⟨.attributeError "tzinfo", ?_⟩⟩
        · rintro ⟨-, row', last, h, -, hlast', -⟩
          rw [hrow] at h
          cases h
          rw [hlast] at hlast'
          cases hlast'
        · simp [lockoutTest, htries, hlast, normalizeDbDate_none]
      | some last =>
        by_cases hinside : clock w.ticks - conf.blockTime < last.wall
        · refine .inl ⟨row, rfl, ⟨hblack, row, last, hrow, htries, hlast, hinside⟩, ?_⟩
          simp [lockoutTest, htries, hlast, normalizeDbDate_some, blockedAt, DateTime.lt_def,
            hinside]
        · refine .inr ⟨?_, .inr ⟨1, ?_⟩⟩
          · rintro ⟨-, row', last', h, -, hlast', hinside'⟩
            rw [hrow] at h
            cases h
            rw [hlast] at hlast'
            cases hlast'
            exact hinside hinside'
          · simp [lockoutTest, htries, hlast, normalizeDbDate_some, blockedAt, DateTime.lt_def,
              hinside, World.tick_eq_ticked]
    · refine .inr ⟨?_, .inr ⟨0, ?_⟩⟩
      · rintro ⟨-, row', last, h, htries', -⟩
        rw [hrow] at h
        cases h
        exact htries htries'
      · simp [lockoutTest, htries]

section CheckPassword

variable {w : World} {u : String} {row : SPasswordModel} {created : DateTime}

/-- `_check_password` before the base method, on a row whose age is not looked at. -/
theorem run_checkPassword_of_exempt (hrow : w.spassword u = some row)
    (hchecks : checksExpiry conf u row = .ok false) :
    (checkPassword conf clock u).run w = .ok () w := by
  cases henabled : conf.enabled <;> simp [checkPassword, henabled, hrow, hchecks]

theorem run_checkPassword_of_expired (henabled : conf.enabled = true)
    (hrow : w.spassword u = some row) (hchecks : checksExpiry conf u row = .ok true)
    (htime : row.creationTime = some created)
    (hold : created.wall < clock w.ticks - days conf.pwdExpDays) :
    (checkPassword conf clock u).run w =
      .error (.spasswordUnauthorized (expiredMessage row.userName))
        (w.tick.note (.expired u (clock w.ticks))) := by
  simp [checkPassword, henabled, hrow, hchecks, htime, normalizeDbDate_some, DateTime.lt_def, hold]

theorem run_checkPassword_of_current (henabled : conf.enabled = true)
    (hrow : w.spassword u = some row) (hchecks : checksExpiry conf u row = .ok true)
    (htime : row.creationTime = some created)
    (hcurrent : ¬ created.wall < clock w.ticks - days conf.pwdExpDays) :
    (checkPassword conf clock u).run w = .ok () w.tick := by
  simp [checkPassword, henabled, hrow, hchecks, htime, normalizeDbDate_some, DateTime.lt_def,
    hcurrent]

end CheckPassword

/-- `_check_password` before the base method: it refuses an expired password, or raises on a row
it cannot read, or changes nothing but the number of readings. -/
theorem checkPassword_cases (conf : Conf) (clock : ℕ → Time) (w : World) (u : String) :
    (∃ (row : SPasswordModel) (n : ℕ), (checkPassword conf clock u).run w =
      .error (.spasswordUnauthorized (expiredMessage row.userName))
        ((w.ticked (n + 1)).note (.expired u (clock (w.ticks + n))))) ∨
    (∃ e n, (checkPassword conf clock u).run w = .error e (w.ticked n)) ∨
      ∃ n, (checkPassword conf clock u).run w = .ok () (w.ticked n) := by
  by_cases henabled : conf.enabled = true
  · cases hrow : w.spassword u with
    | none => exact .inr (.inr ⟨0, by simp [checkPassword, henabled, hrow]⟩)
    | some row =>
      cases hchecks : checksExpiry conf u row with
      | error e => exact .inr (.inl ⟨e, 0, by simp [checkPassword, henabled, hrow, hchecks]⟩)
      | ok checks =>
        cases checks with
        | false => exact .inr (.inr ⟨0, run_checkPassword_of_exempt hrow hchecks⟩)
        | true =>
          cases htime : row.creationTime with
          | none =>
            refine .inr (.inl ⟨.attributeError "tzinfo", 1, ?_⟩)
            simp [checkPassword, henabled, hrow, hchecks, htime, normalizeDbDate_none,
              World.tick_eq_ticked]
          | some created =>
            by_cases hold : created.wall < clock w.ticks - days conf.pwdExpDays
            · exact .inl ⟨row, 0, run_checkPassword_of_expired henabled hrow hchecks htime hold⟩
            · exact .inr (.inr
                ⟨1, run_checkPassword_of_current henabled hrow hchecks htime hold⟩)
  · exact .inr (.inr ⟨0, by simp [checkPassword, henabled]⟩)

/-- The base driver's answer leaves the state alone. -/
theorem BaseAnswer.run_toPy (a : BaseAnswer) (w : World) :
    (∃ e, (BaseAnswer.toPy a).run w = .error e w) ∨
      ∃ res, (BaseAnswer.toPy a).run w = .ok res w := by
  cases a with
  | user user => exact .inr ⟨some user, rfl⟩
  | assertionError => exact .inr ⟨none, rfl⟩
  | raised what => exact .inl ⟨.other what, rfl⟩

/-- With the extension off, the first part of a login is the base driver. -/
theorem run_verdict_of_disabled (hoff : conf.enabled = false) (env : AuthEnv) (w : World)
    (u password : String) :
    (verdict conf clock env u password).run w =
      (BaseAnswer.toPy (env.base u password).own).run w := by
  cases hbase : env.base u password with
  | answer a => simp [verdict, hoff, baseAuthenticate, hbase, BaseCall.own]
  | check a => simp [verdict, hoff, baseAuthenticate, hbase, BaseCall.own, checkPassword]

/-- The base driver and the override it calls. -/
theorem baseAuthenticate_cases (conf : Conf) (clock : ℕ → Time) (env : AuthEnv) (w : World)
    (u password : String) :
    (∃ (row : SPasswordModel) (n : ℕ), (baseAuthenticate conf clock env u password).run w =
      .error (.spasswordUnauthorized (expiredMessage row.userName))
        ((w.ticked (n + 1)).note (.expired u (clock (w.ticks + n))))) ∨
    (∃ e n, (baseAuthenticate conf clock env u password).run w = .error e (w.ticked n)) ∨
      ∃ res n, (baseAuthenticate conf clock env u password).run w = .ok res (w.ticked n) := by
  cases hbase : env.base u password with
  | answer a =>
    rcases BaseAnswer.run_toPy a w with ⟨e, h⟩ | ⟨res, h⟩
    · exact .inr (.inl ⟨e, 0, by simp [baseAuthenticate, hbase, h]⟩)
    · exact .inr (.inr ⟨res, 0, by simp [baseAuthenticate, hbase, h]⟩)
  | check a =>
    rcases checkPassword_cases conf clock w u with
      ⟨row, n, h⟩ | ⟨e, n, h⟩ | ⟨n, h⟩
    · exact .inl ⟨row, n, by simp [baseAuthenticate, hbase, h]⟩
    · exact .inr (.inl ⟨e, n, by simp [baseAuthenticate, hbase, h]⟩)
    · rcases BaseAnswer.run_toPy a (w.ticked n) with ⟨e, ha⟩ | ⟨res, ha⟩
      · exact .inr (.inl ⟨e, n, by simp [baseAuthenticate, hbase, h, ha]⟩)
      · exact .inr (.inr ⟨res, n, by simp [baseAuthenticate, hbase, h, ha]⟩)

/-- **`verdict` does one of four things.** -/
theorem verdict_outcome (henabled : conf.enabled = true) (env : AuthEnv) (w : World)
    (u password : String) :
    VerdictOutcome conf clock w u ((verdict conf clock env u password).run w) := by
  have hbase : ∀ n, ¬ LockedOut conf clock w u → VerdictOutcome conf clock w u
      ((baseAuthenticate conf clock env u password).run (w.ticked n)) := by
    intro n hfree
    rcases baseAuthenticate_cases conf clock env (w.ticked n) u password with
      ⟨row, m, h⟩ | ⟨e, m, h⟩ | ⟨res, m, h⟩
    · rw [h, World.ticked_ticked, World.ticked_ticks, ← Nat.add_assoc, Nat.add_assoc w.ticks]
      exact .expired row (n + m) hfree
    · rw [h, World.ticked_ticked]
      exact .raised e (n + m) hfree
    · rw [h, World.ticked_ticked]
      exact .answered res (n + m) hfree
  by_cases hblack : u ∈ conf.pwdUserBlacklist
  · have hfree : ¬ LockedOut conf clock w u := fun h => h.1 hblack
    have hanswer : (verdict conf clock env u password).run w =
        (baseAuthenticate conf clock env u password).run w := by
      simp [verdict, hblack]
    rw [hanswer]
    exact hbase 0 hfree
  · have hanswer : (verdict conf clock env u password).run w =
        (lockoutTest conf clock u (w.spassword u) >>= fun _ =>
          baseAuthenticate conf clock env u password).run w := by
      simp [verdict, hblack, henabled]
    rw [hanswer, EStateM.run_bind]
    rcases lockoutTest_cases conf clock w u hblack with
      ⟨row, hrow, hlocked, h⟩ | ⟨hfree, ⟨e, h⟩ | ⟨n, h⟩⟩
    · rw [h]
      exact .blocked row hrow hlocked
    · rw [h]
      exact .raised e 0 hfree
    · rw [h]
      exact hbase n hfree

/-! ### After the verdict -/

/-- A stored date that is set and inside the second-factor window at `now`. -/
def Fresh (conf : Conf) (stored : Option DateTime) (now : Time) : Prop :=
  ∃ date, stored = some date ∧ now - conf.window < date.wall

/-- The row asks for a second factor, and the configuration wants it. -/
def WantsSndfa (conf : Conf) (row : SPasswordModel) : Prop :=
  conf.sndfa = true ∧ row.sndfa = true

/-- The state once the base driver has answered and the attempt is dated. -/
def afterVerdict (clock : ℕ → Time) (w : World) (u : String) (accepted : Bool) : World :=
  w.tick.note (.baseVerdict u (clock w.ticks) accepted)

section AfterVerdict

variable (w : World) (u : String) (accepted : Bool)

@[simp] theorem afterVerdict_users : (afterVerdict clock w u accepted).users = w.users := rfl
@[simp] theorem afterVerdict_spassword :
    (afterVerdict clock w u accepted).spassword = w.spassword := rfl
@[simp] theorem afterVerdict_ticks : (afterVerdict clock w u accepted).ticks = w.ticks + 1 := rfl
@[simp] theorem afterVerdict_log : (afterVerdict clock w u accepted).log =
    .baseVerdict u (clock w.ticks) accepted :: w.log := rfl

end AfterVerdict

/-- The final commit of an accepted password. -/
def clearAttempts (w : World) (u : String) (t : Time) : World :=
  w.setRow u ((w.spassword u).map fun r =>
    { r with loginAttempts := 0, lastLoginAttemptTime := some (.utc t) })

theorem spassword_clearAttempts {w : World} {u : String} {row : SPasswordModel}
    (hrow : w.spassword u = some row) (t : Time) : (clearAttempts w u t).spassword u =
      some { row with loginAttempts := 0, lastLoginAttemptTime := some (.utc t) } := by
  simp [clearAttempts, hrow]

/-- `row` with a second-factor code stored at `t`. -/
def withCode (row : SPasswordModel) (code : String) (t : Time) : SPasswordModel :=
  { row with sndfaTimeCode := some (.utc t), sndfaCode := some code }

/-- The code that is to be mailed, and the state in which it is stored. -/
inductive CodeReady (conf : Conf) (clock : ℕ → Time) (uuid : ShortCode) (u : String)
    (row : SPasswordModel) (w : World) : String → World → Prop
  /-- the stored code is fresh and is mailed again -/
  | reused (hfresh : Fresh conf row.sndfaTimeCode (clock w.ticks)) :
      CodeReady conf clock uuid u row w (row.sndfaCode.getD "None") w.tick
  /-- a new code is stored -/
  | issued (n : ℕ) (hstale : ¬ Fresh conf row.sndfaTimeCode (clock w.ticks)) :
      CodeReady conf clock uuid u row w uuid.code
        (((w.ticked (n + 1)).setRow u (some (withCode row uuid.code (clock (w.ticks + n))))).note
          (.sndfaIssued u uuid.code (clock (w.ticks + n))))

/-- What `attempt` can do, by the base driver's answer. -/
inductive AttemptOutcome (conf : Conf) (clock : ℕ → Time) (env : AuthEnv) (w : World)
    (u : String) : Option User → EStateM.Result PyExc World AuthResult → Prop
  /-- an exception before anything is written -/
  | lost (res : Option User) (e : PyExc) (n : ℕ)
      (hlost : w.users u = none ∨
        ∃ row, w.spassword u = some row ∧ row.creationTime = none) :
      AttemptOutcome conf clock env w u res
        (.error e ((afterVerdict clock w u res.isSome).ticked n))
  /-- a wrong password of a user without a row -/
  | firstRejected (userRecord : UserRecord) (hrow : w.spassword u = none)
      (huser : w.users u = some userRecord) :
      AttemptOutcome conf clock env w u none (.error (.spasswordUnauthorized invalidMessage)
        (((afterVerdict clock w u false).setRow u
          (some (firstRow (userRecord.toUser u) (.utc (clock w.ticks)) none))).note
            (.rowRegistered u (clock w.ticks))))
  /-- a correct password of a user without a row -/
  | firstAccepted (user : User) (userRecord : UserRecord) (hrow : w.spassword u = none)
      (huser : w.users u = some userRecord) :
      AttemptOutcome conf clock env w u (some user)
        (.ok ⟨user, some (firstExtras conf u (.utc (clock w.ticks)))⟩
          ((((afterVerdict clock w u true).setRow u
            (some (firstRow (userRecord.toUser u) (.utc (clock w.ticks)) (some user)))).note
              (.rowRegistered u (clock w.ticks))).note
                (.token u (firstExtras conf u (.utc (clock w.ticks))))))
  /-- a wrong password -/
  | rejected (row : SPasswordModel) (hrow : w.spassword u = some row)
      (htime : row.creationTime ≠ none) :
      AttemptOutcome conf clock env w u none (.error (.spasswordUnauthorized invalidMessage)
        ((afterVerdict clock w u false).setRow u (some
          { row with
            loginAttempts := row.loginAttempts + 1
            lastLoginAttemptTime := some (.utc (clock w.ticks)) })))
  /-- a correct password, and the second factor is not wanted -/
  | passed (user : User) (row : SPasswordModel) (created : DateTime)
      (hrow : w.spassword u = some row) (hwants : ¬ WantsSndfa conf row)
      (htime : normalizeDbDate row.creationTime = .ok created) :
      AttemptOutcome conf clock env w u (some user)
        (.ok ⟨user, some (registeredExtras conf u row created)⟩
          ((clearAttempts (afterVerdict clock w u true) u (clock w.ticks)).note
            (.token u (registeredExtras conf u row created))))
  /-- a correct password, and the second factor was validated inside the window -/
  | signed (user : User) (row : SPasswordModel) (created : DateTime)
      (hrow : w.spassword u = some row) (hwants : WantsSndfa conf row)
      (hemail : row.sndfaEmail = true)
      (hsigned : Fresh conf row.sndfaLast (clock (w.ticks + 1)))
      (htime : normalizeDbDate row.creationTime = .ok created) :
      AttemptOutcome conf clock env w u (some user)
        (.ok ⟨user, some (registeredExtras conf u row created)⟩
          ((clearAttempts ((afterVerdict clock w u true).tick) u (clock w.ticks)).note
            (.token u (registeredExtras conf u row created))))
  /-- a correct password, and the second factor has no verified email -/
  | unverified (user : User) (row : SPasswordModel) (hrow : w.spassword u = some row)
      (hwants : WantsSndfa conf row) (hemail : row.sndfaEmail = false) :
      AttemptOutcome conf clock env w u (some user)
        (.error (.spasswordUnauthorized notVerifiedMessage)
          (clearAttempts (afterVerdict clock w u true) u (clock w.ticks)))
  /-- a correct password and a code to mail, and no address to mail it to -/
  | noAddress (user : User) (row : SPasswordModel) (e : PyExc) (n : ℕ) (code : String)
      (w' : World) (hrow : w.spassword u = some row) (hwants : WantsSndfa conf row)
      (hemail : row.sndfaEmail = true)
      (hunsigned : ¬ Fresh conf row.sndfaLast (clock (w.ticks + 1)))
      (hcode : CodeReady conf clock env.uuid u row ((afterVerdict clock w u true).ticked n) code w')
      (haddress : (w.users u).bind UserRecord.email = none) :
      AttemptOutcome conf clock env w u (some user) (.error e w')
  /-- a correct password, a code, an address, and the mail raises -/
  | mailRaised (user : User) (row : SPasswordModel) (e : PyExc) (n : ℕ) (code : String)
      (w' : World) (userRecord : UserRecord) (address : Address)
      (hrow : w.spassword u = some row) (hwants : WantsSndfa conf row)
      (hemail : row.sndfaEmail = true)
      (hunsigned : ¬ Fresh conf row.sndfaLast (clock (w.ticks + 1)))
      (hcode : CodeReady conf clock env.uuid u row ((afterVerdict clock w u true).ticked n) code w')
      (huser : w.users u = some userRecord) (haddress : userRecord.email = some address)
      (hmail : (SendMail.delivery conf env.server address).2 = .error e) :
      AttemptOutcome conf clock env w u (some user)
        (.error e (w'.note (.mailed u ⟨address, .sndfaCode code (sndfaLink conf u code)⟩
          (SendMail.delivery conf env.server address).1)))
  /-- a correct password, and the code was mailed -/
  | challenged (user : User) (row : SPasswordModel) (sent : Bool) (n : ℕ) (code : String)
      (w' : World) (userRecord : UserRecord) (address : Address)
      (hrow : w.spassword u = some row) (hwants : WantsSndfa conf row)
      (hemail : row.sndfaEmail = true)
      (hunsigned : ¬ Fresh conf row.sndfaLast (clock (w.ticks + 1)))
      (hcode : CodeReady conf clock env.uuid u row ((afterVerdict clock w u true).ticked n) code w')
      (huser : w.users u = some userRecord) (haddress : userRecord.email = some address)
      (hmail : (SendMail.delivery conf env.server address).2 = .ok sent) :
      AttemptOutcome conf clock env w u (some user)
        (.error (.spasswordUnauthorized expectingMessage)
          (clearAttempts (w'.note (.mailed u ⟨address, .sndfaCode code (sndfaLink conf u code)⟩
            (SendMail.delivery conf env.server address).1)) u (clock w.ticks)))

/-- `insideWindow` on a fresh date. -/
theorem run_insideWindow_of_fresh {stored : Option DateTime} {w : World}
    (h : Fresh conf stored (clock w.ticks)) :
    (insideWindow conf clock stored).run w = .ok true w.tick := by
  obtain ⟨date, rfl, hdate⟩ := h
  simp [insideWindow, normalizeDbDate_some, DateTime.lt_def, hdate]

/-- `insideWindow` on a date that is missing or not fresh. -/
theorem run_insideWindow_of_not_fresh {stored : Option DateTime} {w : World}
    (h : ¬ Fresh conf stored (clock w.ticks)) :
    ∃ n, (insideWindow conf clock stored).run w = .ok false (w.ticked n) := by
  cases stored with
  | none => exact ⟨0, rfl⟩
  | some date =>
    have hdate : ¬ clock w.ticks - conf.window < date.wall := fun hlt => h ⟨date, rfl, hlt⟩
    exact ⟨1, by simp [insideWindow, normalizeDbDate_some, DateTime.lt_def, hdate,
      World.tick_eq_ticked]⟩

/-- The code is ready, or the user is gone. -/
theorem sndfaCodeToMail_cases (env : AuthEnv) {w : World} {u : String} {row : SPasswordModel}
    (hrow : w.spassword u = some row) (hsndfa : row.sndfa = true) (hemail : row.sndfaEmail = true) :
    (w.users u = none ∧ ∃ e n, (sndfaCodeToMail conf clock env u row).run w =
      .error e (w.ticked n)) ∨
    ∃ code w', (sndfaCodeToMail conf clock env u row).run w = .ok code w' ∧
      w'.users = w.users ∧ CodeReady conf clock env.uuid u row w code w' := by
  by_cases hfresh : Fresh conf row.sndfaTimeCode (clock w.ticks)
  · refine .inr ⟨row.sndfaCode.getD "None", w.tick, ?_, rfl, .reused hfresh⟩
    simp [sndfaCodeToMail, run_insideWindow_of_fresh hfresh]
  · obtain ⟨n, hn⟩ := run_insideWindow_of_not_fresh hfresh
    cases huser : w.users u with
    | none =>
      refine .inl ⟨rfl, .userNotFound u, n, ?_⟩
      have hget := run_getUser_none (w.ticked n) (u := u) huser
      simp [sndfaCodeToMail, hn, hget]
    | some userRecord =>
      refine .inr ⟨env.uuid.code, _, ?_, ?_, .issued n hfresh⟩
      · have hget := run_getUser_some (w.ticked n) (u := u) huser
        simp [sndfaCodeToMail, hn, hget, SPassword.setUserSndfaCode, UserRecord.toUser, hrow,
          hsndfa, hemail, withCode]
      · rfl

/-- Without an address there is nothing to mail. -/
theorem run_userEmail_none {w : World} {u : String}
    (h : (w.users u).bind UserRecord.email = none) :
    ∃ e, (userEmail u).run w = .error e w := by
  cases huser : w.users u with
  | none => exact ⟨.userNotFound u, by simp [userEmail, run_getUser_none w huser]⟩
  | some userRecord =>
    rw [huser] at h
    have hemail : userRecord.email = none := h
    exact ⟨.keyError "email", by
      simp [userEmail, run_getUser_some w huser, UserRecord.toUser, hemail]⟩

/-- The address of a user that has one. -/
theorem run_userEmail_some {w : World} {u : String} {userRecord : UserRecord} {address : Address}
    (huser : w.users u = some userRecord) (h : userRecord.email = some address) :
    (userEmail u).run w = .ok address w := by
  simp [userEmail, run_getUser_some w huser, UserRecord.toUser, h]

theorem run_secondFactor_of_not_wants {env : AuthEnv} {w : World} {u : String}
    {row : SPasswordModel} (h : ¬ WantsSndfa conf row) :
    (secondFactor conf clock env u row).run w = .ok none w := by
  have hfalse : ¬ (conf.sndfa = true ∧ row.sndfa = true) := h
  simp [secondFactor, hfalse]

theorem run_secondFactor_of_unverified {env : AuthEnv} {w : World} {u : String}
    {row : SPasswordModel} (h : WantsSndfa conf row) (hemail : row.sndfaEmail = false) :
    (secondFactor conf clock env u row).run w = .ok (some notVerifiedMessage) w := by
  simp [secondFactor, h.1, h.2, hemail]

theorem run_secondFactor_of_signed {env : AuthEnv} {w : World} {u : String}
    {row : SPasswordModel} (h : WantsSndfa conf row) (hemail : row.sndfaEmail = true)
    (hsigned : Fresh conf row.sndfaLast (clock w.ticks)) :
    (secondFactor conf clock env u row).run w = .ok none w.tick := by
  simp [secondFactor, h.1, h.2, hemail, run_insideWindow_of_fresh hsigned]

/-- The second factor on a row that waits for it: find the code, find the address, mail. -/
theorem run_secondFactor_of_unsigned {env : AuthEnv} {w w' : World} {u : String}
    {row : SPasswordModel} (h : WantsSndfa conf row) (hemail : row.sndfaEmail = true)
    (hinside : (insideWindow conf clock row.sndfaLast).run w = .ok false w') :
    (secondFactor conf clock env u row).run w =
      (do
        let code ← sndfaCodeToMail conf clock env u row
        let address ← userEmail u
        let _ ← SendMail.sendEmail conf env.server u
          ⟨address, .sndfaCode code (sndfaLink conf u code)⟩
        return some expectingMessage : Py (Option String)).run w' := by
  simp [secondFactor, h.1, h.2, hemail, hinside]

/-- A correct password on a row that waits for the second factor. -/
theorem challenge_outcome (env : AuthEnv) {w : World} {u : String} (user : User)
    {row : SPasswordModel} {created : DateTime} (hrow : w.spassword u = some row)
    (hwants : WantsSndfa conf row) (hemail : row.sndfaEmail = true)
    (hunsigned : ¬ Fresh conf row.sndfaLast (clock (w.ticks + 1)))
    (htime : normalizeDbDate row.creationTime = .ok created) :
    AttemptOutcome conf clock env w u (some user)
      ((registeredAttempt conf clock env u row (some user) (.utc (clock w.ticks))).run
        (afterVerdict clock w u true)) := by
  obtain ⟨n, hn⟩ : ∃ n, (insideWindow conf clock row.sndfaLast).run (afterVerdict clock w u true) =
      .ok false ((afterVerdict clock w u true).ticked n) := run_insideWindow_of_not_fresh hunsigned
  rw [registeredAttempt, EStateM.run_bind, htime, run_ofExcept_ok]
  dsimp only
  rw [EStateM.run_bind, run_secondFactor_of_unsigned hwants hemail hn, EStateM.run_bind]
  rcases sndfaCodeToMail_cases env (w := (afterVerdict clock w u true).ticked n) hrow hwants.2
    hemail with ⟨huser, e, m, hrun⟩ | ⟨code, w', hrun, husers, hcode⟩
  · -- the user has a row but no record: `get_user` raises
    rw [hrun, World.ticked_ticked]
    exact .lost (some user) e (n + m) (.inl huser)
  · rw [hrun]
    dsimp only
    rw [EStateM.run_bind]
    have husers' : w'.users u = w.users u := congrFun husers u
    cases haddress : (w.users u).bind UserRecord.email with
    | none =>
      obtain ⟨e, he⟩ := run_userEmail_none (husers' ▸ haddress)
      rw [he]
      exact .noAddress user row e n code w' hrow hwants hemail hunsigned hcode haddress
    | some address =>
      obtain ⟨userRecord, huser, hrecord⟩ := Option.bind_eq_some_iff.mp haddress
      rw [run_userEmail_some (husers'.trans huser) hrecord]
      dsimp only
      rw [EStateM.run_bind, SendMail.run_sendEmail]
      cases hmail : (SendMail.delivery conf env.server address).2 with
      | error e =>
        rw [run_ofExcept_error]
        exact .mailRaised user row e n code w' userRecord address hrow hwants hemail hunsigned hcode
          huser hrecord hmail
      | ok sent =>
        rw [run_ofExcept_ok]
        simp only [EStateM.run_bind, EStateM.run_pure, run_sessionUpdate, run_throw]
        exact .challenged user row sent n code w' userRecord address hrow hwants hemail hunsigned
          hcode huser hrecord hmail

/-- A correct password on an existing row, read as `row` and still stored as it was read. -/
theorem acceptedAttempt_outcome (env : AuthEnv) {w : World} {u : String} (user : User)
    {row : SPasswordModel} {created : DateTime} (hrow : w.spassword u = some row)
    (htime : normalizeDbDate row.creationTime = .ok created) :
    AttemptOutcome conf clock env w u (some user)
      ((registeredAttempt conf clock env u row (some user) (.utc (clock w.ticks))).run
        (afterVerdict clock w u true)) := by
  by_cases hwants : WantsSndfa conf row
  · cases hemail : row.sndfaEmail with
    | false =>
      have hrun : (secondFactor conf clock env u row).run (afterVerdict clock w u true) =
          .ok (some notVerifiedMessage) (afterVerdict clock w u true) :=
        run_secondFactor_of_unverified hwants hemail
      simp only [registeredAttempt, htime, EStateM.run_bind, run_ofExcept_ok, hrun,
        run_sessionUpdate, run_throw]
      exact .unverified user row hrow hwants hemail
    | true =>
      by_cases hsigned : Fresh conf row.sndfaLast (clock (w.ticks + 1))
      · have hrun : (secondFactor conf clock env u row).run (afterVerdict clock w u true) =
            .ok none (afterVerdict clock w u true).tick :=
          run_secondFactor_of_signed hwants hemail hsigned
        simp only [registeredAttempt, htime, EStateM.run_bind, run_ofExcept_ok, hrun,
          run_sessionUpdate, run_record, EStateM.run_pure]
        exact .signed user row created hrow hwants hemail hsigned htime
      · exact challenge_outcome env user hrow hwants hemail hsigned htime
  · have hrun : (secondFactor conf clock env u row).run (afterVerdict clock w u true) =
        .ok none (afterVerdict clock w u true) := run_secondFactor_of_not_wants hwants
    simp only [registeredAttempt, htime, EStateM.run_bind, run_ofExcept_ok, hrun,
      run_sessionUpdate, run_record, EStateM.run_pure]
    exact .passed user row created hrow hwants htime

/-- A user without a row, and a wrong password: the row is inserted with one attempt. -/
theorem run_firstAttempt_rejected {w : World} {u : String} {userRecord : UserRecord}
    {now : DateTime} (hrow : w.spassword u = none) (huser : w.users u = some userRecord) :
    (firstAttempt conf u none now).run w = .error (.spasswordUnauthorized invalidMessage)
      ((w.setRow u (some (firstRow (userRecord.toUser u) now none))).note
        (.rowRegistered u now.wall)) := by
  have hinsert : (sessionInsert (firstRow (userRecord.toUser u) now none)).run w = _ :=
    run_sessionInsert w hrow
  simp only [firstAttempt, EStateM.run_bind, run_getUser_some w huser, hinsert, run_record,
    run_throw]
  rfl

/-- A user without a row, and a correct password: the row is inserted and the login goes
through. -/
theorem run_firstAttempt_accepted {w : World} {u : String} {userRecord : UserRecord}
    {user : User} {now : DateTime} (hrow : w.spassword u = none)
    (huser : w.users u = some userRecord) :
    (firstAttempt conf u (some user) now).run w = .ok ⟨user, some (firstExtras conf u now)⟩
      (((w.setRow u (some (firstRow (userRecord.toUser u) now (some user)))).note
        (.rowRegistered u now.wall)).note (.token u (firstExtras conf u now))) := by
  have hinsert : (sessionInsert (firstRow (userRecord.toUser u) now (some user))).run w = _ :=
    run_sessionInsert w hrow
  simp only [firstAttempt, EStateM.run_bind, run_getUser_some w huser, hinsert, run_record,
    EStateM.run_pure]
  rfl

/-- A wrong password on an existing row: the counter grows by one and the attempt is dated. -/
theorem run_registeredAttempt_rejected {env : AuthEnv} {w : World} {u : String}
    {row : SPasswordModel} {now : DateTime} (htime : row.creationTime.isSome = true)
    (hrow : w.spassword u = some row) :
    (registeredAttempt conf clock env u row none now).run w =
      .error (.spasswordUnauthorized invalidMessage) (w.setRow u (some
        { row with
          loginAttempts := row.loginAttempts + 1
          lastLoginAttemptTime := some now })) := by
  obtain ⟨created, hcreated⟩ := Option.isSome_iff_exists.mp htime
  simp [registeredAttempt, hcreated, normalizeDbDate_some, hrow]

/-- What the second part of a login looks at. -/
theorem run_attempt (henabled : conf.enabled = true) (env : AuthEnv) (w : World) (u : String)
    (res : Option User) :
    (attempt conf clock env u res).run w =
      (recordAttempt conf clock env u (w.spassword u) res (.utc (clock w.ticks))).run
        (afterVerdict clock w u res.isSome) := by
  simp [attempt, henabled, afterVerdict]

theorem run_attempt_of_row (henabled : conf.enabled = true) {env : AuthEnv} {w : World} {u : String}
    {row : SPasswordModel} (hrow : w.spassword u = some row) (res : Option User) :
    (attempt conf clock env u res).run w =
      (registeredAttempt conf clock env u row res (.utc (clock w.ticks))).run
        (afterVerdict clock w u res.isSome) := by
  rw [run_attempt henabled, hrow, recordAttempt]

/-- **`attempt` does one of eleven things.** -/
theorem attempt_outcome (henabled : conf.enabled = true) (env : AuthEnv) (w : World)
    (u : String) (res : Option User) :
    AttemptOutcome conf clock env w u res ((attempt conf clock env u res).run w) := by
  rw [run_attempt henabled]
  cases hrow : w.spassword u with
  | none =>
    cases huser : w.users u with
    | none =>
      have hrun' : (firstAttempt conf u res (.utc (clock w.ticks))).run
          (afterVerdict clock w u res.isSome) =
            .error (.userNotFound u) (afterVerdict clock w u res.isSome) := by
        simp [firstAttempt, run_getUser_none _ (show (afterVerdict clock w u res.isSome).users u =
          none from huser)]
      rw [recordAttempt, hrun']
      exact .lost res (.userNotFound u) 0 (.inl huser)
    | some userRecord =>
      cases res with
      | none =>
        rw [recordAttempt, run_firstAttempt_rejected (w := afterVerdict clock w u _) hrow huser]
        exact .firstRejected userRecord hrow huser
      | some user =>
        rw [recordAttempt, run_firstAttempt_accepted (w := afterVerdict clock w u _) hrow huser]
        exact .firstAccepted user userRecord hrow huser
  | some row =>
    cases htime : row.creationTime with
    | none =>
      have hrun' : (registeredAttempt conf clock env u row res (.utc (clock w.ticks))).run
          (afterVerdict clock w u res.isSome) =
            .error (.attributeError "tzinfo") (afterVerdict clock w u res.isSome) := by
        simp [registeredAttempt, htime, normalizeDbDate_none]
      rw [recordAttempt, hrun']
      exact .lost res (.attributeError "tzinfo") 0 (.inr ⟨row, hrow, htime⟩)
    | some created =>
      cases res with
      | none =>
        rw [recordAttempt, run_registeredAttempt_rejected (w := afterVerdict clock w u _)
          (by rw [htime]; rfl) hrow]
        exact .rejected row hrow (by rw [htime]; simp)
      | some user =>
        have hcreated : normalizeDbDate row.creationTime = .ok { created with tzinfo := none } := by
          rw [htime, normalizeDbDate_some]
        exact acceptedAttempt_outcome env user hrow hcreated

/-- **How `authenticate` ends**: before the verdict, without a write, or after it. -/
theorem authenticate_cases (henabled : conf.enabled = true) (env : AuthEnv) (w : World)
    (u password : String) :
    (∃ e w', (authenticate conf clock env u password).run w = .error e w' ∧
      VerdictOutcome conf clock w u (.error e w')) ∨
    ∃ res n, ¬ LockedOut conf clock w u ∧
      (verdict conf clock env u password).run w = .ok res (w.ticked n) ∧
      AttemptOutcome conf clock env (w.ticked n) u res
        ((authenticate conf clock env u password).run w) := by
  have houtcome : VerdictOutcome conf clock w u ((verdict conf clock env u password).run w) :=
    verdict_outcome henabled env w u password
  rw [authenticate, EStateM.run_bind]
  cases hrun : (verdict conf clock env u password).run w with
  | error e w' =>
    rw [hrun] at houtcome
    exact .inl ⟨e, w', rfl, houtcome⟩
  | ok res w' =>
    rw [hrun] at houtcome
    cases houtcome with
    | answered _ n hfree =>
      exact .inr ⟨res, n, hfree, rfl, attempt_outcome henabled env (w.ticked n) u res⟩

end Identity

/-- `already_sndfa_signed` on a row that has been validated. -/
theorem SPassword.run_alreadySndfaSigned {w : World} {u : String} {row : SPasswordModel}
    {last : DateTime} (hrow : w.spassword u = some row) (hsndfa : row.sndfa = true)
    (hemail : row.sndfaEmail = true) (hlast : row.sndfaLast = some last) :
    (alreadySndfaSigned conf clock u).run w =
      .ok (decide (last.wall < clock w.ticks + conf.window)) w.tick := by
  simp [alreadySndfaSigned, hrow, hsndfa, hemail, hlast, normalizeDbDate_some, DateTime.lt_def]
  rfl

/-- `get_pwd_expiration` on a row. -/
theorem SPassword.run_getPwdExpiration {w : World} {u : String} {row : SPasswordModel}
    {created : DateTime} (hrow : w.spassword u = some row)
    (htime : normalizeDbDate row.creationTime = .ok created) :
    (getPwdExpiration conf u).run w = .ok (some (created.add (days conf.pwdExpDays))) w := by
  simp [getPwdExpiration, hrow, htime]

end KeystoneSpassword
