import KeystoneSpassword.ResourceOutcomes

/-!
# The extension as a machine of small moves

An abstract view of what the operations do to one user: read the clock, note something, change
the user's record, and a dozen ways of writing the row. `Move` lists them with the guards under
which they happen, and `step_moves` says that every call of the system is a sequence of moves on
the user it names. A statement that every move keeps is then a statement about every reachable
state.

## What a move is not

The moves forget in which call they happen and what it answers. The two things that matter
across moves of one call are kept in the guards: a second-factor code is stored directly after a
verdict, and the code that recovers a password is issued and confirmed in one move, on a row
whose email is verified.

## The environment

Some calls leave a choice to the environment that the extension does not check: the record
Keystone stores for a user, and the code a client presents. `Policy` restricts these choices, and
the events that may be noted. A call is compared with a policy through `Op.Allowed`, and
`Policy.any` restricts nothing. `Op.Notes` is the other end: the events a call can note at all.

## Main definitions

* `Policy`, `Move`, `Moves`
* `Op.Notes`, `Op.Allowed`

## Main results

* `step_moves` — a call is a sequence of moves on the user it names
-/

namespace KeystoneSpassword

open StateProgram Relation

/-! ### Moves -/

/-- The last clock reading gave `t`. -/
def World.JustRead (w : World) (clock : ℕ → Time) (t : Time) : Prop :=
  ∃ n, w.ticks = n + 1 ∧ t = clock n

theorem World.justRead_tick (w : World) (clock : ℕ → Time) :
    w.tick.JustRead clock (clock w.ticks) := ⟨w.ticks, rfl, rfl⟩

/-- What the environment may do that the extension does not check. -/
structure Policy where
  /-- Keystone may store this record for the user, or remove the user -/
  stores : World → String → Option UserRecord → Prop
  /-- a client may present this code for the user's email -/
  presents : World → String → String → Prop
  /-- the event may be noted -/
  notes : Event → Prop

/-- No restriction. -/
def Policy.any : Policy := ⟨fun _ _ _ => True, fun _ _ _ => True, fun _ => True⟩

/-- An event that goes with no write of a row. -/
def Event.Inert : Event → Prop
  | .passwordSet _ | .blocked _ _ | .expired _ _ | .baseVerdict _ _ _ | .token _ _
  | .mailed _ _ _ => True
  | .rowCreated _ _ | .rowTouched _ _ | .rowRegistered _ _ | .userDeleted _ | .sndfaIssued _ _ _
  | .sndfaAccepted _ _ _ _ | .sndfaModified _ _ | .blackModified _ _ | .emailCodeIssued _ _ _
  | .emailCodeChecked _ _ _ | .passwordReset _ _ _ => False

/-- One move on the user `u`. -/
inductive Move (clock : ℕ → Time) (policy : Policy) (u : String) : World → World → Prop
  /-- the clock is read -/
  | tick (w : World) : Move clock policy u w w.tick
  /-- something is noted -/
  | noted (w : World) (e : Event) (huser : e.userId = u) (hinert : e.Inert)
      (htime : ∀ t, e.time? = some t → w.JustRead clock t) (hnotes : policy.notes e) :
      Move clock policy u w (w.note e)
  /-- Keystone stores a record -/
  | recordStored (w : World) (userRecord : UserRecord) (h : policy.stores w u (some userRecord)) :
      Move clock policy u w (w.setUser u (some userRecord))
  /-- Keystone stores a password -/
  | passwordStored (w : World) (userRecord : UserRecord) (password : String)
      (h : w.users u = some userRecord) :
      Move clock policy u w (w.setUser u (some { userRecord with password }))
  /-- Keystone removes the user, and the deleted event removes the row -/
  | userRemoved (w : World) (h : policy.stores w u none) (hnotes : policy.notes (.userDeleted u)) :
      Move clock policy u w (((w.setUser u none).setRow u none).note (.userDeleted u))
  /-- Keystone removes a user that has no row -/
  | userDropped (w : World) (h : policy.stores w u none) (hrow : w.spassword u = none) :
      Move clock policy u w (w.setUser u none)
  /-- a created or updated event inserts the row -/
  | rowCreated (w : World) (user : User) (t : Time) (hid : user.id = u)
      (hrow : w.spassword u = none) (huser : w.users u ≠ none) (ht : w.JustRead clock t)
      (hnotes : policy.notes (.rowCreated u t)) :
      Move clock policy u w
        ((w.setRow u (some (SPassword.newRow user (.utc t)))).note (.rowCreated u t))
  /-- a created or updated event resets the row -/
  | rowTouched (w : World) (row : SPasswordModel) (t : Time) (hrow : w.spassword u = some row)
      (ht : w.JustRead clock t) (hnotes : policy.notes (.rowTouched u t)) :
      Move clock policy u w
        ((w.setRow u (some { row with creationTime := some (.utc t), loginAttempts := 0 })).note
          (.rowTouched u t))
  /-- a login inserts the row -/
  | rowRegistered (w : World) (user : User) (res : Option User) (t : Time) (hid : user.id = u)
      (hrow : w.spassword u = none) (huser : w.users u ≠ none) (ht : w.JustRead clock t)
      (hnotes : policy.notes (.rowRegistered u t)) :
      Move clock policy u w
        ((w.setRow u (some (Identity.firstRow user (.utc t) res))).note (.rowRegistered u t))
  /-- a login writes the counter and the date of the attempt, once the base driver has answered -/
  | attemptStored (w : World) (row : SPasswordModel) (attempts : ℤ) (t : Time)
      (hrow : w.spassword u = some row)
      (hattempts : attempts = row.loginAttempts + 1 ∨ attempts = 0)
      (hnotes : ∀ t accepted, policy.notes (.baseVerdict u t accepted)) :
      Move clock policy u w (w.setRow u (some
        { row with loginAttempts := attempts, lastLoginAttemptTime := some (.utc t) }))
  /-- a login stores a second-factor code, directly after the base driver accepted -/
  | sndfaIssued (w : World) (row : SPasswordModel) (code : ShortCode) (t tv : Time)
      (older : List Event) (hrow : w.spassword u = some row) (hsndfa : row.sndfa = true)
      (hemail : row.sndfaEmail = true) (hverdict : w.log = .baseVerdict u tv true :: older)
      (ht : w.JustRead clock t) (hnotes : policy.notes (.sndfaIssued u code.code t)) :
      Move clock policy u w
        ((w.setRow u (some (Identity.withCode row code.code t))).note (.sndfaIssued u code.code t))
  /-- a second-factor code is accepted -/
  | sndfaAccepted (w : World) (row : SPasswordModel) (code : String) (t : Time)
      (hrow : w.spassword u = some row) (hsndfa : row.sndfa = true)
      (hemail : row.sndfaEmail = true) (hcode : row.sndfaCode = some code)
      (ht : w.JustRead clock t) (hnotes : policy.notes (.sndfaAccepted u code t row)) :
      Move clock policy u w
        ((w.setRow u (some { row with sndfaLast := some (.utc t) })).note
          (.sndfaAccepted u code t row))
  /-- the second factor is switched -/
  | sndfaModified (w : World) (row : SPasswordModel) (enable : Bool)
      (hrow : w.spassword u = some row) (hemail : row.sndfaEmail = true)
      (hnotes : policy.notes (.sndfaModified u enable)) :
      Move clock policy u w
        ((w.setRow u (some { row with sndfa := enable })).note (.sndfaModified u enable))
  /-- the blacklist flag is stored -/
  | blackModified (w : World) (row : SPasswordModel) (enable : Bool)
      (hrow : w.spassword u = some row) (hnotes : policy.notes (.blackModified u enable)) :
      Move clock policy u w
        ((w.setRow u (some { row with extra := [("black", pyStr enable)] })).note
          (.blackModified u enable))
  /-- an email code is stored, and the email becomes unverified -/
  | emailCodeIssued (w : World) (row : SPasswordModel) (code : ShortCode) (origin : CodeOrigin)
      (hrow : w.spassword u = some row) (horigin : origin ≠ .recover)
      (hnotes : policy.notes (.emailCodeIssued u code.code origin)) :
      Move clock policy u w
        ((w.setRow u (some (SPasswordResource.withEmailCode row code.code))).note
          (.emailCodeIssued u code.code origin))
  /-- a recovery of a verified user stores an email code and confirms it -/
  | recovered (w : World) (row : SPasswordModel) (code : ShortCode)
      (hrow : w.spassword u = some row) (hemail : row.sndfaEmail = true)
      (hissue : policy.notes (.emailCodeIssued u code.code .recover))
      (hcheck : policy.notes (.emailCodeChecked u code.code true)) :
      Move clock policy u w (SPasswordResource.recoveredState w u row code.code)
  /-- an email code is presented and compared -/
  | emailCodeChecked (w : World) (row : SPasswordModel) (code : String)
      (hrow : w.spassword u = some row) (hstored : truthy row.sndfaEmailCode = true)
      (hpresents : row.sndfaEmailCode = some code → policy.presents w u code)
      (hnotes : ∀ matched, policy.notes (.emailCodeChecked u code matched)) :
      Move clock policy u w
        ((w.setRow u (some
          { row with sndfaEmail := decide (row.sndfaEmailCode = some code) })).note
            (.emailCodeChecked u code (decide (row.sndfaEmailCode = some code))))
  /-- a password was reset with the stored code -/
  | passwordReset (w : World) (row : SPasswordModel) (code password : String)
      (hrow : w.spassword u = some row) (hcode : row.sndfaEmailCode = some code)
      (hnotes : policy.notes (.passwordReset u code password)) :
      Move clock policy u w (w.note (.passwordReset u code password))

/-- Moves on the user `u`. -/
abbrev Moves (clock : ℕ → Time) (policy : Policy) (u : String) : World → World → Prop :=
  ReflTransGen (Move clock policy u)

/-! ### Which events a call notes -/

/-- The events of a delivered created or updated event. -/
def Event.OfUserEvent (u : String) : Event → Prop
  | .rowCreated v _ | .rowTouched v _ => v = u
  | _ => False

/-- The events of a login that would store `code`. -/
def Event.OfLogin (u code : String) : Event → Prop
  | .blocked v _ | .expired v _ | .baseVerdict v _ _ | .token v _ | .rowRegistered v _
  | .mailed v _ _ => v = u
  | .sndfaIssued v c _ => v = u ∧ c = code
  | _ => False

/-- The events of a request for an email code. -/
def Event.OfEmailAsk (u : String) (origin : CodeOrigin) : Event → Prop
  | .emailCodeIssued v _ o => v = u ∧ o = origin
  | .mailed v _ _ => v = u
  | _ => False

/-- The events of a presented email code. -/
def Event.OfEmailCheck (u code : String) : Event → Prop
  | .emailCodeChecked v c _ => v = u ∧ c = code
  | _ => False

/-- The events of a recovery. -/
def Event.OfRecovery (u : String) : Event → Prop
  | .emailCodeIssued v _ o => v = u ∧ o = .recover
  | .emailCodeChecked v _ matched => v = u ∧ matched = true
  | .mailed v _ _ => v = u
  | _ => False

/-- The events of a reset with `code`. -/
def Event.OfReset (u code : String) : Event → Prop
  | .emailCodeChecked v c _ | .passwordReset v c _ => v = u ∧ c = code
  | .passwordSet v | .rowTouched v _ | .mailed v _ _ => v = u
  | _ => False

/-- The events of a presented second-factor code. -/
def Event.OfSndfaCheck (u code : String) : Event → Prop
  | .sndfaAccepted v c _ _ => v = u ∧ c = code
  | _ => False

/-- The events a request can note. -/
def Request.Notes : Request → Event → Prop
  | .recoverPassword u _ _, e => e.OfRecovery u
  | .resetPassword u code _ _ _, e => e.OfReset u code
  | .modifySndfa u _ _, e => ∃ enable, e = .sndfaModified u enable
  | .checkSndfaCode u code, e => e.OfSndfaCheck u code
  | .askForCheckEmailCode u _ _ _, e => e.OfEmailAsk u .checkemail
  | .checkEmailCode u code, e => e.OfEmailCheck u code
  | .modifyBlack u _ _, e => ∃ enable, e = .blackModified u enable
  | .getSndfa _ _, _ | .getBlack _ _, _ => False

/-- The events a call can note. -/
def Op.Notes (conf : Conf) : Op → Event → Prop
  | .createUser u _, e | .updateUser u _, e =>
    e = .passwordSet u ∨ conf.enabled = true ∧ e.OfUserEvent u
  | .deleteUser u, e => conf.enabled = true ∧ e = .userDeleted u
  | .authenticate u _ env, e => conf.enabled = true ∧ e.OfLogin u env.uuid.code
  | .userModifySndfa u enable, e => e = .sndfaModified u enable
  | .userAskCheckEmailCode u _, e => e.OfEmailAsk u .manager
  | .userCheckEmailCode u code, e => e.OfEmailCheck u code
  | .userCheckSndfaCode u code, e => e.OfSndfaCheck u code
  | .userModifyBlack u enable, e => e = .blackModified u enable
  | .request r, e => r.Notes e
  | .userGetSndfa _, _ | .alreadyUserCheckEmail _, _ | .userGetBlack _, _
  | .userGetPwdExpiration _, _ => False

/-! ### Programs as moves -/

section Programs

variable {conf : Conf} {clock : ℕ → Time} {policy : Policy} {u : String}

/-- An inert event without a date may be noted at any moment. -/
theorem Move.undated (w : World) (e : Event) (huser : e.userId = u) (hinert : e.Inert)
    (htime : e.time? = none) (hnotes : policy.notes e) : Move clock policy u w (w.note e) :=
  .noted w e huser hinert (fun t ht => by rw [htime] at ht; cases ht) hnotes

theorem moves_note {e : Event} (huser : e.userId = u) (hinert : e.Inert)
    (htime : e.time? = none) (hnotes : policy.notes e) :
    Within (Moves clock policy u) (record e) :=
  fun w => .single (.undated w e huser hinert htime hnotes)

theorem moves_sendEmail (server : SmtpServer) (mail : Mail)
    (hnotes : ∀ handed, policy.notes (.mailed u mail handed)) :
    Within (Moves clock policy u) (SendMail.sendEmail conf server u mail) := by
  have hnote : Within (Moves clock policy u)
      (record (.mailed u mail (SendMail.delivery conf server mail.dest).1)) :=
    moves_note rfl trivial rfl (hnotes _)
  exact hnote.bind fun _ => (reads_ofExcept _).within

/-! ### The driver -/

/-- A created or updated event for an existing user. -/
theorem moves_stampCreationTime {w : World} (user : User) (hid : user.id = u)
    (huser : w.users u ≠ none) (hnotes : ∀ e : Event, e.OfUserEvent u → policy.notes e) :
    Moves clock policy u w (final (SPassword.stampCreationTime clock user) w) := by
  subst hid
  cases hrow : w.spassword user.id with
  | none =>
    rw [final_of_run_ok (run_stampCreationTime_of_no_row hrow)]
    exact .tail (.single (.tick w))
      (.rowCreated w.tick user (clock w.ticks) rfl hrow huser (w.justRead_tick clock)
        (hnotes _ rfl))
  | some row =>
    rw [final_of_run_ok (run_stampCreationTime_of_row hrow)]
    exact .tail (.single (.tick w))
      (.rowTouched w.tick row (clock w.ticks) hrow (w.justRead_tick clock) (hnotes _ rfl))

theorem moves_modifySndfa (enable : Bool) (hnotes : policy.notes (.sndfaModified u enable)) :
    Within (Moves clock policy u) (SPassword.modifySndfa u enable) := by
  intro w
  cases hrow : w.spassword u with
  | none => simp [final, SPassword.modifySndfa, hrow, ReflTransGen.refl]
  | some row =>
    cases hemail : row.sndfaEmail with
    | false => simp [final, SPassword.modifySndfa, hrow, hemail, ReflTransGen.refl]
    | true =>
      have hfinal : final (SPassword.modifySndfa u enable) w =
          (w.setRow u (some { row with sndfa := enable })).note (.sndfaModified u enable) := by
        simp [final, SPassword.modifySndfa, hrow, hemail]
      rw [hfinal]
      exact .single (.sndfaModified w row enable hrow hemail hnotes)

theorem moves_checkSndfaCode (code : String)
    (hnotes : ∀ e : Event, e.OfSndfaCheck u code → policy.notes e) :
    Within (Moves clock policy u) (SPassword.checkSndfaCode clock u code) := by
  intro w
  cases hrow : w.spassword u with
  | none => simp [final, SPassword.checkSndfaCode, hrow, ReflTransGen.refl]
  | some row =>
    by_cases hcheck : SPassword.Acceptable row code
    · rw [final_of_run_ok (SPassword.run_checkSndfaCode_of_match hrow hcheck)]
      obtain ⟨hsndfa, hemail, hcode⟩ := hcheck
      exact .tail (.single (.tick w)) (.sndfaAccepted w.tick row code (clock w.ticks) hrow hsndfa
        hemail hcode (w.justRead_tick clock) (hnotes _ ⟨rfl, rfl⟩))
    · have hmismatch : ∀ row', w.spassword u = some row' → ¬ SPassword.Acceptable row' code := by
        intro row' hrow'
        rw [hrow] at hrow'
        cases hrow'
        exact hcheck
      rw [final_of_run_ok (SPassword.run_checkSndfaCode_of_mismatch hmismatch)]

theorem moves_modifyBlack (enable : Bool) (hnotes : policy.notes (.blackModified u enable)) :
    Within (Moves clock policy u) (SPassword.modifyBlack u enable) := by
  intro w
  cases hrow : w.spassword u with
  | none => simp [final, SPassword.modifyBlack, hrow, ReflTransGen.refl]
  | some row =>
    have hfinal : final (SPassword.modifyBlack u enable) w =
        (w.setRow u (some { row with extra := [("black", pyStr enable)] })).note
          (.blackModified u enable) := by
      simp [final, SPassword.modifyBlack, hrow]
    rw [hfinal]
    exact .single (.blackModified w row enable hrow hnotes)

/-- A request for an email code that does not come from a recovery. -/
theorem moves_userAskCheckEmailCode {origin : CodeOrigin} (horigin : origin ≠ .recover)
    (uuid : ShortCode) (hnotes : policy.notes (.emailCodeIssued u uuid.code origin)) :
    Within (Moves clock policy u) (SPasswordManager.userAskCheckEmailCode origin u uuid) := by
  intro w
  cases hrow : w.spassword u with
  | none =>
    simp [final, SPasswordManager.userAskCheckEmailCode, SPassword.run_alreadyEmailChecked,
      SPassword.setCheckEmailCode, hrow, ReflTransGen.refl]
  | some row =>
    rw [final_of_run_ok (SPasswordResource.run_userAskCheckEmailCode hrow origin uuid)]
    exact .single (.emailCodeIssued w row uuid origin hrow horigin hnotes)

/-- A code is presented. The policy is asked only when the code is the stored one. -/
theorem moves_checkEmailCode {w : World} (code : String) (hpresents : ∀ row,
    w.spassword u = some row → row.sndfaEmailCode = some code → policy.presents w u code)
    (hnotes : ∀ matched, policy.notes (.emailCodeChecked u code matched)) :
    Moves clock policy u w (final (SPassword.checkEmailCode u code) w) := by
  by_cases hset : ∃ row, w.spassword u = some row ∧ truthy row.sndfaEmailCode = true
  · obtain ⟨row, hrow, hset⟩ := hset
    rw [final_of_run_ok (SPassword.run_checkEmailCode_of_set hrow hset)]
    exact .single (.emailCodeChecked w row code hrow hset (hpresents row hrow) hnotes)
  · have hunset : ∀ row, w.spassword u = some row → truthy row.sndfaEmailCode = false :=
      fun row hrow => Bool.eq_false_iff.mpr fun h => hset ⟨row, hrow, h⟩
    rw [final_of_run_ok (SPassword.run_checkEmailCode_of_unset hunset)]

/-! ### Keystone's users -/

/-- The delivery of a created or updated event. -/
theorem moves_userEvent
    (hnotes : conf.enabled = true → ∀ e : Event, e.OfUserEvent u → policy.notes e) :
    Within (Moves clock policy u) (getUser u >>= fun user =>
      if conf.enabled then SPassword.stampCreationTime clock user else pure ()) := by
  intro w
  rcases (reads_getUser u).bind_cases _ w with ⟨e, -, h⟩ | ⟨user, hrun, h⟩
  · rw [final_of_run_error h]
  · rw [final_congr h]
    by_cases henabled : conf.enabled = true
    · have huser : user.id = u ∧ w.users u ≠ none := by
        cases hrecord : w.users u with
        | none => rw [run_getUser_none w hrecord] at hrun; cases hrun
        | some userRecord =>
          rw [run_getUser_some w hrecord] at hrun
          cases hrun
          simp [UserRecord.toUser]
      rw [if_pos henabled]
      exact moves_stampCreationTime user huser.1 huser.2 (hnotes henabled)
    · rw [if_neg henabled]
      exact .refl

theorem moves_createUser {w : World} {userRecord : UserRecord}
    (hstores : policy.stores w u (some userRecord)) (hset : policy.notes (.passwordSet u))
    (hnotes : conf.enabled = true → ∀ e : Event, e.OfUserEvent u → policy.notes e) :
    Moves clock policy u w (final (IdentityApi.createUser conf clock u userRecord) w) := by
  have hnote : Within (Moves clock policy u) (record (.passwordSet u)) :=
    moves_note rfl trivial rfl hset
  refine .head (.recordStored w userRecord hstores) ?_
  exact hnote.bind (fun _ => moves_userEvent hnotes) (w.setUser u (some userRecord))

theorem moves_recordChanged {w : World} {old new : UserRecord}
    (hstored : Move clock policy u w (w.setUser u (some new)))
    (hnotes : policy.notes (.passwordSet u)) :
    Moves clock policy u w (recordChanged w u old new) := by
  rw [recordChanged]
  split_ifs
  · exact .tail (.single hstored) (.undated _ (.passwordSet u) rfl trivial rfl hnotes)
  · exact .single hstored

/-- An update, whose change of the record is a move. -/
theorem moves_updateUser {w : World} {change : UserRecord → UserRecord}
    (hchange : ∀ old, w.users u = some old →
      Move clock policy u w (w.setUser u (some (change old))))
    (hset : policy.notes (.passwordSet u))
    (hnotes : conf.enabled = true → ∀ e : Event, e.OfUserEvent u → policy.notes e) :
    Moves clock policy u w (final (IdentityApi.updateUser conf clock u change) w) := by
  cases huser : w.users u with
  | none => simp [final, IdentityApi.updateUser, huser, ReflTransGen.refl]
  | some old =>
    rw [final_congr (run_updateUser huser change)]
    exact (moves_recordChanged (hchange old huser) hset).trans (moves_userEvent hnotes _)

/-- The deletion of a user: with the extension on it takes the row along, and with the extension
off it is a move only when there is no row. -/
theorem moves_deleteUser {w : World} (hon : conf.enabled = true ∨ w.spassword u = none)
    (hstores : policy.stores w u none)
    (hnotes : conf.enabled = true → policy.notes (.userDeleted u)) :
    Moves clock policy u w (final (IdentityApi.deleteUser conf u) w) := by
  by_cases henabled : conf.enabled = true
  · rw [final_deleteUser henabled]
    exact .single (.userRemoved w hstores (hnotes henabled))
  · have hfinal : final (IdentityApi.deleteUser conf u) w = w.setUser u none := by
      simp [final, IdentityApi.deleteUser, SPasswordManager.userDeletedCallback, henabled]
    rw [hfinal]
    exact .single (.userDropped w hstores (hon.resolve_left henabled))

/-! ### The handlers -/

theorem moves_recoverPassword (uuid : ShortCode) (server : SmtpServer)
    (hnotes : ∀ e : Event, e.OfRecovery u → policy.notes e) :
    Within (Moves clock policy u) (SPasswordResource.recoverPassword conf uuid server u) := by
  intro w
  rcases SPasswordResource.recoverPassword_cases conf w u uuid server with
    ⟨e, he⟩ | ⟨userRecord, address, row, h⟩
  · rw [final_of_run_error he]
  · rw [final_congr (SPasswordResource.run_recoverPassword_of_recoverable h uuid server)]
    obtain ⟨-, -, -, -, hrow, hemail⟩ := h
    refine .head (.recovered w row uuid hrow hemail (hnotes _ ⟨rfl, rfl⟩) (hnotes _ ⟨rfl, rfl⟩)) ?_
    exact ((moves_sendEmail server _ fun _ => hnotes _ rfl).bind fun _ => within_pure _) _

/-- After a match, a reset stores the password, delivers the updated event, and is noted. -/
theorem moves_resetState {w : World} {userRecord : UserRecord} {row : SPasswordModel}
    {code password : String} (huser : w.users u = some userRecord)
    (hrow : w.spassword u = some row) (hcode : row.sndfaEmailCode = some code)
    (hnotes : ∀ e : Event, e.OfReset u code → policy.notes e) :
    Moves clock policy u w
      (SPasswordResource.resetState clock w u userRecord row code password) := by
  have hchanged : Moves clock policy u w
      (recordChanged w u userRecord { userRecord with password }) :=
    moves_recordChanged (.passwordStored w userRecord password huser) (hnotes _ rfl)
  have htouched := (hchanged.tail (.tick _)).tail (.rowTouched _ row
    (clock (recordChanged w u userRecord { userRecord with password }).ticks)
    (by simpa using hrow) (World.justRead_tick _ clock) (hnotes _ rfl))
  exact htouched.tail
    (.passwordReset _ _ code password (Function.update_self ..) hcode (hnotes _ ⟨rfl, rfl⟩))

/-- A reset is a check of the code, and after a match and without a fault an update and a mail. -/
theorem moves_resetPassword {w : World} (hon : conf.enabled = true ∨ w.spassword u = none)
    (code : String)
    (newPassword : NewPassword) (fault : Option PyExc) (server : SmtpServer)
    (hpresents : ∀ row, w.spassword u = some row → row.sndfaEmailCode = some code →
      policy.presents w u code) (hnotes : ∀ e : Event, e.OfReset u code → policy.notes e) :
    Moves clock policy u w
      (final (SPasswordResource.resetPassword conf clock newPassword fault server u code) w) := by
  have hmoves : Moves clock policy u w (final (SPassword.checkEmailCode u code) w) :=
    moves_checkEmailCode code hpresents fun _ => hnotes _ ⟨rfl, rfl⟩
  have hconfirmed : ∀ {row : SPasswordModel}, w.spassword u = some row →
      row.sndfaEmailCode = some code → code ≠ "" →
        Moves clock policy u w (SPasswordResource.confirmedState w u row code) := by
    intro row hrow hcode hne
    rwa [final_of_run_ok (SPassword.run_checkEmailCode_of_match hrow hcode hne)] at hmoves
  have hreset : ∀ {userRecord : UserRecord} {row : SPasswordModel}, w.users u = some userRecord →
      w.spassword u = some row → row.sndfaEmailCode = some code → code ≠ "" →
        Moves clock policy u w (SPasswordResource.resetState clock
          (SPasswordResource.confirmedState w u row code) u userRecord
            { row with sndfaEmail := true } code newPassword.password) := by
    intro userRecord row huser hrow hcode hne
    refine (hconfirmed hrow hcode hne).trans ?_
    exact moves_resetState (w := SPasswordResource.confirmedState w u row code) huser
      (Function.update_self ..) hcode hnotes
  have houtcome : SPasswordResource.ResetOutcome clock w u code newPassword.password fault
      (final (SPasswordResource.resetPassword conf clock newPassword fault server u code) w) :=
    SPasswordResource.resetPassword_outcome hon code newPassword fault server
  generalize final (SPasswordResource.resetPassword conf clock newPassword fault server u code) w
    = w' at houtcome
  cases houtcome with
  | nobody huser => exact .refl
  | refused userRecord huser hcode => exact hmoves
  | faulted userRecord row huser hrow hcode hne hfault => exact hconfirmed hrow hcode hne
  | reset userRecord row huser hrow hcode hne hfault =>
    exact hreset huser hrow hcode hne
  | mailed userRecord row mail handed huser hrow hcode hne hfault =>
    refine .tail (hreset huser hrow hcode hne) ?_
    exact .undated _ (.mailed u mail handed) rfl trivial rfl (hnotes _ rfl)

/-! ### Logins -/

theorem moves_ticked (w : World) (n : ℕ) : Moves clock policy u w (w.ticked n) := by
  induction n with
  | zero => exact .refl
  | succ n ih => exact ih.tail (.tick (w.ticked n))

theorem moves_afterVerdict (w : World) (accepted : Bool)
    (hnotes : ∀ t, policy.notes (.baseVerdict u t accepted)) :
    Moves clock policy u w (Identity.afterVerdict clock w u accepted) := by
  refine .tail (.single (.tick w)) (.noted _ (.baseVerdict u (clock w.ticks) accepted) rfl
    trivial (fun t ht => ?_) (hnotes _))
  cases ht
  exact w.justRead_tick clock

theorem moves_clearAttempts (w : World) {row : SPasswordModel} (hrow : w.spassword u = some row)
    (t : Time) (hnotes : ∀ t accepted, policy.notes (.baseVerdict u t accepted)) :
    Moves clock policy u w (Identity.clearAttempts w u t) := by
  rw [Identity.clearAttempts, hrow]
  exact .single (.attemptStored w row 0 t hrow (.inr rfl) hnotes)

/-- Getting a code ready, directly after an accepted password. The row stays. -/
theorem moves_codeReady {uuid : ShortCode} {row : SPasswordModel} {w w' : World} {code : String}
    {n : ℕ} (hrow : w.spassword u = some row) (hsndfa : row.sndfa = true)
    (hemail : row.sndfaEmail = true)
    (hcode : Identity.CodeReady conf clock uuid u row
      ((Identity.afterVerdict clock w u true).ticked n) code w')
    (hnotes : ∀ e : Event, e.OfLogin u uuid.code → policy.notes e) :
    Moves clock policy u w w' ∧ ∃ row', w'.spassword u = some row' := by
  have hverdict : Moves clock policy u w ((Identity.afterVerdict clock w u true).ticked n) :=
    (moves_afterVerdict w true fun _ => hnotes _ rfl).trans (moves_ticked _ n)
  cases hcode with
  | reused hfresh => exact ⟨hverdict.tail (.tick _), row, hrow⟩
  | issued m hstale =>
    refine ⟨?_, _, Function.update_self ..⟩
    refine (hverdict.trans (moves_ticked _ (m + 1))).tail ?_
    exact .sndfaIssued _ row uuid _ (clock w.ticks) w.log hrow hsndfa hemail rfl ⟨_, rfl, rfl⟩
      (hnotes _ ⟨rfl, rfl⟩)

theorem moves_attempt (henabled : conf.enabled = true) (env : AuthEnv) (res : Option User)
    (hnotes : ∀ e : Event, e.OfLogin u env.uuid.code → policy.notes e) :
    Within (Moves clock policy u) (Identity.attempt conf clock env u res) := by
  intro w
  have houtcome : Identity.AttemptOutcome conf clock env w u res
      ((Identity.attempt conf clock env u res).run w) :=
    Identity.attempt_outcome henabled env w u res
  rw [final]
  generalize (Identity.attempt conf clock env u res).run w = result at houtcome
  have hverdict : Moves clock policy u w (Identity.afterVerdict clock w u res.isSome) :=
    moves_afterVerdict w res.isSome fun _ => hnotes _ rfl
  have hverdicts : ∀ t accepted, policy.notes (.baseVerdict u t accepted) :=
    fun t accepted => hnotes _ rfl
  cases houtcome with
  | lost _ e n hlost => exact hverdict.trans (moves_ticked _ n)
  | firstRejected userRecord hrow huser =>
    have huser' : (Identity.afterVerdict clock w u false).users u ≠ none := by simp [huser]
    exact hverdict.tail (.rowRegistered _ (userRecord.toUser u) none _ rfl hrow huser'
      ⟨w.ticks, rfl, rfl⟩ (hnotes _ rfl))
  | firstAccepted user userRecord hrow huser =>
    have huser' : (Identity.afterVerdict clock w u true).users u ≠ none := by simp [huser]
    exact (hverdict.tail (.rowRegistered _ (userRecord.toUser u) (some user) _ rfl hrow huser'
      ⟨w.ticks, rfl, rfl⟩ (hnotes _ rfl))).tail
        (.undated _ (.token u _) rfl trivial rfl (hnotes _ rfl))
  | rejected row hrow htime =>
    exact hverdict.tail (.attemptStored _ row _ _ hrow (.inl rfl) hverdicts)
  | passed user row created hrow hwants htime =>
    have hcleared := hverdict.trans
      (moves_clearAttempts (Identity.afterVerdict clock w u true) hrow (clock w.ticks) hverdicts)
    exact hcleared.tail (.undated _ (.token u _) rfl trivial rfl (hnotes _ rfl))
  | signed user row created hrow hwants hemail hsigned htime =>
    have hcleared := (hverdict.tail (.tick _)).trans
      (moves_clearAttempts (Identity.afterVerdict clock w u true).tick hrow (clock w.ticks)
        hverdicts)
    exact hcleared.tail (.undated _ (.token u _) rfl trivial rfl (hnotes _ rfl))
  | unverified user row hrow hwants hemail =>
    exact hverdict.trans (moves_clearAttempts (Identity.afterVerdict clock w u true) hrow _
      hverdicts)
  | noAddress user row e n code w' hrow hwants hemail hunsigned hcode haddress =>
    exact (moves_codeReady hrow hwants.2 hemail hcode hnotes).1
  | mailRaised user row e n code w' userRecord address hrow hwants hemail hunsigned hcode huser
      haddress hmail =>
    exact (moves_codeReady hrow hwants.2 hemail hcode hnotes).1.tail
      (.undated _ (.mailed u _ _) rfl trivial rfl (hnotes _ rfl))
  | challenged user row sent n code w' userRecord address hrow hwants hemail hunsigned hcode huser
      haddress hmail =>
    obtain ⟨hmoves, row', hrow'⟩ : Moves clock policy u w w' ∧ ∃ row', w'.spassword u = some row' :=
      moves_codeReady hrow hwants.2 hemail hcode hnotes
    have hmailed := hmoves.tail (.undated w' (.mailed u
      ⟨address, .sndfaCode code (Identity.sndfaLink conf u code)⟩
      (SendMail.delivery conf env.server address).1) rfl trivial rfl (hnotes _ rfl))
    exact hmailed.trans (moves_clearAttempts (w'.note _) hrow' _ hverdicts)

theorem moves_verdict (henabled : conf.enabled = true) (env : AuthEnv) (password : String)
    {code : String} (hnotes : ∀ e : Event, e.OfLogin u code → policy.notes e) :
    Within (Moves clock policy u) (Identity.verdict conf clock env u password) := by
  intro w
  have houtcome : Identity.VerdictOutcome conf clock w u
      ((Identity.verdict conf clock env u password).run w) :=
    Identity.verdict_outcome henabled env w u password
  rw [final]
  generalize (Identity.verdict conf clock env u password).run w = result at houtcome
  cases houtcome with
  | blocked row hrow hlocked =>
    refine .tail (.single (.tick w)) (.noted _ _ rfl trivial (fun t ht => ?_) (hnotes _ rfl))
    cases ht
    exact w.justRead_tick clock
  | expired row n hfree =>
    refine (moves_ticked w (n + 1)).tail
      (.noted _ _ rfl trivial (fun t ht => ?_) (hnotes _ rfl))
    cases ht
    exact ⟨w.ticks + n, rfl, rfl⟩
  | raised e n hfree => exact moves_ticked w n
  | answered res n hfree => exact moves_ticked w n

/-- With the extension off, a login changes nothing. -/
theorem final_authenticate_of_disabled (hoff : conf.enabled = false) (env : AuthEnv) (w : World)
    (password : String) : final (Identity.authenticate conf clock env u password) w = w := by
  have hverdict : (Identity.verdict conf clock env u password).run w =
      (Identity.BaseAnswer.toPy (env.base u password).own).run w :=
    Identity.run_verdict_of_disabled hoff env w u password
  rcases Identity.BaseAnswer.run_toPy (env.base u password).own w with ⟨e, h⟩ | ⟨res, h⟩
  · simp [final, Identity.authenticate, hverdict, h]
  · cases res <;> simp [final, Identity.authenticate, hverdict, h, Identity.attempt, hoff]

theorem moves_authenticate (env : AuthEnv) (password : String)
    (hnotes : conf.enabled = true → ∀ e : Event, e.OfLogin u env.uuid.code → policy.notes e) :
    Within (Moves clock policy u) (Identity.authenticate conf clock env u password) := by
  cases henabled : conf.enabled with
  | true =>
    exact (moves_verdict henabled env password (hnotes henabled)).bind fun res =>
      moves_attempt henabled env res (hnotes henabled)
  | false =>
    intro w
    rw [final_authenticate_of_disabled henabled]

end Programs

/-! ### Calls -/

/-- The user a request names. -/
def Request.userId : Request → String
  | .recoverPassword u _ _ | .resetPassword u _ _ _ _ | .modifySndfa u _ _ | .getSndfa u _
  | .checkSndfaCode u _ | .askForCheckEmailCode u _ _ _ | .checkEmailCode u _ | .modifyBlack u _ _
  | .getBlack u _ => u

/-- The user a call names. -/
def Op.userId : Op → String
  | .createUser u _ | .updateUser u _ | .deleteUser u | .authenticate u _ _
  | .userModifySndfa u _ | .userGetSndfa u | .userAskCheckEmailCode u _
  | .userCheckEmailCode u _ | .alreadyUserCheckEmail u | .userCheckSndfaCode u _
  | .userModifyBlack u _ | .userGetBlack u | .userGetPwdExpiration u => u
  | .request r => r.userId

/-- The policy admits what the call leaves to the environment, in the state it is made in. -/
def Op.Admitted (policy : Policy) (w : World) : Op → Prop
  | .createUser u userRecord => policy.stores w u (some userRecord)
  | .updateUser u userRecord =>
    ∀ old, w.users u = some old → policy.stores w u (some (old.merge userRecord))
  | .deleteUser u => policy.stores w u none
  | .userCheckEmailCode u code | .request (.checkEmailCode u code)
  | .request (.resetPassword u code _ _ _) =>
    ∀ row, w.spassword u = some row → row.sndfaEmailCode = some code → policy.presents w u code
  | .authenticate _ _ _ | .userModifySndfa _ _ | .userGetSndfa _
  | .userAskCheckEmailCode _ _ | .alreadyUserCheckEmail _ | .userCheckSndfaCode _ _
  | .userModifyBlack _ _ | .userGetBlack _ | .userGetPwdExpiration _
  | .request (.recoverPassword _ _ _) | .request (.modifySndfa _ _ _) | .request (.getSndfa _ _)
  | .request (.checkSndfaCode _ _) | .request (.askForCheckEmailCode _ _ _ _)
  | .request (.modifyBlack _ _ _) | .request (.getBlack _ _) => True

/-- The policy admits the call, and every event it can note. -/
def Op.Allowed (conf : Conf) (policy : Policy) (w : World) (op : Op) : Prop :=
  op.Admitted policy w ∧ ∀ e, op.Notes conf e → policy.notes e

/-- Every call is admitted by a policy that restricts neither records nor codes. -/
theorem Op.allowed_of_forall {conf : Conf} {policy : Policy} {op : Op} (w : World)
    (hstores : ∀ w u userRecord, policy.stores w u userRecord)
    (hpresents : ∀ w u code, policy.presents w u code)
    (hnotes : ∀ e, op.Notes conf e → policy.notes e) : op.Allowed conf policy w := by
  refine ⟨?_, hnotes⟩
  cases op with
  | request r => cases r <;> simp [Op.Admitted, hpresents]
  | _ => simp [Op.Admitted, hstores, hpresents]

theorem Op.allowed_any (conf : Conf) (w : World) (op : Op) : op.Allowed conf .any w :=
  Op.allowed_of_forall w (fun _ _ _ => trivial) (fun _ _ _ => trivial) fun _ _ => trivial

section Calls

variable {conf : Conf} {clock : ℕ → Time} {policy : Policy}

/-- Reading first does not change which moves follow. -/
theorem moves_reads_bind {α β : Type} {u : String} {m : Py α} {f : α → Py β} {w : World}
    (hm : Reads m) (hf : ∀ a, Moves clock policy u w (final (f a) w)) :
    Moves clock policy u w (final (m >>= f) w) := by
  rcases hm.bind_cases f w with ⟨e, -, h⟩ | ⟨a, -, h⟩
  · rw [final_of_run_error h]
  · rw [final_congr h]
    exact hf a

/-- The extension is on, or there is nothing it could have left behind. -/
def OnOrEmpty (conf : Conf) (w : World) : Prop :=
  conf.enabled = true ∨ ∀ v, w.spassword v = none

theorem OnOrEmpty.row {w : World} (h : OnOrEmpty conf w) (v : String) :
    conf.enabled = true ∨ w.spassword v = none := h.imp_right fun hnone => hnone v

theorem moves_request {w : World} (hon : OnOrEmpty conf w) (r : Request)
    (h : (Op.request r).Allowed conf policy w) :
    Moves clock policy r.userId w (final (r.program conf clock) w) := by
  obtain ⟨hadmitted, hnotes⟩ := h
  cases r with
  | recoverPassword u uuid server => exact moves_recoverPassword uuid server hnotes w
  | resetPassword u code newPassword fault server =>
    exact moves_resetPassword (hon.row u) code newPassword fault server hadmitted hnotes
  | modifySndfa u enable allowed =>
    refine moves_reads_bind reads_checkSpasswordConfigured fun _ => ?_
    refine moves_reads_bind (reads_enforceCall allowed) fun _ => ?_
    refine moves_reads_bind (reads_getUser u) fun userInfo => ?_
    refine moves_reads_bind (reads_checkUserHasEmailDefined userInfo) fun _ => ?_
    refine moves_reads_bind (reads_checkUserHasEmailValidated userInfo) fun _ => ?_
    cases enable.getD (.bool false) with
    | bool b => exact ((moves_modifySndfa b (hnotes _ ⟨b, rfl⟩)).bind fun _ => within_pure _) w
    | _ => exact .refl
  | getSndfa u allowed =>
    refine moves_reads_bind (reads_enforceCall allowed) fun _ => ?_
    refine moves_reads_bind (reads_getUser u) fun _ => ?_
    refine moves_reads_bind (reads_alreadyEmailChecked u) fun _ => ?_
    exact moves_reads_bind (reads_getSndfa u) fun _ => .refl
  | checkSndfaCode u code =>
    refine moves_reads_bind reads_checkSpasswordConfigured fun _ => ?_
    refine moves_reads_bind (reads_getUser u) fun userInfo => ?_
    refine moves_reads_bind (reads_checkUserHasEmailValidated userInfo) fun _ => ?_
    exact ((moves_checkSndfaCode code hnotes).bind fun _ =>
      Within.ite (fun _ => within_pure _) fun _ => within_pure _) w
  | askForCheckEmailCode u uuid server allowed =>
    refine moves_reads_bind (reads_enforceCall allowed) fun _ => ?_
    refine moves_reads_bind (reads_getUser u) fun userInfo => ?_
    refine moves_reads_bind (reads_checkUserHasEmailDefined userInfo) fun _ => ?_
    exact ((moves_userAskCheckEmailCode (by simp) uuid (hnotes _ ⟨rfl, rfl⟩)).bind fun _ =>
      (moves_sendEmail server _ fun _ => hnotes _ rfl).bind fun _ => within_pure _) w
  | checkEmailCode u code =>
    refine moves_reads_bind (reads_getUser u) fun userInfo => ?_
    refine moves_reads_bind (reads_checkUserHasEmailDefined userInfo) fun _ => ?_
    have hresponse : ∀ matched : Bool, Reads (if matched = true then
        pure ⟨.text "Valid code. Email sucessfully checked", 200, some "text/html"⟩
        else pure ⟨.text "No valid code. Email not checked", 401, some "application/json"⟩ :
          Py HttpResponse) := fun matched => by cases matched <;> exact reads_pure _
    rw [SPasswordManager.userCheckEmailCode, final_bind_reads hresponse]
    exact moves_checkEmailCode code hadmitted fun _ => hnotes _ ⟨rfl, rfl⟩
  | modifyBlack u enable allowed =>
    refine moves_reads_bind reads_checkSpasswordConfigured fun _ => ?_
    refine moves_reads_bind (reads_enforceCall allowed) fun _ => ?_
    refine moves_reads_bind (reads_getUser u) fun _ => ?_
    cases enable.getD (.bool false) with
    | bool b => exact ((moves_modifyBlack b (hnotes _ ⟨b, rfl⟩)).bind fun _ => within_pure _) w
    | _ => exact .refl
  | getBlack u allowed =>
    refine moves_reads_bind (reads_enforceCall allowed) fun _ => ?_
    refine moves_reads_bind (reads_getUser u) fun _ => ?_
    refine moves_reads_bind (reads_getBlack u) fun _ => ?_
    exact moves_reads_bind (reads_getPwdExpiration u) fun _ => .refl

/-- **A call is a sequence of moves on the user it names**, as long as the policy admits it. -/
theorem step_moves {w : World} (hon : OnOrEmpty conf w) {op : Op}
    (h : op.Allowed conf policy w) : Moves clock policy op.userId w (step conf clock w op) := by
  obtain ⟨hadmitted, hnotes⟩ := h
  cases op with
  | createUser u userRecord =>
    exact moves_createUser hadmitted (hnotes _ (.inl rfl)) fun henabled e he =>
      hnotes e (.inr ⟨henabled, he⟩)
  | updateUser u userRecord =>
    exact moves_updateUser (fun old huser => .recordStored w _ (hadmitted old huser))
      (hnotes _ (.inl rfl)) fun henabled e he => hnotes e (.inr ⟨henabled, he⟩)
  | deleteUser u =>
    exact moves_deleteUser (hon.row u) hadmitted fun henabled => hnotes _ ⟨henabled, rfl⟩
  | authenticate u password env =>
    exact (moves_authenticate env password fun henabled e he => hnotes e ⟨henabled, he⟩).bind
      (fun _ => within_pure _) w
  | userModifySndfa u enable =>
    exact (moves_modifySndfa enable (hnotes _ rfl)).bind (fun _ => within_pure _) w
  | userGetSndfa u => exact moves_reads_bind (reads_getSndfa u) fun _ => .refl
  | userAskCheckEmailCode u uuid =>
    exact (moves_userAskCheckEmailCode (by simp) uuid (hnotes _ ⟨rfl, rfl⟩)).bind
      (fun _ => within_pure _) w
  | userCheckEmailCode u code =>
    rw [step, Op.program, final_bind_reads fun _ => reads_pure _]
    exact moves_checkEmailCode code hadmitted fun _ => hnotes _ ⟨rfl, rfl⟩
  | alreadyUserCheckEmail u => exact moves_reads_bind (reads_alreadyEmailChecked u) fun _ => .refl
  | userCheckSndfaCode u code =>
    exact (moves_checkSndfaCode code hnotes).bind (fun _ => within_pure _) w
  | userModifyBlack u enable =>
    exact (moves_modifyBlack enable (hnotes _ rfl)).bind (fun _ => within_pure _) w
  | userGetBlack u => exact moves_reads_bind (reads_getBlack u) fun _ => .refl
  | userGetPwdExpiration u => exact moves_reads_bind (reads_getPwdExpiration u) fun _ => .refl
  | request r =>
    rw [step, Op.program, final_bind_reads fun _ => reads_pure _]
    exact moves_request hon r ⟨hadmitted, hnotes⟩

end Calls

end KeystoneSpassword
