import KeystoneSpassword.Invariants

/-!
# The age of a password

`creation_time` is compared with the time at which the password was set.

The history has that time: a stored password is noted, and the created or updated event that
Keystone delivers with it is dated. `passwordTime` reads it off, and `Aged` says that the column is
the same. An update that leaves the password as it is delivers the same event, and the callback
does not ask what has changed. So such an update makes the password young again, and the counter
zero, unless what it stores is stored already.

## Main definitions

* `passwordTime`, `Aged`
* `LeavesAge`, `StampsInPlace` — an update that leaves the password as it is

## Main results

* `password_age_iff`
-/

namespace KeystoneSpassword

open StateProgram Relation History

variable {conf : Conf} {clock : ℕ → Time} {policy : Policy} {u v : String} {w w' : World}

/-! ### The time of the password -/

/-- The time at which the password of the user was set, in the life of the row: the date of the
event that came with it, or of the login that registered the user. -/
def passwordTime (u : String) : List Event → Option Time
  | [] => none
  | .rowCreated v t :: log | .rowTouched v t :: log =>
    if v = u ∧ log.head? = some (.passwordSet u) then some t else passwordTime u log
  | .rowRegistered v t :: log => if v = u then some t else passwordTime u log
  | .userDeleted v :: log => if v = u then none else passwordTime u log
  | _ :: log => passwordTime u log

/-- The event does not move the time of the user's password. -/
def Event.Ageless (u : String) : Event → Prop
  | .rowCreated v _ | .rowTouched v _ | .rowRegistered v _ | .userDeleted v => v ≠ u
  | _ => True

theorem passwordTime_cons_of_ageless {e : Event} (h : e.Ageless u) (log : List Event) :
    passwordTime u (e :: log) = passwordTime u log := by
  cases e with
  | rowCreated v t | rowTouched v t => exact if_neg fun hv => h hv.1
  | rowRegistered v t | userDeleted v => exact if_neg h
  | _ => rfl

theorem passwordTime_append_of_ageless {new : List Event} (h : ∀ e ∈ new, e.Ageless u)
    (log : List Event) : passwordTime u (new ++ log) = passwordTime u log := by
  induction new with
  | nil => rfl
  | cons e new ih =>
    rw [List.cons_append, passwordTime_cons_of_ageless (h e List.mem_cons_self)]
    exact ih fun e' he' => h e' (List.mem_cons_of_mem e he')

theorem Event.ageless_of_ne {e : Event} (h : e.userId ≠ u) : e.Ageless u := by
  cases e <;> trivial

/-- `creation_time` is the time at which the password was set. -/
def Aged (w : World) : Prop :=
  ∀ u row, w.spassword u = some row →
    ∃ t, passwordTime u w.log = some t ∧ row.creationTime = some (.utc t)

/-- Between two calls: the columns follow the passwords, only rows have a time, and every stored
password has been dated. -/
structure AgeFollows (w : World) : Prop where
  aged : Aged w
  ageless : ∀ u, w.spassword u = none → passwordTime u w.log = none
  dated : ∀ u, w.log.head? ≠ some (.passwordSet u)

/-- It is enough to look at the user a call names. -/
theorem AgeFollows.of_user (h : AgeFollows w) (new : List Event) (hlog : w'.log = new ++ w.log)
    (hnew : ∀ e ∈ new, e.userId = u) (hother : ∀ v ≠ u, w'.spassword v = w.spassword v)
    (haged : ∀ row, w'.spassword u = some row →
      ∃ t, passwordTime u w'.log = some t ∧ row.creationTime = some (.utc t))
    (hageless : w'.spassword u = none → passwordTime u w'.log = none)
    (hdated : ∀ v, w'.log.head? ≠ some (.passwordSet v)) : AgeFollows w' := by
  have htime : ∀ v ≠ u, passwordTime v w'.log = passwordTime v w.log := by
    intro v hv
    rw [hlog]
    exact passwordTime_append_of_ageless
      (fun e he => Event.ageless_of_ne fun heq => hv (heq.symm.trans (hnew e he))) w.log
  refine ⟨fun v row hrow => ?_, fun v hrow => ?_, hdated⟩
  · by_cases hv : v = u
    · subst hv
      exact haged row hrow
    · rw [htime v hv]
      exact h.aged v row ((hother v hv).symm.trans hrow)
  · by_cases hv : v = u
    · subst hv
      exact hageless hrow
    · rw [htime v hv]
      exact h.ageless v ((hother v hv).symm.trans hrow)

/-! ### Calls without an update -/

/-- The events of a created, updated or deleted event, and of what comes with it. -/
def Event.OfUpdate : Event → Prop
  | .rowCreated _ _ | .rowTouched _ _ | .userDeleted _ | .passwordSet _ => True
  | _ => False

/-- What a move that notes no such event does to its own user: nothing, or it registers the user. -/
theorem Move.age_own (h : Move clock policy u w w') (hnotes : ∀ e, policy.notes e → ¬ e.OfUpdate) :
    (w'.spassword u).map SPasswordModel.creationTime =
        (w.spassword u).map SPasswordModel.creationTime ∧
      passwordTime u w'.log = passwordTime u w.log ∨
    ∃ t, (w'.spassword u).map SPasswordModel.creationTime = some (some (.utc t)) ∧
      passwordTime u w'.log = some t := by
  cases h with
  | tick | recordStored _ _ | passwordStored _ _ _ | userDropped _ _ => exact .inl ⟨rfl, rfl⟩
  | noted e _ hinert _ _ =>
    refine .inl ⟨rfl, passwordTime_cons_of_ageless ?_ _⟩
    cases e <;> trivial
  | userRemoved _ hnote => exact absurd trivial (hnotes _ hnote)
  | rowCreated _ _ _ _ _ _ hnote | rowTouched _ _ _ _ hnote => exact absurd trivial (hnotes _ hnote)
  | rowRegistered user res t _ _ _ _ _ =>
    refine .inr ⟨t, ?_, ?_⟩
    · simp [Identity.firstRow]
    · simp [passwordTime]
  | attemptStored row _ t hrow _ _ =>
    exact .inl ⟨by simp [hrow], rfl⟩
  | sndfaIssued row _ _ _ _ hrow _ _ _ _ _ | sndfaAccepted row _ _ hrow _ _ _ _ _
  | sndfaModified row _ hrow _ _ | blackModified row _ hrow _ | emailCodeIssued row _ _ hrow _ _
  | recovered row _ hrow _ _ _ | emailCodeChecked row _ hrow _ _ _ =>
    refine .inl ⟨?_, rfl⟩
    simp [hrow, Identity.withCode, SPasswordResource.withEmailCode,
      SPasswordResource.recoveredState]
  | passwordReset _ _ _ _ _ _ => exact .inl ⟨rfl, rfl⟩

/-- A move that notes no such event keeps the columns in step. -/
theorem Move.ageFollows (h : Move clock policy u w w')
    (hnotes : ∀ e, policy.notes e → ¬ e.OfUpdate) (hw : AgeFollows w) : AgeFollows w' := by
  obtain ⟨new, hlog, hnew, -⟩ := h.log_eq
  have hdated : ∀ v, w'.log.head? ≠ some (.passwordSet v) := by
    intro v hhead
    rw [hlog] at hhead
    cases new with
    | nil => exact hw.dated v hhead
    | cons e new =>
      obtain rfl : e = .passwordSet v := by simpa using hhead
      exact hnotes _ (hnew _ List.mem_cons_self).2 trivial
  refine hw.of_user new hlog (fun e he => (hnew e he).1) (fun v hv => (h.other hv).2) ?_ ?_ hdated
  · intro row hrow
    rcases h.age_own hnotes with ⟨hcreated, htime⟩ | ⟨t, hcreated, htime⟩
    · rw [hrow] at hcreated
      obtain ⟨row₀, hrow₀, heq⟩ := Option.map_eq_some_iff.mp hcreated.symm
      obtain ⟨t, ht, hstored⟩ := hw.aged u row₀ hrow₀
      exact ⟨t, htime.trans ht, heq.symm.trans hstored⟩
    · rw [hrow] at hcreated
      exact ⟨t, htime, Option.some.inj hcreated⟩
  · intro hrow
    rcases h.age_own hnotes with ⟨hcreated, htime⟩ | ⟨t, hcreated, htime⟩
    · rw [hrow] at hcreated
      rw [htime]
      exact hw.ageless u (Option.map_eq_none_iff.mp hcreated.symm)
    · rw [hrow] at hcreated
      cases hcreated

/-! ### Stamps -/

/-- What an update of the user writes to the row. -/
def World.stamp (w : World) (u : String) : Option (Option DateTime × ℤ) :=
  (w.spassword u).map fun row => (row.creationTime, row.loginAttempts)

/-- A created or updated event at `t` is noted, and the row says so. -/
theorem AgeFollows.of_stamp (h : AgeFollows w) (new : List Event) (hlog : w'.log = new ++ w.log)
    (hnew : ∀ e ∈ new, e.userId = u) (hdated : ∀ v, w'.log.head? ≠ some (.passwordSet v))
    (row : SPasswordModel) (hrow : w'.spassword = Function.update w.spassword u (some row))
    (t : Time) (htime : passwordTime u w'.log = some t)
    (hcreated : row.creationTime = some (.utc t)) :
    AgeFollows w' := by
  refine h.of_user new hlog hnew (fun v hv => by rw [hrow, Function.update_of_ne hv]) ?_ ?_ hdated
  · intro row' hrow'
    rw [hrow, Function.update_self] at hrow'
    cases hrow'
    exact ⟨t, htime, hcreated⟩
  · intro hnone
    rw [hrow, Function.update_self] at hnone
    cases hnone

/-- What a created or updated event leaves. -/
theorem stampCreationTime_spec (clock : ℕ → Time) (w : World) (user : User) :
    ∃ row e, final (SPassword.stampCreationTime clock user) w =
        ((w.tick.setRow user.id (some row)).note e) ∧
      row.creationTime = some (.utc (clock w.ticks)) ∧ row.loginAttempts = 0 ∧
        (e = .rowCreated user.id (clock w.ticks) ∨ e = .rowTouched user.id (clock w.ticks)) := by
  cases hrow : w.spassword user.id with
  | none =>
    exact ⟨_, _, final_of_run_ok (run_stampCreationTime_of_no_row hrow), rfl, rfl, .inl rfl⟩
  | some row =>
    exact ⟨_, _, final_of_run_ok (run_stampCreationTime_of_row hrow), rfl, rfl, .inr rfl⟩

section Stamp

variable {w₁ : World} {user : User}

theorem stamp_stampCreationTime (clock : ℕ → Time) (w : World) (user : User) :
    (final (SPassword.stampCreationTime clock user) w).stamp user.id =
      some (some (.utc (clock w.ticks)), 0) := by
  obtain ⟨row, e, hfinal, hcreated, hattempts, -⟩ := stampCreationTime_spec clock w user
  rw [hfinal]
  simp [World.stamp, hcreated, hattempts]

/-- A password was stored: the event that comes with it dates it. -/
theorem ageFollows_stamp (h : AgeFollows w) (hlog : w₁.log = .passwordSet user.id :: w.log)
    (hspassword : w₁.spassword = w.spassword) :
    AgeFollows (final (SPassword.stampCreationTime clock user) w₁) := by
  obtain ⟨row, e, hfinal, hcreated, -, he⟩ := stampCreationTime_spec clock w₁ user
  rw [hfinal]
  refine h.of_stamp (u := user.id) [e, .passwordSet user.id] ?_ ?_ ?_ row ?_ (clock w₁.ticks) ?_
    hcreated
  · simp [hlog]
  · rcases he with rfl | rfl <;> simp [Event.userId]
  · rcases he with rfl | rfl <;> simp
  · simp [hspassword]
  · rcases he with rfl | rfl <;> simp [passwordTime, hlog]

/-- No password was stored: the event leaves the age alone only if it finds its own date. -/
theorem ageFollows_stamp_in_place (h : AgeFollows w) (hlog : w₁.log = w.log)
    (hspassword : w₁.spassword = w.spassword)
    (hplace : w.stamp user.id = some (some (.utc (clock w₁.ticks)), 0)) :
    AgeFollows (final (SPassword.stampCreationTime clock user) w₁) := by
  obtain ⟨row, e, hfinal, hcreated, -, he⟩ := stampCreationTime_spec clock w₁ user
  have htime : passwordTime user.id w.log = some (clock w₁.ticks) := by
    obtain ⟨row₀, hrow₀, hstamp⟩ := Option.map_eq_some_iff.mp hplace
    obtain ⟨t, ht, hstored⟩ := h.aged user.id row₀ hrow₀
    rw [hstored, Prod.mk.injEq, Option.some.injEq, DateTime.utc, DateTime.utc,
      DateTime.mk.injEq] at hstamp
    rw [ht, hstamp.1.1]
  rw [hfinal]
  refine h.of_stamp (u := user.id) [e] ?_ ?_ ?_ row ?_ (clock w₁.ticks) ?_ hcreated
  · simp [hlog]
  · rcases he with rfl | rfl <;> simp [Event.userId]
  · rcases he with rfl | rfl <;> simp
  · simp [hspassword]
  · have hhead := h.dated user.id
    rcases he with rfl | rfl <;> simp [passwordTime, hlog, hhead, htime]

/-- An event that does not date anything. -/
theorem AgeFollows.note (h : AgeFollows w) {e : Event} (hageless : ∀ v, e.Ageless v)
    (hne : ∀ v, e ≠ .passwordSet v) : AgeFollows (w.note e) := by
  refine ⟨fun v row hrow => ?_, fun v hrow => ?_, fun v hhead => ?_⟩
  · rw [World.note_log, passwordTime_cons_of_ageless (hageless v)]
    exact h.aged v row hrow
  · rw [World.note_log, passwordTime_cons_of_ageless (hageless v)]
    exact h.ageless v hrow
  · exact hne v (by simpa using hhead)

end Stamp

/-! ### Updates that leave the password as it is -/

/-- The call may update the user. -/
def Op.Updates (u : String) : Op → Prop
  | .updateUser v _ | .request (.resetPassword v _ _ _ _) => v = u
  | _ => False

/-- A call that may update a user, and leaves the password as it is, leaves `creation_time` and
`login_attempts` as they are. -/
def LeavesAge (conf : Conf) (clock : ℕ → Time) (w : World) (op : Op) : Prop :=
  ∀ u, op.Updates u → ((step conf clock w op).users u).map UserRecord.password =
    (w.users u).map UserRecord.password → (step conf clock w op).stamp u = w.stamp u

/-- An update that leaves the password as it is finds what it would write. -/
def StampsInPlace (clock : ℕ → Time) (w : World) : Op → Prop
  | .updateUser u userRecord => ∀ old, w.users u = some old →
    userRecord.password = old.password → w.stamp u = some (some (.utc (clock w.ticks)), 0)
  | .request (.resetPassword u code newPassword fault _) => ∀ old, w.users u = some old →
    SPassword.EmailCodeStored w u code → fault = none → newPassword.password = old.password →
      w.stamp u = some (some (.utc (clock w.ticks)), 0)
  | _ => True

/-- A call that is neither an update nor the creation or the end of a user. -/
theorem ageFollows_step_of_quiet (henabled : conf.enabled = true) (h : AgeFollows w) {op : Op}
    (hquiet : ∀ e, op.Notes conf e → ¬ e.OfUpdate) : AgeFollows (step conf clock w op) := by
  have hmoves : Moves clock _ op.userId w (step conf clock w op) :=
    step_moves (.inl henabled) (Op.allowed_notes w op)
  exact keeps_of_steps (fun _ _ hmove hw => hmove.ageFollows hquiet hw) hmoves h

theorem ageFollows_createUser (henabled : conf.enabled = true) (h : AgeFollows w)
    (userRecord : UserRecord) : AgeFollows (step conf clock w (.createUser u userRecord)) := by
  rw [step, Op.program, final_createUser henabled]
  exact ageFollows_stamp h (rfl : _ = .passwordSet (userRecord.toUser u).id :: w.log) rfl

theorem ageFollows_deleteUser (henabled : conf.enabled = true) (h : AgeFollows w) :
    AgeFollows (step conf clock w (.deleteUser u)) := by
  rw [step, Op.program, final_deleteUser henabled]
  refine h.of_user (u := u) [.userDeleted u] rfl (by simp [Event.userId])
    (fun v hv => by simp [hv]) (by simp) (fun _ => by simp [passwordTime]) (by simp)

/-- An update of an existing user, from the state in which the record is changed. -/
theorem ageFollows_recordChanged (h : AgeFollows w) {old new : UserRecord}
    (hplace : new.password = old.password →
      w.stamp u = some (some (.utc (clock w.ticks)), 0)) :
    AgeFollows (final (SPassword.stampCreationTime clock (new.toUser u))
      (recordChanged w u old new)) := by
  by_cases hsame : new.password = old.password
  · have hchanged : recordChanged w u old new = w.setUser u (some new) := if_neg (not_not.mpr hsame)
    rw [hchanged]
    exact ageFollows_stamp_in_place h rfl rfl (hplace hsame)
  · have hchanged : recordChanged w u old new = (w.setUser u (some new)).note (.passwordSet u) :=
      if_pos hsame
    rw [hchanged]
    exact ageFollows_stamp h rfl rfl

theorem stamp_recordChanged (clock : ℕ → Time) (w : World) (u : String) (old new : UserRecord) :
    (final (SPassword.stampCreationTime clock (new.toUser u)) (recordChanged w u old new)).stamp u =
        some (some (.utc (clock w.ticks)), 0) ∧
      (final (SPassword.stampCreationTime clock (new.toUser u))
        (recordChanged w u old new)).users u = some new := by
  constructor
  · have hticks : (recordChanged w u old new).ticks = w.ticks := recordChanged_ticks
    rw [← hticks]
    exact stamp_stampCreationTime clock _ (new.toUser u)
  · obtain ⟨row, e, hfinal, -⟩ := stampCreationTime_spec clock (recordChanged w u old new)
      (new.toUser u)
    rw [hfinal]
    simp

/-- An update of a user leaves the age of a password that it does not change exactly if it finds
what it would write. -/
theorem leavesAge_updateUser (henabled : conf.enabled = true) (w : World) (u : String)
    (userRecord : UserRecord) :
    LeavesAge conf clock w (.updateUser u userRecord) ↔
      StampsInPlace clock w (.updateUser u userRecord) := by
  cases huser : w.users u with
  | none =>
    have hfinal : step conf clock w (.updateUser u userRecord) = w := by
      simp [step, Op.program, final, IdentityApi.updateUser, huser]
    refine iff_of_true (fun v _ _ => by rw [hfinal]) fun old hold => ?_
    rw [huser] at hold
    cases hold
  | some old =>
    have hfinal : step conf clock w (.updateUser u userRecord) = _ :=
      final_updateUser henabled huser fun old => old.merge userRecord
    obtain ⟨hstamp, hrecord⟩ := stamp_recordChanged clock w u old (old.merge userRecord)
    constructor
    · intro hleaves old' hold' hsame
      obtain rfl : old = old' := Option.some.inj (huser.symm.trans hold')
      have hkept := hleaves u rfl (by rw [hfinal, hrecord, huser]; simp [hsame])
      rw [hfinal, hstamp] at hkept
      exact hkept.symm
    · rintro hplace v rfl hsame
      rw [hfinal, hrecord, huser] at hsame
      rw [hfinal, hstamp, hplace old huser (by simpa using hsame)]

theorem ageFollows_updateUser (henabled : conf.enabled = true) (h : AgeFollows w) (u : String)
    (userRecord : UserRecord) (hplace : StampsInPlace clock w (.updateUser u userRecord)) :
    AgeFollows (step conf clock w (.updateUser u userRecord)) := by
  cases huser : w.users u with
  | none =>
    have hfinal : step conf clock w (.updateUser u userRecord) = w := by
      simp [step, Op.program, final, IdentityApi.updateUser, huser]
    rw [hfinal]
    exact h
  | some old =>
    have hfinal : step conf clock w (.updateUser u userRecord) = _ :=
      final_updateUser henabled huser fun old => old.merge userRecord
    rw [hfinal]
    exact ageFollows_recordChanged h (hplace old huser)

/-! ### Resets -/

/-- Comparing an email code leaves the age alone. -/
theorem checkEmailCode_age (h : AgeFollows w) (u code : String) :
    AgeFollows (final (SPassword.checkEmailCode u code) w) ∧
      (final (SPassword.checkEmailCode u code) w).stamp u = w.stamp u ∧
        (final (SPassword.checkEmailCode u code) w).users = w.users := by
  refine ⟨?_, ?_⟩
  · have hmoves : Moves (fun _ => 0)
        ⟨fun _ _ _ => True, fun _ _ _ => True, Event.OfEmailCheck u code⟩ u w
        (final (SPassword.checkEmailCode u code) w) :=
      moves_checkEmailCode code (fun _ _ _ => trivial) fun _ => ⟨rfl, rfl⟩
    refine keeps_of_steps (fun _ _ hmove hw => hmove.ageFollows ?_ hw) hmoves h
    intro e he
    cases e <;> first | exact he.elim | exact not_false
  · by_cases hset : ∃ row, w.spassword u = some row ∧ truthy row.sndfaEmailCode = true
    · obtain ⟨row, hrow, hset⟩ := hset
      rw [final_of_run_ok (SPassword.run_checkEmailCode_of_set hrow hset)]
      exact ⟨by simp [World.stamp, hrow], rfl⟩
    · rw [final_of_run_ok (SPassword.run_checkEmailCode_of_unset fun row hrow =>
        Bool.eq_false_iff.mpr fun h' => hset ⟨row, hrow, h'⟩)]
      exact ⟨rfl, rfl⟩

/-- An updated event for a user with a row. -/
theorem touchedState_eq (clock : ℕ → Time) {row : SPasswordModel} (hrow : w.spassword u = some row)
    (userRecord : UserRecord) : touchedState clock w u row =
      final (SPassword.stampCreationTime clock (userRecord.toUser u)) w := by
  have hrow' : w.spassword (userRecord.toUser u).id = some row := hrow
  exact (final_of_run_ok (run_stampCreationTime_of_row hrow')).symm

/-- What a reset does to the age, by the state it leaves. -/
inductive ResetAge (clock : ℕ → Time) (w : World) (u code password : String)
    (fault : Option PyExc) : World → Prop
  /-- nothing is updated -/
  | kept (w' : World) (hfollows : AgeFollows w') (hstamp : w'.stamp u = w.stamp u)
      (hplace : ∀ old, w.users u = some old → SPassword.EmailCodeStored w u code → fault = none →
        password = old.password → False) :
      ResetAge clock w u code password fault w'
  /-- the user is updated -/
  | updated (old : UserRecord) (w' : World) (huser : w.users u = some old)
      (hcode : SPassword.EmailCodeStored w u code) (hfault : fault = none)
      (hfollows : (password = old.password → w.stamp u = some (some (.utc (clock w.ticks)), 0)) →
        AgeFollows w')
      (hstamp : w'.stamp u = some (some (.utc (clock w.ticks)), 0))
      (hpassword : (w'.users u).map UserRecord.password = some password) :
      ResetAge clock w u code password fault w'

theorem resetPassword_age (henabled : conf.enabled = true) (h : AgeFollows w) (u code : String)
    (newPassword : NewPassword) (fault : Option PyExc) (server : SmtpServer) :
    ResetAge clock w u code newPassword.password fault
      (final (SPasswordResource.resetPassword conf clock newPassword fault server u code) w) := by
  obtain ⟨hfollows, hstamp, -⟩ := checkEmailCode_age h u code
  have houtcome : SPasswordResource.ResetOutcome clock w u code newPassword.password fault
      (final (SPasswordResource.resetPassword conf clock newPassword fault server u code) w) :=
    SPasswordResource.resetPassword_outcome (.inl henabled) code newPassword fault server
  generalize final (SPasswordResource.resetPassword conf clock newPassword fault server u code) w
    = w' at houtcome
  -- the state in which the record has been changed and stamped
  have hreset : ∀ {old : UserRecord} {row : SPasswordModel}, w.users u = some old →
      w.spassword u = some row → row.sndfaEmailCode = some code → code ≠ "" →
      ((newPassword.password = old.password → w.stamp u = some (some (.utc (clock w.ticks)), 0)) →
        AgeFollows (SPasswordResource.resetState clock
          (SPasswordResource.confirmedState w u row code) u old { row with sndfaEmail := true } code
          newPassword.password)) ∧
      (SPasswordResource.resetState clock (SPasswordResource.confirmedState w u row code)
        u old { row with sndfaEmail := true } code newPassword.password).stamp u =
          some (some (.utc (clock w.ticks)), 0) ∧
      ((SPasswordResource.resetState clock (SPasswordResource.confirmedState w u row code)
        u old { row with sndfaEmail := true } code newPassword.password).users u).map
          UserRecord.password = some newPassword.password := by
    intro old row huser hrow hcode hne
    have hconfirmed : final (SPassword.checkEmailCode u code) w =
        SPasswordResource.confirmedState w u row code :=
      final_of_run_ok (SPassword.run_checkEmailCode_of_match hrow hcode hne)
    rw [hconfirmed] at hfollows hstamp
    have hrow' : (recordChanged (SPasswordResource.confirmedState w u row code) u old
        { old with password := newPassword.password }).spassword u =
          some { row with sndfaEmail := true } := by
      rw [recordChanged_spassword]
      exact Function.update_self ..
    rw [SPasswordResource.resetState,
      touchedState_eq clock hrow' { old with password := newPassword.password }]
    obtain ⟨hstamped, hrecord⟩ := stamp_recordChanged clock
      (SPasswordResource.confirmedState w u row code) u old
        { old with password := newPassword.password }
    refine ⟨fun hplace => ?_, hstamped, by rw [World.note_users, hrecord]; rfl⟩
    refine AgeFollows.note (ageFollows_recordChanged hfollows fun hsame => ?_) (fun _ => trivial)
      fun _ => by simp
    rw [hstamp]
    exact hplace hsame
  cases houtcome with
  | nobody huser =>
    refine .kept _ h rfl fun old hold _ _ _ => ?_
    rw [huser] at hold
    cases hold
  | refused userRecord huser hcode =>
    exact .kept _ hfollows hstamp fun _ _ hstored _ _ => hcode hstored
  | faulted userRecord row huser hrow hcode hne hfault =>
    rw [final_of_run_ok (SPassword.run_checkEmailCode_of_match hrow hcode hne)] at hfollows hstamp
    exact .kept _ hfollows hstamp fun _ _ _ hnone _ => hfault hnone
  | reset old row huser hrow hcode hne hfault =>
    obtain ⟨hage, hstamped, hpassword⟩ := hreset huser hrow hcode hne
    exact .updated old _ huser ⟨row, hrow, hcode, hne⟩ hfault hage hstamped hpassword
  | mailed old row mail handed huser hrow hcode hne hfault =>
    obtain ⟨hage, hstamped, hpassword⟩ := hreset huser hrow hcode hne
    exact .updated old _ huser ⟨row, hrow, hcode, hne⟩ hfault
      (fun hplace => (hage hplace).note (fun _ => trivial) fun _ => by simp) hstamped hpassword

theorem step_resetPassword (w : World) (u code : String) (newPassword : NewPassword)
    (fault : Option PyExc) (server : SmtpServer) :
    step conf clock w (.request (.resetPassword u code newPassword fault server)) =
      final (SPasswordResource.resetPassword conf clock newPassword fault server u code) w :=
  final_bind_reads (fun _ => reads_pure _) w

theorem leavesAge_resetPassword (henabled : conf.enabled = true) (h : AgeFollows w)
    (u code : String) (newPassword : NewPassword) (fault : Option PyExc) (server : SmtpServer) :
    LeavesAge conf clock w (.request (.resetPassword u code newPassword fault server)) ↔
      StampsInPlace clock w (.request (.resetPassword u code newPassword fault server)) := by
  have hage : ResetAge clock w u code newPassword.password fault
      (step conf clock w (.request (.resetPassword u code newPassword fault server))) := by
    rw [step_resetPassword]
    exact resetPassword_age henabled h u code newPassword fault server
  rw [LeavesAge]
  generalize step conf clock w (.request (.resetPassword u code newPassword fault server)) = w'
    at hage
  cases hage with
  | kept _ hfollows hstamp hplace =>
    refine iff_of_true ?_ fun old hold hstored hnone hsame =>
      (hplace old hold hstored hnone hsame).elim
    rintro v rfl -
    exact hstamp
  | updated old _ huser hcode hfault hfollows hstamp hpassword =>
    constructor
    · intro hleaves old' hold' _ _ hsame
      rw [← hleaves u rfl (by rw [hpassword, hold', hsame]; rfl), hstamp]
    · rintro hplace v rfl hsame
      rw [hpassword, huser] at hsame
      rw [hstamp, hplace old huser hcode hfault (by simpa using hsame)]

theorem ageFollows_resetPassword (henabled : conf.enabled = true) (h : AgeFollows w)
    (u code : String) (newPassword : NewPassword) (fault : Option PyExc) (server : SmtpServer)
    (hplace : StampsInPlace clock w (.request (.resetPassword u code newPassword fault server))) :
    AgeFollows (step conf clock w (.request (.resetPassword u code newPassword fault server))) := by
  have hage : ResetAge clock w u code newPassword.password fault
      (step conf clock w (.request (.resetPassword u code newPassword fault server))) := by
    rw [step_resetPassword]
    exact resetPassword_age henabled h u code newPassword fault server
  cases hage with
  | kept _ hfollows hstamp hplace => exact hfollows
  | updated old _ huser hcode hfault hfollows hstamp hpassword =>
    exact hfollows (hplace old huser hcode hfault)

/-! ### Runs -/

/-- The calls that create, update or delete a user. -/
def Op.ChangesUser : Op → Prop
  | .createUser _ _ | .updateUser _ _ | .deleteUser _ | .request (.resetPassword _ _ _ _ _) => True
  | _ => False

/-- The other calls note nothing of the kind. -/
theorem Op.not_notes_update {op : Op} (hop : ¬ op.ChangesUser) {e : Event} (he : e.OfUpdate) :
    ¬ op.Notes conf e := by
  cases e with
  | rowCreated v t | rowTouched v t | userDeleted v | passwordSet v =>
    cases op with
    | createUser _ _ | updateUser _ _ | deleteUser _ => exact absurd trivial hop
    | request r =>
      cases r with
      | resetPassword _ _ _ _ _ => exact absurd trivial hop
      | _ =>
        simp [Op.Notes, Request.Notes, Event.OfRecovery, Event.OfEmailAsk, Event.OfEmailCheck,
          Event.OfSndfaCheck]
    | _ =>
      simp [Op.Notes, Event.OfLogin, Event.OfEmailAsk, Event.OfEmailCheck, Event.OfSndfaCheck]
  | _ => exact he.elim

/-- A call leaves the age of unchanged passwords exactly if its stamps are in place, and then the
columns stay in step. -/
theorem step_age (clock : ℕ → Time) (henabled : conf.enabled = true) (h : AgeFollows w) (op : Op) :
    (LeavesAge conf clock w op ↔ StampsInPlace clock w op) ∧
      (StampsInPlace clock w op → AgeFollows (step conf clock w op)) := by
  have hquiet (hop : ¬ op.ChangesUser) (hupdates : ∀ u, ¬ op.Updates u)
      (hplace : StampsInPlace clock w op) :
      (LeavesAge conf clock w op ↔ StampsInPlace clock w op) ∧
        (StampsInPlace clock w op → AgeFollows (step conf clock w op)) :=
    ⟨iff_of_true (fun u hu => absurd hu (hupdates u)) hplace,
      fun _ => ageFollows_step_of_quiet henabled h fun e he hupdate =>
        Op.not_notes_update hop hupdate he⟩
  cases op with
  | createUser u userRecord =>
    exact ⟨iff_of_true (fun _ hu => hu.elim) trivial,
      fun _ => ageFollows_createUser henabled h userRecord⟩
  | updateUser u userRecord =>
    exact ⟨leavesAge_updateUser henabled w u userRecord,
      ageFollows_updateUser henabled h u userRecord⟩
  | deleteUser u =>
    exact ⟨iff_of_true (fun _ hu => hu.elim) trivial, fun _ => ageFollows_deleteUser henabled h⟩
  | request r =>
    cases r with
    | resetPassword u code newPassword fault server =>
      exact ⟨leavesAge_resetPassword henabled h u code newPassword fault server,
        ageFollows_resetPassword henabled h u code newPassword fault server⟩
    | _ => exact hquiet (fun hop => hop) (fun _ hu => hu) trivial
  | _ => exact hquiet (fun hop => hop) (fun _ hu => hu) trivial

/-- **The age of a password.** In a run, `creation_time` is always the time at which the password
was set, and no update that leaves the password as it is touches `creation_time` or
`login_attempts`, if and only if every such update finds what it writes. The callback of the
updated event does not ask what has changed. -/
theorem password_age_iff (henabled : conf.enabled = true) (users : String → Option UserRecord)
    (ops : List Op) :
    Machine.Along (step conf clock)
        (fun w op => Aged (step conf clock w op) ∧ LeavesAge conf clock w op) (.initial users) ops ↔
      Machine.Along (step conf clock) (StampsInPlace clock) (.initial users) ops := by
  have hinitial : AgeFollows (.initial users) :=
    ⟨fun _ _ hrow => (by cases hrow), fun _ _ => rfl, fun _ => by simp [World.initial]⟩
  refine Machine.along_congr (I := AgeFollows) (fun w op h hage => ?_) (fun w op h => ?_)
    hinitial ops
  · obtain ⟨hleaves, hfollows⟩ := step_age clock henabled h op
    exact hfollows (hleaves.mp hage.2)
  · obtain ⟨hleaves, hfollows⟩ := step_age clock henabled h op
    exact ⟨fun hage => hleaves.mp hage.2,
      fun hplace => ⟨(hfollows hplace).aged, hleaves.mpr hplace⟩⟩

/-- The user's record with another password. -/
def Sample.renewed : UserRecord := { Sample.alice with password := "renewed" }

/-- A user that is created, locks the account, and is given a new password. -/
theorem password_age_iff_renewed :
    Machine.Along (step Sample.conf Sample.ticking)
      (fun w op => Aged (step Sample.conf Sample.ticking w op) ∧
        LeavesAge Sample.conf Sample.ticking w op) (.initial fun _ => none)
      [.createUser "alice" Sample.alice, Sample.guess, .updateUser "alice" Sample.renewed] := by
  refine (password_age_iff rfl _ _).mpr ⟨trivial, trivial, ?_, trivial⟩
  intro old hold hsame
  cases hold
  exact absurd hsame (by decide)

/-- An account that is locked by wrong passwords, and an update of the name of its user: the account
is unlocked, and the password is as young as the update. -/
theorem account_unlocked_by_update :
    let w := run Sample.conf Sample.ticking (.initial fun _ => none)
      (.createUser "alice" Sample.alice :: List.replicate 4 Sample.guess)
    let w' := step Sample.conf Sample.ticking w
      (.updateUser "alice" { Sample.alice with name := "A" })
    LockedOut Sample.conf Sample.ticking w "alice" ∧
      w.stamp "alice" = some (some (.utc 0), 4) ∧ passwordTime "alice" w.log = some 0 ∧
      passwordTime "alice" w'.log = some 0 ∧ w'.stamp "alice" = some (some (.utc 9), 0) := by
  refine ⟨⟨by decide, _, _, rfl, by decide, rfl, by decide⟩, ?_⟩
  decide

end KeystoneSpassword
