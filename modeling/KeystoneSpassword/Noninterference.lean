import KeystoneSpassword.Ledger

/-!
# The second factor and the lockout

The requests of the second factor and of the email verification have no say in the lockout and in
the expiry of passwords. Two runs are compared: one with such requests among its calls, and the
same one with some of them erased.

## Readings

The two runs do not read the clock equally often, because a login that is asked for a second
factor reads it once or twice more. So each call brings its own readings, which it sees in both
runs, and `stepAt` is a call under such readings.

## The argument

The relation is `Agree`: the same users, and the same ledgers. An erased call leaves both alone
(`Untouched`), and what a kept call does to them is determined by them. For the part of a login up
to the verdict this is `ReadsLedger`. After the verdict it is `attempt_left`.

## Main results

* `second_factor_noninterference`
-/

namespace KeystoneSpassword

open StateProgram Relation

variable {conf : Conf} {clock : ℕ → Time} {u v : String} {w w' : World}

/-! ### Calls that leave users and ledgers alone -/

/-- The users and the ledgers are the same. -/
structure Untouched (w w' : World) : Prop where
  users : w'.users = w.users
  ledger : ∀ v, w'.ledger v = w.ledger v

instance : IsPreorder World Untouched where
  refl _ := ⟨rfl, fun _ => rfl⟩
  trans _ _ _ h₁ h₂ := ⟨h₂.users.trans h₁.users, fun v => (h₂.ledger v).trans (h₁.ledger v)⟩

theorem untouched_record (e : Event) : Within Untouched (record e) := fun _ => ⟨rfl, fun _ => rfl⟩

theorem untouched_utcnow : Within Untouched (utcnow clock) := fun _ => ⟨rfl, fun _ => rfl⟩

/-- Columns outside the ledger may be written. -/
theorem untouched_sessionUpdate (u : String) {assign : SPasswordModel → SPasswordModel}
    (hassign : ∀ r, (assign r).ledger = r.ledger) : Within Untouched (sessionUpdate u assign) := by
  refine fun w => ⟨rfl, fun v => ?_⟩
  by_cases hv : v = u
  · subst hv
    show (w.setRow v ((w.spassword v).map assign)).ledger v = w.ledger v
    rw [World.setRow_ledger_self, Option.map_map, World.ledger]
    exact congrArg (fun f => (w.spassword v).map f) (funext hassign)
  · exact World.setRow_ledger_of_ne _ hv

theorem reads_getSpasswordSession (u : String) : Reads (getSpasswordSession u) := fun _ => rfl

/-- A method that looks at a row and then at most writes outside the ledger. -/
theorem untouched_of_row {α : Type} {u : String} {f : Option SPasswordModel → Py α}
    (hnone : Within Untouched (f none)) (hsome : ∀ row, Within Untouched (f (some row))) :
    Within Untouched (getSpasswordSession u >>= f) :=
  (reads_getSpasswordSession u).within.bind fun row => by
    cases row with
    | none => exact hnone
    | some row => exact hsome row

section Quiet

variable (u : String)

theorem untouched_modifySndfa (enable : Bool) :
    Within Untouched (SPassword.modifySndfa u enable) := by
  refine untouched_of_row (within_pure _) fun _ => Within.ite (fun _ => ?_) fun _ => within_pure _
  refine (untouched_sessionUpdate u ?_).bind fun _ => (untouched_record _).bind fun _ =>
    within_pure _
  exact fun _ => rfl

theorem untouched_checkSndfaCode (code : String) :
    Within Untouched (SPassword.checkSndfaCode clock u code) := by
  refine untouched_of_row (within_pure _) fun row => Within.ite (fun _ => ?_) fun _ => within_pure _
  refine Within.ite (fun _ => untouched_utcnow.bind fun _ => ?_) fun _ => within_pure _
  refine (untouched_sessionUpdate u ?_).bind fun _ => (untouched_record _).bind fun _ =>
    within_pure _
  exact fun _ => rfl

theorem untouched_checkEmailCode (code : String) :
    Within Untouched (SPassword.checkEmailCode u code) := by
  refine untouched_of_row (within_pure _) fun row => Within.ite (fun _ => ?_) fun _ => within_pure _
  refine (untouched_sessionUpdate u ?_).bind fun _ => (untouched_record _).bind fun _ =>
    within_pure _
  exact fun _ => rfl

theorem untouched_userAskCheckEmailCode (origin : CodeOrigin) (uuid : ShortCode) :
    Within Untouched (SPasswordManager.userAskCheckEmailCode origin u uuid) := by
  have hset : Within Untouched (SPassword.setCheckEmailCode origin u uuid.code) := by
    refine untouched_of_row (within_pure _) fun row => ?_
    refine (untouched_sessionUpdate u ?_).bind fun _ => untouched_record _
    exact fun _ => rfl
  exact (reads_alreadyEmailChecked u).within.bind fun _ => hset.bind fun _ => within_pure _

theorem untouched_sendEmail (server : SmtpServer) (mail : Mail) :
    Within Untouched (SendMail.sendEmail conf server u mail) :=
  (untouched_record _).bind fun _ => (reads_ofExcept _).within

/-! The handlers read the user first, and refuse without a write. -/

theorem untouched_recoverPassword (uuid : ShortCode) (server : SmtpServer) :
    Within Untouched (SPasswordResource.recoverPassword conf uuid server u) := by
  refine reads_checkSpasswordConfigured.within.bind fun _ => (reads_getUser u).within.bind
    fun user => (reads_checkUserHasEmailDefined user).within.bind fun address =>
      (reads_checkUserHasEmailValidated user).within.bind fun _ => ?_
  refine (untouched_userAskCheckEmailCode u .recover uuid).bind fun code =>
    (untouched_checkEmailCode u code).bind fun _ => ?_
  exact (untouched_sendEmail u server _).bind fun _ => within_pure _

theorem untouched_modifySndfa_request (allowed : Bool) (enable : Option Json) :
    Within Untouched (SPasswordResource.modifySndfa conf allowed enable u) := by
  refine reads_checkSpasswordConfigured.within.bind fun _ => (reads_enforceCall allowed).within.bind
    fun _ => (reads_getUser u).within.bind fun user =>
      (reads_checkUserHasEmailDefined user).within.bind fun _ =>
        (reads_checkUserHasEmailValidated user).within.bind fun _ => ?_
  cases enable.getD (.bool false) with
  | bool b => exact (untouched_modifySndfa u b).bind fun _ => within_pure _
  | _ => exact within_throw _

theorem untouched_getSndfa_request (allowed : Bool) :
    Within Untouched (SPasswordResource.getSndfa allowed u) :=
  (reads_enforceCall allowed).within.bind fun _ => (reads_getUser u).within.bind fun _ =>
    (reads_alreadyEmailChecked u).within.bind fun _ =>
      (reads_getSndfa u).within.bind fun _ => within_pure _

theorem untouched_checkSndfaCode_request (code : String) :
    Within Untouched (SPasswordResource.checkSndfaCode conf clock u code) := by
  refine reads_checkSpasswordConfigured.within.bind fun _ => (reads_getUser u).within.bind
    fun user => (reads_checkUserHasEmailValidated user).within.bind fun _ => ?_
  refine (untouched_checkSndfaCode u code).bind fun checked => ?_
  exact Within.ite (fun _ => within_pure _) fun _ => within_pure _

theorem untouched_askForCheckEmailCode (allowed : Bool) (uuid : ShortCode) (server : SmtpServer) :
    Within Untouched (SPasswordResource.askForCheckEmailCode conf allowed uuid server u) := by
  refine (reads_enforceCall allowed).within.bind fun _ => (reads_getUser u).within.bind fun user =>
    (reads_checkUserHasEmailDefined user).within.bind fun address => ?_
  exact (untouched_userAskCheckEmailCode u .checkemail uuid).bind fun code =>
    (untouched_sendEmail u server _).bind fun _ => within_pure _

theorem untouched_checkEmailCode_request (code : String) :
    Within Untouched (SPasswordResource.checkEmailCode u code) := by
  refine (reads_getUser u).within.bind fun user =>
    (reads_checkUserHasEmailDefined user).within.bind fun _ => ?_
  refine (untouched_checkEmailCode u code).bind fun checked => ?_
  exact Within.ite (fun _ => within_pure _) fun _ => within_pure _

theorem untouched_getBlack_request (allowed : Bool) :
    Within Untouched (SPasswordResource.getBlack conf allowed u) :=
  (reads_enforceCall allowed).within.bind fun _ => (reads_getUser u).within.bind fun _ =>
    (reads_getBlack u).within.bind fun _ =>
      (reads_getPwdExpiration u).within.bind fun _ => within_pure _

end Quiet

/-- The calls of the second factor and of the email verification. -/
def Op.SecondFactorTraffic : Op → Prop
  | .userModifySndfa _ _ | .userGetSndfa _ | .userAskCheckEmailCode _ _ | .userCheckEmailCode _ _
  | .alreadyUserCheckEmail _ | .userCheckSndfaCode _ _ | .request (.modifySndfa _ _ _)
  | .request (.getSndfa _ _) | .request (.checkSndfaCode _ _)
  | .request (.askForCheckEmailCode _ _ _ _) | .request (.checkEmailCode _ _) => True
  | .createUser _ _ | .updateUser _ _ | .deleteUser _ | .authenticate _ _ _ | .userModifyBlack _ _
  | .userGetBlack _ | .userGetPwdExpiration _ | .request (.recoverPassword _ _ _)
  | .request (.resetPassword _ _ _ _ _) | .request (.modifyBlack _ _ _)
  | .request (.getBlack _ _) => False

/-- The calls that write users or ledgers. -/
def Op.WritesLedger : Op → Prop
  | .createUser _ _ | .updateUser _ _ | .deleteUser _ | .authenticate _ _ _ | .userModifyBlack _ _
  | .request (.resetPassword _ _ _ _ _) | .request (.modifyBlack _ _ _) => True
  | _ => False

theorem Op.SecondFactorTraffic.not_writes {op : Op} (h : op.SecondFactorTraffic) :
    ¬ op.WritesLedger := by
  cases op with
  | request r => cases r <;> first | exact h.elim | exact not_false
  | _ => first | exact h.elim | exact not_false

theorem untouched_step {op : Op} (h : ¬ op.WritesLedger) (w : World) :
    Untouched w (step conf clock w op) := by
  have hquiet {α : Type} {m : Py α} (hm : Within Untouched m) :
      Untouched w (final (do let _ ← m) w) := (hm.bind fun _ => within_pure ()) w
  cases op with
  | createUser _ _ | updateUser _ _ | deleteUser _ | authenticate _ _ _ | userModifyBlack _ _ =>
    exact absurd trivial h
  | userModifySndfa u enable => exact hquiet (untouched_modifySndfa u enable)
  | userGetSndfa u => exact hquiet (reads_getSndfa u).within
  | userAskCheckEmailCode u uuid => exact hquiet (untouched_userAskCheckEmailCode u .manager uuid)
  | userCheckEmailCode u code => exact hquiet (untouched_checkEmailCode u code)
  | alreadyUserCheckEmail u => exact hquiet (reads_alreadyEmailChecked u).within
  | userCheckSndfaCode u code => exact hquiet (untouched_checkSndfaCode u code)
  | userGetBlack u => exact hquiet (reads_getBlack u).within
  | userGetPwdExpiration u => exact hquiet (reads_getPwdExpiration u).within
  | request r =>
    cases r with
    | resetPassword _ _ _ _ _ | modifyBlack _ _ _ => exact absurd trivial h
    | recoverPassword u uuid server => exact hquiet (untouched_recoverPassword u uuid server)
    | modifySndfa u enable allowed =>
      exact hquiet (untouched_modifySndfa_request u allowed enable)
    | getSndfa u allowed => exact hquiet (untouched_getSndfa_request u allowed)
    | checkSndfaCode u code => exact hquiet (untouched_checkSndfaCode_request u code)
    | askForCheckEmailCode u uuid server allowed =>
      exact hquiet (untouched_askForCheckEmailCode u allowed uuid server)
    | checkEmailCode u code => exact hquiet (untouched_checkEmailCode_request u code)
    | getBlack u allowed => exact hquiet (untouched_getBlack_request u allowed)

/-! ### What a login does before the verdict -/

/-- Some time and some events later. -/
def World.advanced (w : World) (k : ℕ) (notes : List Event) : World :=
  { w with ticks := w.ticks + k, log := notes ++ w.log }

@[simp] theorem World.advanced_ledger (w : World) (k : ℕ) (notes : List Event) :
    (w.advanced k notes).ledger u = w.ledger u := rfl

/-- A result with this answer. -/
def answered {α : Type} : Except PyExc α → World → EStateM.Result PyExc World α
  | .ok a, w => .ok a w
  | .error e, w => .error e w

/-- What the program answers, how often it reads the clock and what it notes are determined by the
ledger of the user and the readings. It writes nothing. -/
def ReadsLedger {α : Type} (u : String) (m : (ℕ → Time) → Py α) : Prop :=
  ∀ (readings : ℕ → Time) (l : Option Ledger), ∃ answer k notes, ∀ (clock : ℕ → Time) (w : World),
    w.ledger u = l → (∀ i, clock (w.ticks + i) = readings i) →
      (m clock).run w = answered answer (w.advanced k notes)

section ReadsLedger

variable {α β : Type}

theorem readsLedger_ofExcept (x : Except PyExc α) : ReadsLedger u fun _ => ofExcept x := by
  refine fun _ _ => ⟨x, 0, [], fun _ w _ _ => ?_⟩
  cases x <;> rfl

theorem readsLedger_pure (a : α) : ReadsLedger u fun _ => pure a := readsLedger_ofExcept (.ok a)

theorem readsLedger_throw (e : PyExc) : ReadsLedger u fun _ => (throw e : Py α) :=
  readsLedger_ofExcept (.error e)

theorem readsLedger_record (e : Event) : ReadsLedger u fun _ => record e :=
  fun _ _ => ⟨.ok (), 0, [e], fun _ _ _ _ => rfl⟩

theorem readsLedger_utcnow : ReadsLedger u utcnow := by
  refine fun readings _ => ⟨.ok (.utc (readings 0)), 1, [], fun clock w _ hclock => ?_⟩
  rw [run_utcnow, ← hclock 0]
  rfl

theorem ReadsLedger.bind {m : (ℕ → Time) → Py α} {f : (ℕ → Time) → α → Py β}
    (hm : ReadsLedger u m) (hf : ∀ a, ReadsLedger u fun clock => f clock a) :
    ReadsLedger u fun clock => m clock >>= f clock := by
  intro readings l
  obtain ⟨answer, k, notes, hrun⟩ := hm readings l
  cases answer with
  | error e =>
    refine ⟨.error e, k, notes, fun clock w hl hclock => ?_⟩
    rw [EStateM.run_bind, hrun clock w hl hclock]
    rfl
  | ok a =>
    obtain ⟨answer', k', notes', hrun'⟩ := hf a (fun i => readings (k + i)) l
    refine ⟨answer', k + k', notes' ++ notes, fun clock w hl hclock => ?_⟩
    have hlater : ∀ i, clock ((w.advanced k notes).ticks + i) = readings (k + i) := fun i => by
      rw [← hclock, World.advanced, Nat.add_assoc]
    rw [EStateM.run_bind, hrun clock w hl hclock]
    show (f clock a).run (w.advanced k notes) = _
    rw [hrun' clock (w.advanced k notes) hl hlater]
    simp only [World.advanced, List.append_assoc, Nat.add_assoc]

theorem ReadsLedger.ite {c : Prop} [Decidable c] {m n : (ℕ → Time) → Py α} (hm : ReadsLedger u m)
    (hn : ReadsLedger u n) : ReadsLedger u fun clock => if c then m clock else n clock := by
  by_cases h : c
  · simpa only [if_pos h] using hm
  · simpa only [if_neg h] using hn

/-- A row with nothing but its ledger. -/
def Ledger.toRow (userId : String) (l : Ledger) : SPasswordModel where
  userId := userId
  userName := l.userName
  creationTime := l.creationTime
  loginAttempts := l.loginAttempts
  lastLoginAttemptTime := l.lastLoginAttemptTime
  extra := l.extra

/-- Reading the row, for what looks at nothing but its ledger. -/
theorem ReadsLedger.session {f : (ℕ → Time) → Option SPasswordModel → Py α}
    (hf : ∀ l : Option Ledger, ReadsLedger u fun clock => f clock (l.map (Ledger.toRow u)))
    (hrow : ∀ clock row, f clock row = f clock (row.map fun r => r.ledger.toRow u)) :
    ReadsLedger u fun clock => getSpasswordSession u >>= f clock := by
  intro readings l
  obtain ⟨answer, k, notes, hrun⟩ := hf l readings l
  refine ⟨answer, k, notes, fun clock w hl hclock => ?_⟩
  have heq : (w.spassword u).map (fun r => r.ledger.toRow u) = l.map (Ledger.toRow u) := by
    rw [← hl, World.ledger, Option.map_map]
    rfl
  rw [EStateM.run_bind, run_getSpasswordSession]
  show (f clock (w.spassword u)).run w = _
  rw [hrow, heq]
  exact hrun clock w hl hclock

end ReadsLedger

theorem readsLedger_lockoutTest (row : Option SPasswordModel) :
    ReadsLedger u fun clock => Identity.lockoutTest conf clock u row := by
  cases row with
  | none => exact readsLedger_pure ()
  | some row =>
    refine ReadsLedger.ite ?_ (readsLedger_pure ())
    refine (readsLedger_ofExcept _).bind fun last => readsLedger_utcnow.bind fun now => ?_
    exact ReadsLedger.ite ((readsLedger_record _).bind fun _ => readsLedger_throw _)
      (readsLedger_pure ())

/-- The age of the password is judged by the ledger alone. -/
theorem readsLedger_checkPassword :
    ReadsLedger u fun clock => Identity.checkPassword conf clock u := by
  refine ReadsLedger.ite (ReadsLedger.session (fun l => ?_) fun clock row => ?_)
    (readsLedger_pure ())
  · cases l with
    | none => exact readsLedger_pure ()
    | some l =>
      refine (readsLedger_ofExcept _).bind fun checks => ReadsLedger.ite ?_ (readsLedger_pure ())
      refine readsLedger_utcnow.bind fun now => (readsLedger_ofExcept _).bind fun created => ?_
      exact ReadsLedger.ite ((readsLedger_record _).bind fun _ => readsLedger_throw _)
        (readsLedger_pure ())
  · cases row <;> rfl

theorem readsLedger_verdict (env : AuthEnv) (password : String) :
    ReadsLedger u fun clock => Identity.verdict conf clock env u password := by
  have hanswer : ∀ a, ReadsLedger u fun _ => Identity.BaseAnswer.toPy a := by
    intro a
    cases a with
    | user user => exact readsLedger_pure _
    | assertionError => exact readsLedger_pure _
    | raised what => exact readsLedger_throw _
  have hbase : ReadsLedger u fun clock => Identity.baseAuthenticate conf clock env u password := by
    unfold Identity.baseAuthenticate
    cases env.base u password with
    | answer a => exact hanswer a
    | check a => exact readsLedger_checkPassword.bind fun _ => hanswer a
  refine ReadsLedger.ite (ReadsLedger.session (fun l => ?_) fun clock row => ?_) hbase
  · exact (readsLedger_lockoutTest _).bind fun _ => hbase
  · cases row <;> rfl

/-! ### What a kept call does to users and ledgers -/

/-- The ledger after a created or updated event at `t`. -/
def Ledger.stamped (user : User) (t : Time) : Option Ledger → Ledger
  | some l => { l with creationTime := some (.utc t), loginAttempts := 0 }
  | none => ⟨some user.name, some (.utc t), 0, none, []⟩

theorem ledger_stampCreationTime (clock : ℕ → Time) (user : User) (w : World) :
    (final (SPassword.stampCreationTime clock user) w).users = w.users ∧
      ∀ v, (final (SPassword.stampCreationTime clock user) w).ledger v =
        if v = user.id then some (Ledger.stamped user (clock w.ticks) (w.ledger user.id))
        else w.ledger v := by
  cases hrow : w.spassword user.id with
  | none =>
    rw [final_of_run_ok (run_stampCreationTime_of_no_row hrow), World.ledger_of_no_row hrow]
    refine ⟨rfl, fun v => ?_⟩
    split_ifs with hv
    · subst hv
      exact World.setRow_ledger_self _
    · exact World.setRow_ledger_of_ne _ hv
  | some row =>
    rw [final_of_run_ok (run_stampCreationTime_of_row hrow), World.ledger_of_row hrow]
    refine ⟨rfl, fun v => ?_⟩
    split_ifs with hv
    · subst hv
      exact World.setRow_ledger_self _
    · exact World.setRow_ledger_of_ne _ hv

/-- The same users and the same ledgers. -/
structure Agree (w v : World) : Prop where
  users : w.users = v.users
  ledger : ∀ u, w.ledger u = v.ledger u

/-- Every row follows the history, and every user has an address. -/
structure Sound (w : World) : Prop where
  tracks : Tracks w
  addressed : ∀ u userRecord, w.users u = some userRecord → userRecord.Addressable

section Agree

variable {w₁ w₂ : World} {clock₁ clock₂ : ℕ → Time}

theorem agree_stampCreationTime (h : Agree w₁ w₂) (hclock : clock₁ w₁.ticks = clock₂ w₂.ticks)
    (user : User) : Agree (final (SPassword.stampCreationTime clock₁ user) w₁)
      (final (SPassword.stampCreationTime clock₂ user) w₂) := by
  obtain ⟨husers₁, hledger₁⟩ := ledger_stampCreationTime clock₁ user w₁
  obtain ⟨husers₂, hledger₂⟩ := ledger_stampCreationTime clock₂ user w₂
  refine ⟨by rw [husers₁, husers₂, h.users], fun v => ?_⟩
  rw [hledger₁, hledger₂, hclock, h.ledger, h.ledger]

theorem agree_setUser (h : Agree w₁ w₂) (u : String) (userRecord : Option UserRecord) :
    Agree (w₁.setUser u userRecord) (w₂.setUser u userRecord) :=
  ⟨by rw [World.setUser_users, World.setUser_users, h.users], h.ledger⟩

theorem agree_setRow (h : Agree w₁ w₂) {u : String} {row₁ row₂ : Option SPasswordModel}
    (hrow : row₁.map SPasswordModel.ledger = row₂.map SPasswordModel.ledger) :
    Agree (w₁.setRow u row₁) (w₂.setRow u row₂) := by
  refine ⟨h.users, fun v => ?_⟩
  by_cases hv : v = u
  · subst hv
    rw [World.setRow_ledger_self, World.setRow_ledger_self, hrow]
  · rw [World.setRow_ledger_of_ne _ hv, World.setRow_ledger_of_ne _ hv, h.ledger]

theorem agree_recordChanged (h : Agree w₁ w₂) (u : String) (old new : UserRecord) :
    Agree (recordChanged w₁ u old new) (recordChanged w₂ u old new) := by
  rw [recordChanged, recordChanged]
  split_ifs
  · exact ⟨(agree_setUser h u (some new)).users, h.ledger⟩
  · exact agree_setUser h u (some new)

theorem agree_updateUser (henabled : conf.enabled = true) (h : Agree w₁ w₂)
    (hclock : clock₁ w₁.ticks = clock₂ w₂.ticks) (u : String) (change : UserRecord → UserRecord) :
    Agree (final (IdentityApi.updateUser conf clock₁ u change) w₁)
      (final (IdentityApi.updateUser conf clock₂ u change) w₂) := by
  cases huser : w₁.users u with
  | none =>
    have huser₂ : w₂.users u = none := by rw [← h.users, huser]
    simpa [final, IdentityApi.updateUser, huser, huser₂] using h
  | some old =>
    have huser₂ : w₂.users u = some old := by rw [← h.users, huser]
    rw [final_updateUser henabled huser, final_updateUser henabled huser₂]
    refine agree_stampCreationTime (agree_recordChanged h u old _) ?_ _
    rw [recordChanged_ticks, recordChanged_ticks, hclock]

theorem agree_modifyBlack (h : Agree w₁ w₂) (u : String) (enable : Bool) :
    Agree (final (SPassword.modifyBlack u enable) w₁)
      (final (SPassword.modifyBlack u enable) w₂) := by
  have hledger := h.ledger u
  rw [World.ledger, World.ledger] at hledger
  cases hrow₁ : w₁.spassword u with
  | none =>
    have hrow₂ : w₂.spassword u = none := by
      rw [hrow₁] at hledger
      exact Option.map_eq_none_iff.mp hledger.symm
    simpa [final, SPassword.modifyBlack, hrow₁, hrow₂] using h
  | some row₁ =>
    rw [hrow₁] at hledger
    obtain ⟨row₂, hrow₂, heq⟩ := Option.map_eq_some_iff.mp hledger.symm
    have hset : Agree
        (w₁.setRow u (some { row₁ with extra := [("black", pyStr enable)] }))
        (w₂.setRow u (some { row₂ with extra := [("black", pyStr enable)] })) := by
      refine agree_setRow h ?_
      simp only [SPasswordModel.ledger, Ledger.mk.injEq] at heq
      simp [SPasswordModel.ledger, heq]
    have hfinal : ∀ {w : World} {row : SPasswordModel}, w.spassword u = some row →
        final (SPassword.modifyBlack u enable) w =
          (w.setRow u (some { row with extra := [("black", pyStr enable)] })).note
            (.blackModified u enable) := by
      intro w row hrow
      simp [final, SPassword.modifyBlack, hrow]
    rw [hfinal hrow₁, hfinal hrow₂]
    exact ⟨hset.users, hset.ledger⟩

/-- A test that answers alike in two states that agree. -/
theorem agree_bind {α β : Type} {m : Py α} {f : α → Py β} (x : Except PyExc α)
    (h₁ : m.run w₁ = answered x w₁) (h₂ : m.run w₂ = answered x w₂) (h : Agree w₁ w₂)
    (hf : ∀ a, Agree (final (f a) w₁) (final (f a) w₂)) :
    Agree (final (m >>= f) w₁) (final (m >>= f) w₂) := by
  rw [final_bind, final_bind, h₁, h₂]
  cases x with
  | error e => exact h
  | ok a => exact hf a

/-- The request sees the same users, and so takes the same branch. -/
theorem agree_modifyBlack_request (h : Agree w₁ w₂) (u : String) (allowed : Bool)
    (enable : Option Json) :
    Agree (final (SPasswordResource.modifyBlack conf allowed enable u) w₁)
      (final (SPasswordResource.modifyBlack conf allowed enable u) w₂) := by
  have hconfigured : ∀ w : World, (SPasswordResource.checkSpasswordConfigured conf).run w =
      answered (if conf.enabled = true ∧ conf.sndfa = true then .ok () else .error .notConfigured)
        w := by
    intro w
    rw [run_checkSpasswordConfigured]
    split_ifs <;> rfl
  refine agree_bind _ (hconfigured w₁) (hconfigured w₂) h fun _ => ?_
  have henforced : ∀ w : World, (SPasswordResource.enforceCall allowed).run w =
      answered (if allowed = true then .ok () else .error .forbidden) w := by
    intro w
    cases allowed <;> rfl
  refine agree_bind _ (henforced w₁) (henforced w₂) h fun _ => ?_
  have huser : ∀ w : World, w.users = w₁.users → (getUser u).run w =
      answered ((w₁.users u).elim (.error (.userNotFound u)) fun r => .ok (r.toUser u)) w := by
    intro w hw
    rw [← hw]
    cases hrecord : w.users u with
    | none => exact run_getUser_none w hrecord
    | some userRecord => exact run_getUser_some w hrecord
  refine agree_bind _ (huser w₁ rfl) (huser w₂ h.users.symm) h fun _ => ?_
  cases enable.getD (.bool false) with
  | bool b =>
    have hfinal : ∀ w : World, final (do
        let res ← SPasswordManager.userModifyBlack u b
        return (⟨.modified res, 200, some "application/json"⟩ : HttpResponse)) w =
          final (SPassword.modifyBlack u b) w := final_bind_reads fun _ => reads_pure _
    rw [hfinal, hfinal]
    exact agree_modifyBlack h u b
  | _ => exact h

/-- The attempt of somebody who is not a user leaves users and ledgers alone. -/
theorem untouched_attempt_of_nobody (henabled : conf.enabled = true) {w : World}
    (huser : w.users u = none) (hrow : w.spassword u = none) (env : AuthEnv) (res : Option User) :
    Untouched w (final (Identity.attempt conf clock env u res) w) := by
  have houtcome : Identity.AttemptOutcome conf clock env w u res
      ((Identity.attempt conf clock env u res).run w) :=
    Identity.attempt_outcome henabled env w u res
  rw [final]
  generalize (Identity.attempt conf clock env u res).run w = result at houtcome
  cases houtcome with
  | lost _ e n hlost => exact ⟨rfl, fun _ => rfl⟩
  | firstRejected _ _ huser' | firstAccepted _ _ _ huser' =>
    rw [huser] at huser'
    cases huser'
  | rejected row hrow' _ | passed _ row _ hrow' _ _ | signed _ row _ hrow' _ _ _ _
  | unverified _ row hrow' _ _ | noAddress _ row _ _ _ _ hrow' _ _ _ _ _
  | mailRaised _ row _ _ _ _ _ _ hrow' _ _ _ _ _ _ _
  | challenged _ row _ _ _ _ _ _ hrow' _ _ _ _ _ _ _ =>
    rw [hrow] at hrow'
    cases hrow'

/-- What an attempt leaves when every user has an address and the mail returns. -/
theorem agree_attempt (henabled : conf.enabled = true) (h : Agree w₁ w₂) (h₁ : Sound w₁)
    (h₂ : Sound w₂) (hclock : clock₁ w₁.ticks = clock₂ w₂.ticks) {env : AuthEnv}
    (hmail : ∀ address : Address, address.writable = true →
      SendMail.Returns conf env.server address)
    (u : String) (res : Option User) :
    Agree (final (Identity.attempt conf clock₁ env u res) w₁)
      (final (Identity.attempt conf clock₂ env u res) w₂) := by
  cases huser : w₁.users u with
  | none =>
    have hnobody : ∀ {w : World}, Sound w → w.users u = none → w.spassword u = none := by
      intro w hw hnone
      by_contra hsome
      obtain ⟨row, hrow⟩ := Option.ne_none_iff_exists'.mp hsome
      exact hw.tracks.user u row hrow hnone
    have huser₂ : w₂.users u = none := by rw [← h.users, huser]
    have hu₁ : Untouched w₁ (final (Identity.attempt conf clock₁ env u res) w₁) :=
      untouched_attempt_of_nobody henabled huser (hnobody h₁ huser) env res
    have hu₂ : Untouched w₂ (final (Identity.attempt conf clock₂ env u res) w₂) :=
      untouched_attempt_of_nobody henabled huser₂ (hnobody h₂ huser₂) env res
    exact ⟨by rw [hu₁.users, hu₂.users, h.users], fun v => by rw [hu₁.ledger, hu₂.ledger, h.ledger]⟩
  | some userRecord =>
    have huser₂ : w₂.users u = some userRecord := by rw [← h.users, huser]
    have hleft : ∀ (w : World) (clock : ℕ → Time), Sound w → w.users u = some userRecord →
        (final (Identity.attempt conf clock env u res) w).users = w.users ∧
          ∀ v, (final (Identity.attempt conf clock env u res) w).ledger v =
            if v = u then
              some (Ledger.attempted userRecord res.isSome (clock w.ticks) (w.ledger u))
            else w.ledger v := by
      intro w clock hw hrecord
      have hattempt : AttemptLeft conf clock env w u userRecord res
          ((Identity.attempt conf clock env u res).run w) :=
        attempt_left henabled hw.tracks hrecord env res
      rw [final]
      generalize (Identity.attempt conf clock env u res).run w = result at hattempt
      cases hattempt with
      | recorded _ w' hresult husers hother hledger _ =>
        have hboth : w'.users = w.users ∧ ∀ v, w'.ledger v =
            if v = u then
              some (Ledger.attempted userRecord res.isSome (clock w.ticks) (w.ledger u))
            else w.ledger v := by
          refine ⟨husers, fun v => ?_⟩
          split_ifs with hv
          · subst hv
            exact hledger
          · exact hother v hv
        rcases hresult with ⟨answer, rfl⟩ | ⟨e, rfl, -⟩ <;> exact hboth
      | unmailed row e w' hrow hres hneeds hmissing =>
        obtain ⟨address, haddress, hwritable⟩ := hw.addressed u userRecord hrecord
        exact absurd ⟨address, by simp [hrecord, haddress], hmail address hwritable⟩ hmissing
    obtain ⟨husers₁, hledger₁⟩ := hleft w₁ clock₁ h₁ huser
    obtain ⟨husers₂, hledger₂⟩ := hleft w₂ clock₂ h₂ huser₂
    refine ⟨by rw [husers₁, husers₂, h.users], fun v => ?_⟩
    rw [hledger₁, hledger₂, hclock, h.ledger, h.ledger]

end Agree

/-! ### Two runs -/

/-- A call, with the clock readings it sees. -/
structure TimedOp where
  op : Op
  readings : ℕ → Time

/-- The clock of a call that starts in `w`. -/
def clockFrom (w : World) (readings : ℕ → Time) (n : ℕ) : Time := readings (n - w.ticks)

theorem clockFrom_add (w : World) (readings : ℕ → Time) (i : ℕ) :
    clockFrom w readings (w.ticks + i) = readings i := by
  rw [clockFrom, Nat.add_sub_cancel_left]

theorem clockFrom_ticks (w : World) (readings : ℕ → Time) :
    clockFrom w readings w.ticks = readings 0 := clockFrom_add w readings 0

/-- The state after a call under its own readings. -/
def stepAt (conf : Conf) (w : World) (call : TimedOp) : World :=
  step conf (clockFrom w call.readings) w call.op

/-- A call leaves every user an address a message can be made for, its mail returns, and it does not
reset a password. -/
def Op.Ordinary (conf : Conf) : Op → Prop
  | .createUser _ userRecord => userRecord.Addressable
  | .updateUser _ userRecord =>
    ∀ address, userRecord.email = some address → address.writable = true
  | .authenticate _ _ env =>
    ∀ address : Address, address.writable = true → SendMail.Returns conf env.server address
  | .request (.resetPassword _ _ _ _ _) => False
  | _ => True

/-- Only records with such an address are stored. -/
def Policy.addressing : Policy where
  stores _ _ stored := ∀ userRecord, stored = some userRecord → userRecord.Addressable
  presents _ _ _ := True
  notes _ := True

theorem Move.addressed (h : Move clock .addressing u w w')
    (hw : ∀ v userRecord, w.users v = some userRecord → userRecord.Addressable) (v : String)
    (userRecord : UserRecord) (hrecord : w'.users v = some userRecord) :
    userRecord.Addressable := by
  by_cases hv : v = u
  · subst hv
    cases h with
    | recordStored new hstores =>
      refine hstores userRecord ?_
      simpa using hrecord
    | passwordStored old password hold =>
      obtain rfl : { old with password } = userRecord := by simpa using hrecord
      exact hw v old hold
    | userRemoved hstores hnotes => simp at hrecord
    | userDropped hstores hrow => simp at hrecord
    | _ => exact hw v userRecord hrecord
  · exact hw v userRecord ((h.other hv).1.symm.trans hrecord)

theorem Op.Ordinary.allowed {op : Op} (h : op.Ordinary conf) (hw : Sound w) :
    op.Allowed conf .addressing w := by
  refine ⟨?_, fun _ _ => trivial⟩
  cases op with
  | createUser u userRecord =>
    rintro r hr
    cases hr
    exact h
  | updateUser u userRecord =>
    rintro old huser r hr
    cases hr
    exact (hw.addressed u old huser).merge h
  | deleteUser u =>
    rintro r hr
    cases hr
  | request r => cases r <;> simp [Op.Admitted, Policy.addressing]
  | _ => simp [Op.Admitted, Policy.addressing]

theorem Sound.stepAt (henabled : conf.enabled = true) (h : Sound w) {call : TimedOp}
    (hcall : call.op.Ordinary conf) : Sound (stepAt conf w call) := by
  have hmoves : Moves (clockFrom w call.readings) .addressing call.op.userId w
      (KeystoneSpassword.stepAt conf w call) := step_moves (.inl henabled) (hcall.allowed h)
  constructor
  · exact keeps_of_steps (I := Tracks) (fun _ _ hmove hw => hmove.tracks hw) hmoves h.tracks
  · exact keeps_of_steps
      (I := fun w => ∀ v r, w.users v = some r → r.Addressable)
      (fun _ _ hmove hw => hmove.addressed hw) hmoves h.addressed

/-- The states of two runs. -/
structure Related (w₁ w₂ : World) : Prop where
  agree : Agree w₁ w₂
  sound₁ : Sound w₁
  sound₂ : Sound w₂

/-- Up to the verdict, the two runs answer a login alike, whatever the answer. -/
theorem verdict_agree (conf : Conf) {w₁ w₂ : World} (h : Agree w₁ w₂) (readings : ℕ → Time)
    (env : AuthEnv) (u password : String) : ∃ answer k notes,
      (Identity.verdict conf (clockFrom w₁ readings) env u password).run w₁ =
        answered answer (w₁.advanced k notes) ∧
      (Identity.verdict conf (clockFrom w₂ readings) env u password).run w₂ =
        answered answer (w₂.advanced k notes) := by
  have hreads : ReadsLedger u fun clock => Identity.verdict conf clock env u password :=
    readsLedger_verdict env password
  obtain ⟨answer, k, notes, hrun⟩ := hreads readings (w₁.ledger u)
  exact ⟨answer, k, notes, hrun _ w₁ rfl (clockFrom_add w₁ readings),
    hrun _ w₂ (h.ledger u).symm (clockFrom_add w₂ readings)⟩

/-- A login that gets its verdict has noted nothing on the way. -/
theorem Sound.advanced (henabled : conf.enabled = true) (h : Sound w) {env : AuthEnv}
    {password : String} {res : Option User} {k : ℕ} {notes : List Event}
    (hrun : (Identity.verdict conf clock env u password).run w = .ok res (w.advanced k notes)) :
    Sound (w.advanced k notes) := by
  have houtcome : Identity.VerdictOutcome conf clock w u
      ((Identity.verdict conf clock env u password).run w) :=
    Identity.verdict_outcome henabled env w u password
  rw [hrun] at houtcome
  generalize w.advanced k notes = w' at houtcome
  cases houtcome with
  | answered _ n hfree => exact ⟨⟨h.tracks.present, h.tracks.user, h.tracks.follows⟩, h.addressed⟩

theorem agree_authenticate (henabled : conf.enabled = true) {w₁ w₂ : World} (h : Related w₁ w₂)
    (readings : ℕ → Time) {env : AuthEnv}
    (hmail : ∀ address : Address, address.writable = true →
      SendMail.Returns conf env.server address)
    (u password : String) :
    Agree (final (Identity.authenticate conf (clockFrom w₁ readings) env u password) w₁)
      (final (Identity.authenticate conf (clockFrom w₂ readings) env u password) w₂) := by
  obtain ⟨answer, k, notes, hrun₁, hrun₂⟩ := verdict_agree conf h.agree readings env u password
  rw [Identity.authenticate, Identity.authenticate, final_bind, final_bind, hrun₁, hrun₂]
  have hadvanced : Agree (w₁.advanced k notes) (w₂.advanced k notes) :=
    ⟨h.agree.users, h.agree.ledger⟩
  cases answer with
  | error e => exact hadvanced
  | ok res =>
    refine agree_attempt henabled hadvanced (h.sound₁.advanced henabled hrun₁)
      (h.sound₂.advanced henabled hrun₂) ?_ hmail u res
    exact (clockFrom_add w₁ readings k).trans (clockFrom_add w₂ readings k).symm

/-- A kept call treats the two runs alike. -/
theorem agree_stepAt (henabled : conf.enabled = true) {w₁ w₂ : World} (h : Related w₁ w₂)
    {call : TimedOp} (hcall : call.op.Ordinary conf) :
    Agree (stepAt conf w₁ call) (stepAt conf w₂ call) := by
  have hclock : clockFrom w₁ call.readings w₁.ticks = clockFrom w₂ call.readings w₂.ticks :=
    (clockFrom_ticks w₁ call.readings).trans (clockFrom_ticks w₂ call.readings).symm
  obtain ⟨op, readings⟩ := call
  by_cases hwrites : op.WritesLedger
  · cases op with
    | createUser u userRecord =>
      rw [stepAt, stepAt, step, step, Op.program, Op.program, final_createUser henabled,
        final_createUser henabled]
      have hstored : Agree ((w₁.setUser u (some userRecord)).note (.passwordSet u))
          ((w₂.setUser u (some userRecord)).note (.passwordSet u)) :=
        ⟨(agree_setUser h.agree u (some userRecord)).users, h.agree.ledger⟩
      exact agree_stampCreationTime hstored hclock _
    | updateUser u userRecord => exact agree_updateUser henabled h.agree hclock u _
    | deleteUser u =>
      rw [stepAt, stepAt, step, step, Op.program, Op.program, final_deleteUser henabled,
        final_deleteUser henabled]
      have hremoved : Agree ((w₁.setUser u none).setRow u none)
          ((w₂.setUser u none).setRow u none) := agree_setRow (agree_setUser h.agree u none) rfl
      exact ⟨hremoved.users, hremoved.ledger⟩
    | authenticate u password env =>
      rw [stepAt, stepAt, step_authenticate, step_authenticate]
      exact agree_authenticate henabled h readings hcall u password
    | userModifyBlack u enable =>
      have hfinal : ∀ w : World, final (do
          let _ ← SPasswordManager.userModifyBlack u enable
          return () : Py Unit) w = final (SPassword.modifyBlack u enable) w :=
        final_bind_reads fun _ => reads_pure _
      exact (congrArg₂ Agree (hfinal w₁) (hfinal w₂)).mpr (agree_modifyBlack h.agree u enable)
    | request r =>
      cases r with
      | resetPassword u code newPassword fault server => exact hcall.elim
      | modifyBlack u enable allowed =>
        have hfinal : ∀ w : World, final (do
            let _ ← SPasswordResource.modifyBlack conf allowed enable u
            return () : Py Unit) w =
              final (SPasswordResource.modifyBlack conf allowed enable u) w :=
          final_bind_reads fun _ => reads_pure _
        exact (congrArg₂ Agree (hfinal w₁) (hfinal w₂)).mpr
          (agree_modifyBlack_request h.agree u allowed enable)
      | _ => exact hwrites.elim
    | _ => exact hwrites.elim
  · have h₁ : Untouched w₁ (stepAt conf w₁ ⟨op, readings⟩) := untouched_step hwrites w₁
    have h₂ : Untouched w₂ (stepAt conf w₂ ⟨op, readings⟩) := untouched_step hwrites w₂
    exact ⟨by rw [h₁.users, h₂.users, h.agree.users],
      fun v => by rw [h₁.ledger, h₂.ledger, h.agree.ledger]⟩

/-- A login is refused with this message before the base driver has a verdict. -/
def RefusedWith (conf : Conf) (clock : ℕ → Time) (w : World) (u password : String) (env : AuthEnv)
    (message : String) : Prop :=
  ∃ w', (Identity.verdict conf clock env u password).run w =
    .error (.spasswordUnauthorized message) w'

/-- The refusal is the answer of the login. -/
theorem RefusedWith.authenticate {password message : String} {env : AuthEnv}
    (h : RefusedWith conf clock w u password env message) :
    ∃ w', (Identity.authenticate conf clock env u password).run w =
      .error (.spasswordUnauthorized message) w' := by
  obtain ⟨w', hrun⟩ := h
  exact ⟨w', by rw [Identity.authenticate, EStateM.run_bind, hrun]⟩

theorem refusedWith_iff {w₁ w₂ : World} (h : Agree w₁ w₂) (readings : ℕ → Time)
    (u password : String) (env : AuthEnv) (message : String) :
    RefusedWith conf (clockFrom w₁ readings) w₁ u password env message ↔
      RefusedWith conf (clockFrom w₂ readings) w₂ u password env message := by
  obtain ⟨answer, k, notes, hrun₁, hrun₂⟩ := verdict_agree conf h readings env u password
  rw [RefusedWith, RefusedWith, hrun₁, hrun₂]
  cases answer <;> simp [answered]

/-- **The second factor has no say in the lockout.** A run is compared with the same run without
some of its calls of the second factor and of the email verification (those marked `false`). After
any number of calls the ledgers are the same, and so is every refusal of the next login as blocked
or expired. -/
theorem second_factor_noninterference (henabled : conf.enabled = true)
    {users : String → Option UserRecord}
    (husers : ∀ u userRecord, users u = some userRecord → userRecord.Addressable)
    {calls : List (TimedOp × Bool)} (hcalls : ∀ call ∈ calls, call.1.op.Ordinary conf)
    (herased : ∀ call ∈ calls, call.2 = false → call.1.op.SecondFactorTraffic) :
    let w₁ := Machine.run (stepAt conf) (.initial users) (calls.map Prod.fst)
    let w₂ := Machine.run (stepAt conf) (.initial users) ((calls.filter Prod.snd).map Prod.fst)
    (∀ u, w₁.ledger u = w₂.ledger u) ∧ ∀ readings u password env name,
      (RefusedWith conf (clockFrom w₁ readings) w₁ u password env (Identity.blockedMessage name) ↔
        RefusedWith conf (clockFrom w₂ readings) w₂ u password env
          (Identity.blockedMessage name)) ∧
      (RefusedWith conf (clockFrom w₁ readings) w₁ u password env (Identity.expiredMessage name) ↔
        RefusedWith conf (clockFrom w₂ readings) w₂ u password env
          (Identity.expiredMessage name)) := by
  intro w₁ w₂
  have hsound : Sound (.initial users) := ⟨tracks_initial users, husers⟩
  have hrelated : Related w₁ w₂ := by
    refine Machine.run_erased (R := Related) (fun call hmem s t h => ?_) (fun call hmem s t h => ?_)
      ⟨⟨rfl, fun _ => rfl⟩, hsound, hsound⟩
    · have hcall : call.op.Ordinary conf := hcalls _ hmem
      exact ⟨agree_stepAt henabled h hcall, h.sound₁.stepAt henabled hcall,
        h.sound₂.stepAt henabled hcall⟩
    · have hquiet : Untouched s (stepAt conf s call) :=
        untouched_step (herased _ hmem rfl).not_writes s
      exact ⟨⟨hquiet.users.trans h.agree.users,
        fun v => (hquiet.ledger v).trans (h.agree.ledger v)⟩,
        h.sound₁.stepAt henabled (hcalls _ hmem), h.sound₂⟩
  exact ⟨hrelated.agree.ledger, fun readings u password env name =>
    ⟨refusedWith_iff hrelated.agree readings u password env _,
      refusedWith_iff hrelated.agree readings u password env _⟩⟩

/-- A login of `alice`, with the second factor switched on before it in one run, and not in the
other. -/
theorem second_factor_noninterference_challenged :
    let calls : List (TimedOp × Bool) :=
      [(⟨Sample.login, Sample.ticking⟩, true),
        (⟨.userAskCheckEmailCode "alice" Sample.emailCode, Sample.ticking⟩, false),
        (⟨.userCheckEmailCode "alice" Sample.emailCode.code, Sample.ticking⟩, false),
        (⟨.userModifySndfa "alice" true, Sample.ticking⟩, false),
        (⟨Sample.guess, Sample.ticking⟩, true),
        (⟨Sample.login, Sample.ticking⟩, true)]
    (Machine.run (stepAt Sample.conf) (.initial Sample.users) (calls.map Prod.fst)).ledger "alice" =
      (Machine.run (stepAt Sample.conf) (.initial Sample.users)
        ((calls.filter Prod.snd).map Prod.fst)).ledger "alice" := by
  intro calls
  have husers : ∀ u userRecord, Sample.users u = some userRecord → userRecord.Addressable := by
    intro u userRecord h
    rw [Sample.users] at h
    split_ifs at h
    cases h
    exact ⟨_, rfl, rfl⟩
  have hreturns : ∀ address : Address, address.writable = true →
      SendMail.Returns Sample.conf .up address := by
    intro address haddress
    have halice : SendMail.Returns Sample.conf .up (.text "alice@a.example") := ⟨true, rfl⟩
    exact (SendMail.returns_iff_of_writable rfl haddress).mp halice
  have hcalls : ∀ call ∈ calls, call.1.op.Ordinary Sample.conf := by
    simpa [calls, Op.Ordinary, Sample.login, Sample.guess, Sample.env] using hreturns
  have herased : ∀ call ∈ calls, call.2 = false → call.1.op.SecondFactorTraffic := by
    simp [calls, Op.SecondFactorTraffic]
  exact (second_factor_noninterference rfl husers hcalls herased).1 "alice"

end KeystoneSpassword
