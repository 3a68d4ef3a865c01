import KeystoneSpassword.Lib.SharedCounter
import KeystoneSpassword.Lockout

/-!
# Logins at the same time

`authenticate` is not one transaction. It reads the row for the lockout test, asks the base
driver, reads the row again, and commits. Here every login is taken apart at these four points,
and a schedule says whose turn it is.

## Who loses an attempt

The commit writes the counter that was computed from the second read, so a login overwrites what
another one has stored in between, and the insert of a first row fails if there is one by then.
That is a counter without a lock, and `Lib.SharedCounter` says which schedules of such a counter
lose an increment. The logins simulate it turn by turn.

## Main definitions

* `Parallel` — calls in progress over one database
* `LoginPhase`, `LoginPhase.next` — a login between two of its turns
* `LoginPhase.Clear` — the turn loses nothing

## Main results

* `solo_login` — the four turns of a login that runs alone are `authenticate`
* `attempts_counted_iff` — which schedules of wrong passwords count all of them
-/

namespace KeystoneSpassword

open StateProgram

variable {conf : Conf} {clock : ℕ → Time} {u : String} {w w' : World}

/-! ### Calls in progress -/

/-- The database, and how far each call is. -/
structure Parallel (Phase : Type) (n : ℕ) where
  world : World
  phases : Fin n → Phase

namespace Parallel

variable {Phase : Type} {n : ℕ}

/-- One turn of a call: its next program runs to the end, or an exception ends the call. -/
def turn (next : Fin n → Phase → Py Phase) (raised : Phase → PyExc → Phase)
    (s : Parallel Phase n) (i : Fin n) : Parallel Phase n :=
  match (next i (s.phases i)).run s.world with
  | .ok phase w => ⟨w, Function.update s.phases i phase⟩
  | .error e w => ⟨w, Function.update s.phases i (raised (s.phases i) e)⟩

variable {next : Fin n → Phase → Py Phase} {raised : Phase → PyExc → Phase}
  {s : Parallel Phase n} {i : Fin n}

theorem turn_of_ok {phase : Phase} (h : (next i (s.phases i)).run s.world = .ok phase w) :
    turn next raised s i = ⟨w, Function.update s.phases i phase⟩ := by rw [turn, h]

theorem turn_of_error {e : PyExc} (h : (next i (s.phases i)).run s.world = .error e w) :
    turn next raised s i = ⟨w, Function.update s.phases i (raised (s.phases i) e)⟩ := by
  rw [turn, h]

/-- A turn that leaves its call where it is, and the database as it is. -/
theorem turn_of_idle (h : (next i (s.phases i)).run s.world = .ok (s.phases i) s.world) :
    turn next raised s i = s := by
  rw [turn_of_ok h, Function.update_eq_self]

/-- The turn of a call that runs alone. -/
theorem turn_alone (next : Phase → Py Phase) (raised : Phase → PyExc → Phase) (phase : Phase) :
    turn (fun _ => next) raised ⟨w, fun _ : Fin 1 => phase⟩ 0 =
      match (next phase).run w with
      | .ok phase' w' => ⟨w', fun _ => phase'⟩
      | .error e w' => ⟨w', fun _ => raised phase e⟩ := by
  have hupdate : ∀ phase', Function.update (fun _ : Fin 1 => phase) 0 phase' = fun _ => phase' := by
    intro phase'
    funext i
    rw [Subsingleton.elim i 0, Function.update_self]
  rw [turn]
  cases (next phase).run w <;> simp only [hupdate]

end Parallel

/-! ### A login and its turns -/

/-- The password of a login, and what it finds outside the extension. -/
structure LoginCall where
  password : String
  env : AuthEnv

/-- A login between two of its turns. -/
inductive LoginPhase
  /-- is to read the row for the lockout test -/
  | calling
  /-- has passed the lockout test, and is to ask the base driver -/
  | admitted
  /-- has the answer, and is to read the row again -/
  | judged (res : Option User)
  /-- has read the row again, and is to commit -/
  | attempting (res : Option User) (spasswordRef : Option SPasswordModel) (now : DateTime)
  /-- is over, without an answer of the base driver -/
  | refused (e : PyExc)
  /-- is over -/
  | ended (answer : Except PyExc AuthResult)

/-- The first read of `authenticate`, and the lockout test on it. -/
def Identity.lockoutGate (conf : Conf) (clock : ℕ → Time) (u : String) : Py Unit := do
  if conf.enabled && !decide (u ∈ conf.pwdUserBlacklist) then
    Identity.lockoutTest conf clock u (← getSpasswordSession u)

/-- The base driver comes after the lockout test. -/
theorem Identity.verdict_eq (env : AuthEnv) (password : String) :
    verdict conf clock env u password =
      lockoutGate conf clock u >>= fun _ => baseAuthenticate conf clock env u password := by
  rw [verdict, lockoutGate]
  split_ifs <;> simp

namespace LoginPhase

/-- The next piece of `authenticate`. -/
def next (conf : Conf) (clock : ℕ → Time) (u : String) (call : LoginCall) :
    LoginPhase → Py LoginPhase
  | .calling => do
    Identity.lockoutGate conf clock u
    return .admitted
  | .admitted => do
    return .judged (← Identity.baseAuthenticate conf clock call.env u call.password)
  | .judged res => do
    if conf.enabled then
      let spasswordRef ← getSpasswordSession u
      let now ← utcnow clock
      record (.baseVerdict u now.wall res.isSome)
      return .attempting res spasswordRef now
    else
      match res with
      | some user => return .ended (.ok ⟨user, none⟩)
      | none => throw (.spasswordUnauthorized Identity.invalidMessage)
  | .attempting res spasswordRef now => do
    return .ended (.ok (← Identity.recordAttempt conf clock call.env u spasswordRef res now))
  | .refused e => return .refused e
  | .ended answer => return .ended answer

/-- An exception ends the login. -/
def raised : LoginPhase → PyExc → LoginPhase
  | .calling, e | .admitted, e => .refused e
  | _, e => .ended (.error e)

/-- The login is over, with this answer. -/
def answer? : LoginPhase → Option (Except PyExc AuthResult)
  | .refused e => some (.error e)
  | .ended answer => some answer
  | _ => none

end LoginPhase

/-- One turn of the logins `calls` of the user. -/
def loginTurn (conf : Conf) (clock : ℕ → Time) (u : String) {n : ℕ} (calls : Fin n → LoginCall) :
    Parallel LoginPhase n → Fin n → Parallel LoginPhase n :=
  Parallel.turn (fun i => LoginPhase.next conf clock u (calls i)) LoginPhase.raised

/-- The answer of a program, and the state it leaves. -/
def outcome {α : Type} (m : Py α) (w : World) : Except PyExc α × World :=
  match m.run w with
  | .ok a w' => (.ok a, w')
  | .error e w' => (.error e, w')

section Turns

variable {n : ℕ} {calls : Fin n → LoginCall} {s : Parallel LoginPhase n} {i : Fin n}

theorem loginTurn_of_ok {phase phase' : LoginPhase} (hi : s.phases i = phase)
    (h : (phase.next conf clock u (calls i)).run s.world = .ok phase' w) :
    loginTurn conf clock u calls s i = ⟨w, Function.update s.phases i phase'⟩ := by
  subst hi
  exact Parallel.turn_of_ok h

theorem loginTurn_of_error {phase : LoginPhase} {e : PyExc} (hi : s.phases i = phase)
    (h : (phase.next conf clock u (calls i)).run s.world = .error e w) :
    loginTurn conf clock u calls s i = ⟨w, Function.update s.phases i (phase.raised e)⟩ := by
  subst hi
  exact Parallel.turn_of_error h

/-- A login that is over stays as it is. -/
theorem loginTurn_of_over {answer : Except PyExc AuthResult}
    (hi : (s.phases i).answer? = some answer) : loginTurn conf clock u calls s i = s := by
  refine Parallel.turn_of_idle ?_
  cases hphase : s.phases i with
  | refused e | ended answer => rfl
  | calling | admitted | judged _ | attempting _ _ _ =>
    rw [hphase] at hi
    cases hi

/-- The turns of a login that is over. -/
theorem run_of_over {answer : Except PyExc AuthResult} (hi : (s.phases i).answer? = some answer)
    (k : ℕ) : Machine.run (loginTurn conf clock u calls) s (List.replicate k i) = s := by
  induction k with
  | zero => rfl
  | succ k ih => rw [List.replicate_succ, Machine.run_cons, loginTurn_of_over hi, ih]

/-- The turn that reads the row again and notes the answer of the base driver. -/
theorem loginTurn_of_judged (henabled : conf.enabled = true) {res : Option User}
    (hi : s.phases i = .judged res) :
    loginTurn conf clock u calls s i = ⟨Identity.afterVerdict clock s.world u res.isSome,
      Function.update s.phases i
        (.attempting res (s.world.spassword u) (.utc (clock s.world.ticks)))⟩ := by
  exact loginTurn_of_ok hi (by simp [LoginPhase.next, henabled, Identity.afterVerdict])

end Turns

/-- The first of the turns of a login that runs alone. -/
theorem run_alone {call : LoginCall} {phase : LoginPhase} (k : ℕ) :
    Machine.run (loginTurn conf clock u fun _ : Fin 1 => call) ⟨w, fun _ => phase⟩
        (List.replicate (k + 1) 0) =
      match (phase.next conf clock u call).run w with
      | .ok phase' w' => Machine.run (loginTurn conf clock u fun _ : Fin 1 => call)
          ⟨w', fun _ => phase'⟩ (List.replicate k 0)
      | .error e w' => Machine.run (loginTurn conf clock u fun _ : Fin 1 => call)
          ⟨w', fun _ => phase.raised e⟩ (List.replicate k 0) := by
  rw [List.replicate_succ, Machine.run_cons, loginTurn, Parallel.turn_alone]
  cases (phase.next conf clock u call).run w <;> rfl

/-- The four turns of a login that runs alone are `authenticate`. -/
theorem solo_login (w : World) (call : LoginCall) :
    let s := Machine.run (loginTurn conf clock u fun _ : Fin 1 => call) ⟨w, fun _ => .calling⟩
      (List.replicate 4 0)
    ((s.phases 0).answer?, s.world) =
      (some (outcome (Identity.authenticate conf clock call.env u call.password) w).1,
        (outcome (Identity.authenticate conf clock call.env u call.password) w).2) := by
  dsimp only
  rw [run_alone, outcome, Identity.authenticate, Identity.verdict_eq, EStateM.run_bind,
    EStateM.run_bind]
  cases hgate : (Identity.lockoutGate conf clock u).run w with
  | error e w₁ =>
    simp only [LoginPhase.next, EStateM.run_bind, hgate, LoginPhase.raised]
    rw [run_of_over rfl]
    rfl
  | ok _ w₁ =>
    simp only [LoginPhase.next, EStateM.run_bind, hgate, EStateM.run_pure]
    rw [run_alone]
    cases hbase : (Identity.baseAuthenticate conf clock call.env u call.password).run w₁ with
    | error e w₂ =>
      simp only [LoginPhase.next, EStateM.run_bind, hbase, LoginPhase.raised]
      rw [run_of_over rfl]
      rfl
    | ok res w₂ =>
      simp only [LoginPhase.next, EStateM.run_bind, hbase, EStateM.run_pure]
      rw [run_alone]
      by_cases henabled : conf.enabled = true
      · simp only [LoginPhase.next, Identity.attempt, if_pos henabled, EStateM.run_bind,
          run_getSpasswordSession, run_utcnow, run_record, EStateM.run_pure]
        rw [run_alone]
        simp only [LoginPhase.next, EStateM.run_bind, EStateM.run_pure]
        cases (Identity.recordAttempt conf clock call.env u (w₂.spassword u) res
          (.utc (clock w₂.ticks))).run _ <;> rfl
      · simp only [LoginPhase.next, Identity.attempt, if_neg henabled]
        cases res with
        | none =>
          simp only [run_throw]
          rw [run_of_over rfl]
          rfl
        | some user =>
          simp only [EStateM.run_pure]
          rw [run_of_over rfl]
          rfl

/-! ### Which turns lose nothing -/

/-- The lockout test lets a call through that is made now. -/
def LockoutPasses (conf : Conf) (clock : ℕ → Time) (w : World) (u : String) : Prop :=
  u ∈ conf.pwdUserBlacklist ∨ ∀ row, w.spassword u = some row →
    conf.pwdMaxTries < row.loginAttempts →
    ∃ last, row.lastLoginAttemptTime = some last ∧ last.wall ≤ clock w.ticks - conf.blockTime

/-- The password of the user is not expired now, or its age is not looked at. -/
def PasswordCurrent (conf : Conf) (clock : ℕ → Time) (w : World) (u : String) : Prop :=
  ∀ row, w.spassword u = some row →
    Identity.checksExpiry conf u row = .ok false ∨
      Identity.checksExpiry conf u row = .ok true ∧ ∃ created, row.creationTime = some created ∧
        clock w.ticks - days conf.pwdExpDays ≤ created.wall

/-- The base driver finds the password wrong. -/
def LoginCall.Wrong (call : LoginCall) (u : String) : Prop :=
  call.env.base u call.password = .answer .assertionError ∨
    call.env.base u call.password = .check .assertionError

/-- The login is not refused in its next turn, and if it commits in it, the counter that is stored
is the one it has read. -/
def LoginPhase.Clear (conf : Conf) (clock : ℕ → Time) (u : String) (call : LoginCall) (w : World) :
    LoginPhase → Prop
  | .calling => LockoutPasses conf clock w u
  | .admitted => call.env.base u call.password = .check .assertionError →
    PasswordCurrent conf clock w u
  | .attempting _ spasswordRef _ => spasswordRef.map SPasswordModel.loginAttempts =
    (w.spassword u).map SPasswordModel.loginAttempts
  | .judged _ | .refused _ | .ended _ => True

/-- The gate lets the call through exactly when the lockout test does. The tables stay. -/
theorem lockoutGate_cases (clock : ℕ → Time) (henabled : conf.enabled = true) (w : World)
    (u : String) :
    LockoutPasses conf clock w u ∧
      (∃ k, (Identity.lockoutGate conf clock u).run w = .ok () (w.ticked k)) ∨
    ¬ LockoutPasses conf clock w u ∧ ∃ e w', (Identity.lockoutGate conf clock u).run w =
      .error e w' ∧ w'.users = w.users ∧ w'.spassword = w.spassword := by
  by_cases hblack : u ∈ conf.pwdUserBlacklist
  · exact .inl ⟨.inl hblack, 0, by simp [Identity.lockoutGate, hblack]⟩
  have hgate : (Identity.lockoutGate conf clock u).run w =
      (Identity.lockoutTest conf clock u (w.spassword u)).run w := by
    simp [Identity.lockoutGate, hblack, henabled]
  rw [hgate]
  cases hrow : w.spassword u with
  | none => exact .inl ⟨.inr (by simp [hrow]), 0, rfl⟩
  | some row =>
    have hiff : LockoutPasses conf clock w u ↔ (conf.pwdMaxTries < row.loginAttempts →
        ∃ last, row.lastLoginAttemptTime = some last ∧
          last.wall ≤ clock w.ticks - conf.blockTime) := by
      refine (or_iff_right hblack).trans ⟨fun h => h row hrow, fun h row' hrow' => ?_⟩
      rw [hrow] at hrow'
      cases hrow'
      exact h
    rw [hiff]
    by_cases htries : conf.pwdMaxTries < row.loginAttempts
    · cases hlast : row.lastLoginAttemptTime with
      | none =>
        refine .inr ⟨by simp [htries], .attributeError "tzinfo", w, ?_, rfl, rfl⟩
        simp [Identity.lockoutTest, htries, hlast, normalizeDbDate_none]
      | some last =>
        by_cases hinside : clock w.ticks - conf.blockTime < last.wall
        · refine .inr ⟨?_, .spasswordUnauthorized (Identity.blockedMessage row.userName),
            w.tick.note (.blocked u (clock w.ticks)), ?_, rfl, rfl⟩
          · simpa [htries] using hinside
          · simp [Identity.lockoutTest, htries, hlast, normalizeDbDate_some, Identity.blockedAt,
              DateTime.lt_def, hinside]
        · refine .inl ⟨fun _ => ⟨last, rfl, not_lt.mp hinside⟩, 1, ?_⟩
          simp [Identity.lockoutTest, htries, hlast, normalizeDbDate_some, Identity.blockedAt,
            DateTime.lt_def, hinside, World.tick_eq_ticked]
    · exact .inl ⟨fun h => absurd h htries, 0, by simp [Identity.lockoutTest, htries]⟩

/-- `_check_password` lets the call through exactly when the password is current. -/
theorem checkPassword_iff (clock : ℕ → Time) (henabled : conf.enabled = true) (w : World)
    (u : String) :
    PasswordCurrent conf clock w u ∧
      (∃ k, (Identity.checkPassword conf clock u).run w = .ok () (w.ticked k)) ∨
    ¬ PasswordCurrent conf clock w u ∧ ∃ e w', (Identity.checkPassword conf clock u).run w =
      .error e w' ∧ w'.users = w.users ∧ w'.spassword = w.spassword := by
  cases hrow : w.spassword u with
  | none =>
    refine .inl ⟨?_, 0, by simp [Identity.checkPassword, henabled, hrow]⟩
    simp [PasswordCurrent, hrow]
  | some row =>
    have hiff : PasswordCurrent conf clock w u ↔ (Identity.checksExpiry conf u row = .ok false ∨
        Identity.checksExpiry conf u row = .ok true ∧ ∃ created, row.creationTime = some created ∧
          clock w.ticks - days conf.pwdExpDays ≤ created.wall) := by
      refine ⟨fun h => h row hrow, fun h row' hrow' => ?_⟩
      rw [hrow] at hrow'
      cases hrow'
      exact h
    rw [hiff]
    cases hchecks : Identity.checksExpiry conf u row with
    | error e =>
      refine .inr ⟨by simp, e, w, ?_, rfl, rfl⟩
      simp [Identity.checkPassword, henabled, hrow, hchecks]
    | ok checks =>
      cases checks with
      | false => exact .inl ⟨.inl rfl, 0, Identity.run_checkPassword_of_exempt hrow hchecks⟩
      | true =>
        cases htime : row.creationTime with
        | none =>
          refine .inr ⟨by simp, .attributeError "tzinfo", w.tick, ?_, rfl, rfl⟩
          simp [Identity.checkPassword, henabled, hrow, hchecks, htime, normalizeDbDate_none]
        | some created =>
          by_cases hold : created.wall < clock w.ticks - days conf.pwdExpDays
          · refine .inr ⟨?_, _, _,
              Identity.run_checkPassword_of_expired henabled hrow hchecks htime hold, rfl, rfl⟩
            rintro (hfalse | ⟨-, created', hcreated, hle⟩)
            · cases hfalse
            · cases hcreated
              exact absurd hold (not_lt.mpr hle)
          · exact .inl ⟨.inr ⟨rfl, created, rfl, not_lt.mp hold⟩, 1,
              Identity.run_checkPassword_of_current henabled hrow hchecks htime hold⟩

/-- The base driver's answer to a wrong password. -/
theorem baseAuthenticate_of_wrong (clock : ℕ → Time) (henabled : conf.enabled = true)
    {call : LoginCall} (hwrong : call.Wrong u) (w : World) :
    LoginPhase.admitted.Clear conf clock u call w ∧
      (∃ k, (Identity.baseAuthenticate conf clock call.env u call.password).run w =
        .ok none (w.ticked k)) ∨
    ¬ LoginPhase.admitted.Clear conf clock u call w ∧
      ∃ e w', (Identity.baseAuthenticate conf clock call.env u call.password).run w = .error e w' ∧
        w'.users = w.users ∧ w'.spassword = w.spassword := by
  rcases hwrong with hbase | hbase
  · refine .inl ⟨by simp [LoginPhase.Clear, hbase], 0, ?_⟩
    simp [Identity.baseAuthenticate, hbase, Identity.BaseAnswer.toPy]
  · have hclear : LoginPhase.admitted.Clear conf clock u call w ↔
        PasswordCurrent conf clock w u := by
      simp [LoginPhase.Clear, hbase]
    rw [hclear]
    rcases checkPassword_iff clock henabled w u with ⟨h, k, hrun⟩ | ⟨h, e, w', hrun, htables⟩
    · refine .inl ⟨h, k, ?_⟩
      simp [Identity.baseAuthenticate, hbase, hrun, Identity.BaseAnswer.toPy]
    · refine .inr ⟨h, e, w', ?_, htables⟩
      simp [Identity.baseAuthenticate, hbase, hrun]

/-! ### The counter behind the logins -/

/-- A login as a process of the shared counter. -/
def LoginPhase.view : LoginPhase → SharedCounter.Local
  | .calling | .admitted | .judged _ => .waiting
  | .attempting _ spasswordRef _ => .holding (spasswordRef.map SPasswordModel.loginAttempts)
  | .refused _ => .done false
  | .ended (.error (.spasswordUnauthorized message)) =>
    .done (decide (message = Identity.invalidMessage))
  | .ended _ => .done false

open Classical in
/-- What the next turn of a login is to the counter. -/
noncomputable def LoginPhase.counterTurn (conf : Conf) (clock : ℕ → Time) (u : String)
    (call : LoginCall) (w : World) (phase : LoginPhase) : SharedCounter.Turn :=
  match phase with
  | .calling | .admitted => if phase.Clear conf clock u call w then .idle else .leave
  | .judged _ => .read
  | .attempting _ _ _ => .write
  | .refused _ | .ended _ => .idle

/-- The logins as processes of one counter. -/
def counterView (u : String) {n : ℕ} (s : Parallel LoginPhase n) :
    SharedCounter.State (Fin n) :=
  ⟨(s.world.spassword u).map SPasswordModel.loginAttempts, fun i => (s.phases i).view⟩

/-- What the base driver has said in this phase, and the row read second, are those of a wrong
password. -/
def LoginPhase.Sound : LoginPhase → Prop
  | .judged res => res = none
  | .attempting res spasswordRef _ =>
    res = none ∧ ∀ row, spasswordRef = some row → row.creationTime ≠ none
  | _ => True

/-- The user exists, the row has its date, and no login has got past the base driver. -/
structure Guessing (u : String) {n : ℕ} (s : Parallel LoginPhase n) : Prop where
  user : s.world.users u ≠ none
  dated : ∀ row, s.world.spassword u = some row → row.creationTime ≠ none
  sound : ∀ i, (s.phases i).Sound

section Simulation

variable {n : ℕ} {calls : Fin n → LoginCall} {s : Parallel LoginPhase n} {i : Fin n}
  {phase : LoginPhase}

theorem counterView_update :
    counterView u ⟨w, Function.update s.phases i phase⟩ =
      ⟨(w.spassword u).map SPasswordModel.loginAttempts,
        Function.update (counterView u s).locals i phase.view⟩ := by
  rw [counterView]
  congr
  funext j
  exact Function.apply_update (fun _ => LoginPhase.view) s.phases i phase j

theorem Guessing.update (h : Guessing u s) (huser : w.users u = s.world.users u)
    (hdated : ∀ row, w.spassword u = some row → row.creationTime ≠ none) (hphase : phase.Sound) :
    Guessing u ⟨w, Function.update s.phases i phase⟩ := by
  refine ⟨by rw [huser]; exact h.user, hdated, fun j => ?_⟩
  show (Function.update s.phases i phase j).Sound
  by_cases hj : j = i
  · rw [hj, Function.update_self]
    exact hphase
  · rw [Function.update_of_ne hj]
    exact h.sound j

/-- A turn of a login is a turn of its process, and it loses nothing exactly when that one does. -/
structure Simulates (conf : Conf) (clock : ℕ → Time) (u : String) (calls : Fin n → LoginCall)
    (s : Parallel LoginPhase n) (i : Fin n) (s' : Parallel LoginPhase n) : Prop where
  guessing : Guessing u s'
  view : counterView u s' = SharedCounter.step (counterView u s)
    (i, (s.phases i).counterTurn conf clock u (calls i) s.world)
  clear : SharedCounter.Undisturbed (counterView u s)
      (i, (s.phases i).counterTurn conf clock u (calls i) s.world) ↔
    (s.phases i).Clear conf clock u (calls i) s.world

/-- A turn that does not touch the tables, before the second read. -/
theorem simulates_waiting (hs : Guessing u s) (hi : (s.phases i).view = .waiting)
    (hturn : (s.phases i).counterTurn conf clock u (calls i) s.world = .idle)
    (hclear : (s.phases i).Clear conf clock u (calls i) s.world) (hphase : phase.Sound)
    (hview : phase.view = .waiting) (husers : w.users = s.world.users)
    (hspassword : w.spassword = s.world.spassword) :
    Simulates conf clock u calls s i ⟨w, Function.update s.phases i phase⟩ := by
  have hlocal : (counterView u s).locals i = .waiting := hi
  refine ⟨hs.update (congrFun husers u) (by rw [hspassword]; exact hs.dated) hphase, ?_, ?_⟩
  · rw [counterView_update, hturn, SharedCounter.step, hspassword]
    simp only [hlocal, SharedCounter.Local.next, hview]
    rfl
  · rw [hturn, SharedCounter.Undisturbed]
    simp [hlocal, hclear]

/-- A turn that refuses the login, before the second read. -/
theorem simulates_refused {e : PyExc} (hs : Guessing u s) (hi : (s.phases i).view = .waiting)
    (hturn : (s.phases i).counterTurn conf clock u (calls i) s.world = .leave)
    (hclear : ¬ (s.phases i).Clear conf clock u (calls i) s.world)
    (husers : w.users = s.world.users) (hspassword : w.spassword = s.world.spassword) :
    Simulates conf clock u calls s i ⟨w, Function.update s.phases i (.refused e)⟩ := by
  have hlocal : (counterView u s).locals i = .waiting := hi
  refine ⟨hs.update (congrFun husers u) (by rw [hspassword]; exact hs.dated) trivial, ?_, ?_⟩
  · rw [counterView_update, hturn, SharedCounter.step, hspassword]
    simp only [hlocal, SharedCounter.Local.next]
    rfl
  · rw [hturn, SharedCounter.Undisturbed]
    simp [hlocal, hclear]

/-- The second read. -/
theorem simulates_judged (henabled : conf.enabled = true) (hs : Guessing u s)
    (hi : s.phases i = .judged none) :
    Simulates conf clock u calls s i (loginTurn conf clock u calls s i) := by
  rw [loginTurn_of_judged henabled hi]
  have hlocal : (counterView u s).locals i = .waiting := congrArg LoginPhase.view hi
  refine ⟨hs.update rfl hs.dated ⟨rfl, hs.dated⟩, ?_, ?_⟩
  · rw [counterView_update, hi, SharedCounter.step]
    simp only [hlocal, LoginPhase.counterTurn, SharedCounter.Local.next]
    rfl
  · rw [hi, SharedCounter.Undisturbed]
    simp [hlocal, LoginPhase.counterTurn, LoginPhase.Clear]

/-- The commit of a wrong password on a row: an update, whatever the row has become. -/
theorem simulates_update (hs : Guessing u s) {row : SPasswordModel} {now : DateTime}
    (hi : s.phases i = .attempting none (some row) now) :
    Simulates conf clock u calls s i (loginTurn conf clock u calls s i) := by
  have hsound := hs.sound i
  rw [hi] at hsound
  obtain ⟨created, hcreated⟩ := Option.ne_none_iff_exists'.mp (hsound.2 row rfl)
  have hturn : loginTurn conf clock u calls s i =
      ⟨s.world.setRow u ((s.world.spassword u).map fun r =>
        { r with
          loginAttempts := row.loginAttempts + 1
          lastLoginAttemptTime := some now }),
        Function.update s.phases i
          (.ended (.error (.spasswordUnauthorized Identity.invalidMessage)))⟩ :=
    loginTurn_of_error hi (by simp [LoginPhase.next, Identity.recordAttempt,
      Identity.registeredAttempt, hcreated, normalizeDbDate_some])
  rw [hturn]
  have hlocal : (counterView u s).locals i = .holding (some row.loginAttempts) :=
    congrArg LoginPhase.view hi
  refine ⟨hs.update rfl ?_ trivial, ?_, ?_⟩
  · intro row' hrow'
    simp only [World.setRow_spassword, Function.update_self, Option.map_eq_some_iff] at hrow'
    obtain ⟨row₀, hrow₀, rfl⟩ := hrow'
    exact hs.dated row₀ hrow₀
  · rw [counterView_update, hi, SharedCounter.step]
    simp only [hlocal, LoginPhase.counterTurn, SharedCounter.Local.next, LoginPhase.view]
    simp [counterView, Option.map_map, Function.comp_def]
  · rw [hi, SharedCounter.Undisturbed]
    simp only [hlocal, LoginPhase.counterTurn, LoginPhase.Clear]
    rfl

/-- The commit of the first wrong password: an insert, which fails if there is a row by then. -/
theorem simulates_insert (hs : Guessing u s) {now : DateTime}
    (hi : s.phases i = .attempting none none now) :
    Simulates conf clock u calls s i (loginTurn conf clock u calls s i) := by
  obtain ⟨userRecord, huser⟩ := Option.ne_none_iff_exists'.mp hs.user
  have hlocal : (counterView u s).locals i = .holding none := congrArg LoginPhase.view hi
  have hclear : SharedCounter.Undisturbed (counterView u s)
      (i, (s.phases i).counterTurn conf clock u (calls i) s.world) ↔
      (s.phases i).Clear conf clock u (calls i) s.world := by
    rw [hi, SharedCounter.Undisturbed]
    simp only [hlocal, LoginPhase.counterTurn, LoginPhase.Clear]
    rfl
  cases hrow : s.world.spassword u with
  | none =>
    have hfirst : (Identity.firstAttempt conf u none now).run s.world = .error _ _ :=
      Identity.run_firstAttempt_rejected hrow huser
    have hturn : loginTurn conf clock u calls s i =
        ⟨(s.world.setRow u (some (Identity.firstRow (userRecord.toUser u) now none))).note
          (.rowRegistered u now.wall), Function.update s.phases i
            (.ended (.error (.spasswordUnauthorized Identity.invalidMessage)))⟩ :=
      loginTurn_of_error hi (by simp [LoginPhase.next, Identity.recordAttempt, hfirst])
    rw [hturn]
    refine ⟨hs.update rfl ?_ trivial, ?_, hclear⟩
    · intro row' hrow'
      obtain rfl : Identity.firstRow (userRecord.toUser u) now none = row' := by simpa using hrow'
      simp [Identity.firstRow]
    · rw [counterView_update, hi, SharedCounter.step]
      simp only [hlocal, LoginPhase.counterTurn, LoginPhase.view]
      simp [counterView, SharedCounter.Local.next, hrow, Identity.firstRow]
  | some row =>
    have hfirst : (Identity.firstAttempt conf u none now).run s.world =
        .error .integrityError s.world := by
      simp [Identity.firstAttempt, run_getUser_some _ huser, sessionInsert, Identity.firstRow,
        UserRecord.toUser, hrow]
    have hturn : loginTurn conf clock u calls s i =
        ⟨s.world, Function.update s.phases i (.ended (.error .integrityError))⟩ :=
      loginTurn_of_error hi (by simp [LoginPhase.next, Identity.recordAttempt, hfirst])
    rw [hturn]
    refine ⟨hs.update rfl hs.dated trivial, ?_, hclear⟩
    rw [counterView_update, hi, SharedCounter.step]
    simp only [hlocal, LoginPhase.counterTurn, LoginPhase.view]
    simp [counterView, SharedCounter.Local.next, hrow]

theorem view_of_over {phase : LoginPhase} {answer : Except PyExc AuthResult}
    (h : phase.answer? = some answer) : ∃ ok, phase.view = .done ok := by
  cases phase with
  | refused e => exact ⟨false, rfl⟩
  | ended answer =>
    rcases answer with e | result
    · cases e <;> exact ⟨_, rfl⟩
    · exact ⟨false, rfl⟩
  | calling | admitted | judged _ | attempting _ _ _ => cases h

/-- The turn of a login that is over. -/
theorem simulates_over (hs : Guessing u s) {answer : Except PyExc AuthResult}
    (hi : (s.phases i).answer? = some answer) :
    Simulates conf clock u calls s i (loginTurn conf clock u calls s i) := by
  rw [loginTurn_of_over hi]
  obtain ⟨ok, hview⟩ := view_of_over hi
  obtain ⟨hturn, hclear⟩ : (s.phases i).counterTurn conf clock u (calls i) s.world = .idle ∧
      (s.phases i).Clear conf clock u (calls i) s.world := by
    cases hphase : s.phases i with
    | refused e | ended answer => exact ⟨rfl, trivial⟩
    | calling | admitted | judged _ | attempting _ _ _ =>
      rw [hphase] at hi
      cases hi
  have hlocal : (counterView u s).locals i = .done ok := hview
  refine ⟨hs, ?_, ?_⟩
  · rw [hturn, SharedCounter.step]
    simp only [hlocal, SharedCounter.Local.next]
    rw [← hlocal, Function.update_eq_self]
  · rw [hturn, SharedCounter.Undisturbed]
    simp [hlocal, hclear]

/-- **A turn of a login is a turn of its process.** -/
theorem loginTurn_simulates (henabled : conf.enabled = true) (hwrong : ∀ i, (calls i).Wrong u)
    (hs : Guessing u s) (i : Fin n) :
    Simulates conf clock u calls s i (loginTurn conf clock u calls s i) := by
  have hsound := hs.sound i
  cases hi : s.phases i with
  | calling =>
    have hview : (s.phases i).view = .waiting := by rw [hi]; rfl
    rcases lockoutGate_cases clock henabled s.world u with
      ⟨hclear, k, hrun⟩ | ⟨hclear, e, w', hrun, husers, hspassword⟩
    · have hnext : (LoginPhase.next conf clock u (calls i) .calling).run s.world =
          .ok .admitted (s.world.ticked k) := by simp [LoginPhase.next, hrun]
      rw [loginTurn_of_ok hi hnext]
      exact simulates_waiting hs hview (by rw [hi]; exact if_pos hclear) (by rw [hi]; exact hclear)
        trivial rfl rfl rfl
    · have hnext : (LoginPhase.next conf clock u (calls i) .calling).run s.world = .error e w' := by
        simp [LoginPhase.next, hrun]
      rw [loginTurn_of_error hi hnext]
      exact simulates_refused hs hview (by rw [hi]; exact if_neg hclear) (by rw [hi]; exact hclear)
        husers hspassword
  | admitted =>
    have hview : (s.phases i).view = .waiting := by rw [hi]; rfl
    rcases baseAuthenticate_of_wrong clock henabled (hwrong i) s.world with
      ⟨hclear, k, hrun⟩ | ⟨hclear, e, w', hrun, husers, hspassword⟩
    · have hnext : (LoginPhase.next conf clock u (calls i) .admitted).run s.world =
          .ok (.judged none) (s.world.ticked k) := by simp [LoginPhase.next, hrun]
      rw [loginTurn_of_ok hi hnext]
      exact simulates_waiting hs hview (by rw [hi]; exact if_pos hclear) (by rw [hi]; exact hclear)
        rfl rfl rfl rfl
    · have hnext : (LoginPhase.next conf clock u (calls i) .admitted).run s.world =
          .error e w' := by
        simp [LoginPhase.next, hrun]
      rw [loginTurn_of_error hi hnext]
      exact simulates_refused hs hview (by rw [hi]; exact if_neg hclear) (by rw [hi]; exact hclear)
        husers hspassword
  | judged res =>
    rw [hi] at hsound
    obtain rfl : res = none := hsound
    exact simulates_judged henabled hs hi
  | attempting res spasswordRef now =>
    rw [hi] at hsound
    obtain rfl : res = none := hsound.1
    cases spasswordRef with
    | none => exact simulates_insert hs hi
    | some row => exact simulates_update hs hi
  | refused e => exact simulates_over hs (by rw [hi]; rfl)
  | ended answer => exact simulates_over hs (by rw [hi]; rfl)

/-- Where a login that counts ends. -/
theorem view_eq_done_true {phase : LoginPhase} (h : phase.view = .done true) :
    phase = .ended (.error (.spasswordUnauthorized Identity.invalidMessage)) := by
  cases phase with
  | ended answer =>
    rcases answer with e | result
    · cases e <;> simp_all [LoginPhase.view]
    · simp [LoginPhase.view] at h
  | _ => simp [LoginPhase.view] at h

/-- A schedule of the logins is a run of the counter. -/
theorem exists_turns (henabled : conf.enabled = true) (hwrong : ∀ i, (calls i).Wrong u)
    (hs : Guessing u s) (schedule : List (Fin n)) :
    ∃ turns, Machine.run SharedCounter.step (counterView u s) turns =
        counterView u (Machine.run (loginTurn conf clock u calls) s schedule) ∧
      (Machine.Along SharedCounter.step SharedCounter.Undisturbed (counterView u s) turns ↔
        Machine.Along (loginTurn conf clock u calls)
          (fun s i => (s.phases i).Clear conf clock u (calls i) s.world) s schedule) := by
  have hstep : ∀ s i, Guessing u s →
      Simulates conf clock u calls s i (loginTurn conf clock u calls s i) :=
    fun _ i h => loginTurn_simulates henabled hwrong h i
  exact ⟨_, Machine.run_simulates (fun s i h => (hstep s i h).guessing)
      (fun s i h => (hstep s i h).view) hs schedule,
    Machine.along_simulates (fun s i h => (hstep s i h).guessing) (fun s i h => (hstep s i h).view)
      (fun s i h => (hstep s i h).clear) hs schedule⟩

theorem attempts_eq_counter (s : Parallel LoginPhase n) :
    attempts u s.world = (counterView u s).counter.getD 0 := by
  rw [attempts, counterView]
  cases s.world.spassword u <;> rfl

end Simulation

/-- The login is answered with the status 401. -/
def LoginPhase.Unauthorized (phase : LoginPhase) : Prop :=
  ∃ e, phase.answer? = some (.error e) ∧ e.status = 401

/-- **No failed attempt is lost** in a schedule of logins with a wrong password if and only if no
login is refused before the base driver answers, and each commits while the stored counter is the
one it has read. Nothing in the source makes that so: the second read and the commit are two
transactions, and the commit writes the value computed from the read. -/
theorem attempts_counted_iff (henabled : conf.enabled = true) (hreach : Reachable conf clock w)
    (huser : w.users u ≠ none) {n : ℕ} {calls : Fin n → LoginCall}
    (hwrong : ∀ i, (calls i).Wrong u) {schedule : List (Fin n)} {s : Parallel LoginPhase n}
    (hs : s = Machine.run (loginTurn conf clock u calls) ⟨w, fun _ => .calling⟩ schedule)
    (hended : ∀ i, ((s.phases i).answer?).isSome) :
    (attempts u s.world = attempts u w + n ∧ ∀ i, (s.phases i).Unauthorized) ↔
      Machine.Along (loginTurn conf clock u calls)
        (fun s i => (s.phases i).Clear conf clock u (calls i) s.world)
        ⟨w, fun _ => .calling⟩ schedule := by
  have htracks := tracks_of_reachable hreach
  have hstart : Guessing u (⟨w, fun _ => .calling⟩ : Parallel LoginPhase n) := by
    refine ⟨huser, fun row hrow => ?_, fun _ => trivial⟩
    obtain ⟨t, ht⟩ := (htracks.follows u row hrow).creationTime
    simp [ht]
  have hdone : ∀ i, ∃ ok, (s.phases i).view = .done ok := by
    intro i
    obtain ⟨answer, hanswer⟩ := Option.isSome_iff_exists.mp (hended i)
    exact view_of_over hanswer
  obtain ⟨turns, hrun, halong⟩ := exists_turns henabled hwrong hstart schedule
  rw [← hs] at hrun
  have hwaiting : ∀ i, (counterView u (⟨w, fun _ => .calling⟩ : Parallel LoginPhase n)).locals i =
      .waiting := fun _ => rfl
  have htotal := SharedCounter.total_iff hwaiting turns (by rw [hrun]; exact hdone)
  rw [hrun, Fintype.card_fin, halong] at htotal
  rw [attempts_eq_counter s, attempts_eq_counter (⟨w, fun _ => .calling⟩ : Parallel LoginPhase n),
    ← htotal]
  refine and_iff_left_of_imp fun hcount i => ?_
  have hall : (s.phases i).view = .done true := by
    have h := SharedCounter.done_of_total hwaiting turns
      (by rw [hrun, Fintype.card_fin]; exact hcount) i
    rw [hrun] at h
    exact h
  exact ⟨_, by rw [view_eq_done_true hall]; rfl, rfl⟩

/-- A counter that does not exceed the limit passes the lockout test. -/
theorem lockoutPasses_of_attempts_le (h : attempts u w ≤ conf.pwdMaxTries) :
    LockoutPasses conf clock w u := by
  refine .inr fun row hrow hlt => absurd h ?_
  rw [attempts, hrow]
  exact not_le.mpr hlt

/-- Two guesses, the second after the first is over. -/
theorem attempts_counted_in_turn :
    let w := run Sample.conf Sample.ticking (.initial Sample.users) [Sample.login]
    let calls := fun _ : Fin 2 => (⟨"guess", Sample.env Sample.code⟩ : LoginCall)
    let s := Machine.run (loginTurn Sample.conf Sample.ticking "alice" calls)
      ⟨w, fun _ => .calling⟩ [0, 0, 0, 0, 1, 1, 1, 1]
    attempts "alice" s.world = attempts "alice" w + (2 : ℕ) ∧
      ∀ i, (s.phases i).Unauthorized := by
  intro w calls s
  have hreach : Reachable Sample.conf Sample.ticking w :=
    (reachable_initial Sample.users).run [Sample.login]
  have hwrong : ∀ i, (calls i).Wrong "alice" := fun i => .inr rfl
  refine (attempts_counted_iff rfl hreach (by decide) hwrong rfl (by decide)).mpr ?_
  refine ⟨lockoutPasses_of_attempts_le (by decide), fun _ row hrow => ?_, trivial, rfl,
    lockoutPasses_of_attempts_le (by decide), fun _ row hrow => ?_, trivial, rfl, trivial⟩
  all_goals
    cases hrow
    exact .inr ⟨by decide, _, rfl, by decide⟩

/-- Two guesses that take turns: both are refused, and one is counted. -/
theorem attempt_lost_in_parallel :
    let w := run Sample.conf Sample.ticking (.initial Sample.users) [Sample.login]
    let calls := fun _ : Fin 2 => (⟨"guess", Sample.env Sample.code⟩ : LoginCall)
    let s := Machine.run (loginTurn Sample.conf Sample.ticking "alice" calls)
      ⟨w, fun _ => .calling⟩ [0, 1, 0, 1, 0, 1, 0, 1]
    (∀ i, (calls i).Wrong "alice") ∧ (∀ i, (s.phases i).Unauthorized) ∧
      attempts "alice" w = 0 ∧ attempts "alice" s.world = 1 :=
  ⟨fun _ => .inr rfl, Fin.forall_fin_two.mpr ⟨⟨_, rfl, rfl⟩, ⟨_, rfl, rfl⟩⟩, by decide, by decide⟩

end KeystoneSpassword
