import KeystoneSpassword.ConcurrentLogins
import KeystoneSpassword.Refusals

/-!
# Recoveries at the same time

`_recover_password` tests that the email is verified, stores a fresh code, which makes the email
unverified, and confirms that code itself, each in a transaction of its own. Here every recovery of
one user is taken apart at these points. A schedule says whose turn it is, and calls of
`authenticate` may come between any two turns.

## Who confirms what

A recovery confirms the code it has stored, whatever is stored by then. If another one has stored a
newer code in between, the comparison fails, and the email stays unverified until the newer code is
confirmed. So a recovery that comes too late does no harm as long as another one is still to come:
it has stored the code that is stored now, or is about to store one. That is
`RecoveryPhase.Pending`.

## Main definitions

* `RecoveryPhase`, `RecoveryPhase.next` — a recovery between two of its turns
* `RecoveryTurn.KeepsVerified` — the turn does not leave the email unverified for good

## Main results

* `solo_recovery` — the three turns of a recovery that runs alone are `_recover_password`
* `recoveries_keep_verified_iff`
-/

namespace KeystoneSpassword

open StateProgram Relation History

variable {conf : Conf} {clock : ℕ → Time} {u : String} {w w' : World}

/-! ### A recovery and its turns -/

/-- What a recovery finds outside the extension. -/
structure RecoveryCall where
  uuid : ShortCode
  server : SmtpServer

/-- A recovery between two of its turns. -/
inductive RecoveryPhase
  /-- is to test that the email is verified -/
  | testing
  /-- is to store a code -/
  | issuing (userInfo : User) (address : Address)
  /-- is to confirm its code, and to mail it -/
  | checking (userInfo : User) (address : Address) (code : String)
  /-- is over -/
  | ended (answer : Except PyExc HttpResponse)

namespace RecoveryPhase

open SPasswordResource in
/-- The next piece of `_recover_password`. -/
def next (conf : Conf) (u : String) (call : RecoveryCall) : RecoveryPhase → Py RecoveryPhase
  | .testing => do
    checkSpasswordConfigured conf
    let userInfo ← getUser u
    let address ← checkUserHasEmailDefined userInfo
    checkUserHasEmailValidated userInfo
    return .issuing userInfo address
  | .issuing userInfo address => do
    let code ← SPasswordManager.userAskCheckEmailCode .recover u call.uuid
    return .checking userInfo address code
  | .checking userInfo address code => do
    let _ ← SPasswordManager.userCheckEmailCode u code
    let link := codeLink conf "reset_password" userInfo.id code
    let sent ← SendMail.sendEmail conf call.server u ⟨address, .resetPassword code link⟩
    return .ended (.ok (mailResponse sent "reset password email link sent to "
      "reset password email link was not sent to " address))
  | .ended answer => return .ended answer

/-- An exception ends the recovery. -/
def raised (_ : RecoveryPhase) (e : PyExc) : RecoveryPhase := .ended (.error e)

/-- The recovery is still going to verify the email: it has stored the code that is stored now and
is to confirm it, or it is to store one. -/
def Pending (u : String) (w : World) : RecoveryPhase → Prop
  | .issuing _ _ => True
  | .checking _ _ code => SPassword.EmailCodeStored w u code
  | .testing | .ended _ => False

end RecoveryPhase

/-- A turn of one of `n` recoveries, or a whole call of `authenticate`. -/
inductive RecoveryTurn (n : ℕ)
  | request (i : Fin n)
  | login (call : LoginCall)

/-- One turn of the recoveries `calls` of the user, or a login of the user between two turns. -/
def recoveryTurn (conf : Conf) (clock : ℕ → Time) (u : String) {n : ℕ}
    (calls : Fin n → RecoveryCall) (s : Parallel RecoveryPhase n) :
    RecoveryTurn n → Parallel RecoveryPhase n
  | .request i =>
    Parallel.turn (fun i => RecoveryPhase.next conf u (calls i)) RecoveryPhase.raised s i
  | .login call =>
    { s with world := final (Identity.authenticate conf clock call.env u call.password) s.world }

/-- The turn does not leave the email unverified for good: a recovery confirms the code that is
stored, or another recovery is pending. -/
def RecoveryTurn.KeepsVerified (u : String) {n : ℕ} (s : Parallel RecoveryPhase n) :
    RecoveryTurn n → Prop
  | .request i => ∀ userInfo address code, s.phases i = .checking userInfo address code →
    SPassword.EmailCodeStored s.world u code ∨ ∃ j ≠ i, (s.phases j).Pending u s.world
  | .login _ => True

/-- The turn is not a login whose password is accepted while the row waits for a second factor
unverified. -/
def RecoveryTurn.LoginInTime (conf : Conf) (clock : ℕ → Time) (u : String) {n : ℕ}
    (s : Parallel RecoveryPhase n) : RecoveryTurn n → Prop
  | .request _ => True
  | .login call => PasswordAccepted conf clock s.world u call.password call.env →
    ¬ WaitsUnverified conf s.world u

/-- The turn is not a login that is refused for an unverified email. -/
def RecoveryTurn.NotRefused (conf : Conf) (clock : ℕ → Time) (u : String) {n : ℕ}
    (s : Parallel RecoveryPhase n) : RecoveryTurn n → Prop
  | .request _ => True
  | .login call => ¬ UnverifiedRefusal conf clock s.world u call.password call.env

/-- The email is verified, or a pending recovery is going to verify it. -/
def WillBeVerified (u : String) {n : ℕ} (s : Parallel RecoveryPhase n) : Prop :=
  EmailVerified s.world u ∨ ∃ i, (s.phases i).Pending u s.world

/-- The user has a row that follows the history, with an email code. -/
def Recovering (w : World) (u : String) : Prop :=
  ∃ row, w.spassword u = some row ∧ RowFollows u w.log row ∧ truthy row.sndfaEmailCode = true

/-! ### Turns of a recovery -/

section Turns

variable {n : ℕ} {calls : Fin n → RecoveryCall} {s : Parallel RecoveryPhase n} {i : Fin n}
  {phase : RecoveryPhase}

theorem recoveryTurn_of_ok {phase' : RecoveryPhase} (hi : s.phases i = phase)
    (h : (phase.next conf u (calls i)).run s.world = .ok phase' w) :
    recoveryTurn conf clock u calls s (.request i) = ⟨w, Function.update s.phases i phase'⟩ := by
  subst hi
  rw [recoveryTurn]
  exact Parallel.turn_of_ok h

theorem recoveryTurn_of_error {e : PyExc} (hi : s.phases i = phase)
    (h : (phase.next conf u (calls i)).run s.world = .error e w) :
    recoveryTurn conf clock u calls s (.request i) =
      ⟨w, Function.update s.phases i (.ended (.error e))⟩ := by
  subst hi
  rw [recoveryTurn]
  exact Parallel.turn_of_error h

theorem recoveryTurn_alone (call : RecoveryCall) (phase : RecoveryPhase) (w : World) :
    recoveryTurn conf clock u (fun _ => call) ⟨w, fun _ : Fin 1 => phase⟩ (.request 0) =
      match (phase.next conf u call).run w with
      | .ok phase' w' => ⟨w', fun _ => phase'⟩
      | .error e w' => ⟨w', fun _ => .ended (.error e)⟩ := by
  show Parallel.turn (fun _ => RecoveryPhase.next conf u call) RecoveryPhase.raised _ 0 = _
  rw [Parallel.turn_alone]
  cases (phase.next conf u call).run w <;> rfl

end Turns

/-- The first turn only reads. It goes on with a verified email. -/
theorem testing_cases (call : RecoveryCall) (w : World) :
    (∃ e, (RecoveryPhase.testing.next conf u call).run w = .error e w) ∨
      EmailVerified w u ∧ ∃ userInfo address,
        (RecoveryPhase.testing.next conf u call).run w = .ok (.issuing userInfo address) w := by
  rw [RecoveryPhase.next]
  rcases reads_checkSpasswordConfigured.bind_cases _ w with ⟨e, -, h⟩ | ⟨_, -, h⟩
  · exact .inl ⟨e, h⟩
  rw [h]
  cases huser : w.users u with
  | none => exact .inl ⟨.userNotFound u, by simp [run_getUser_none w huser]⟩
  | some userRecord =>
    rw [EStateM.run_bind, run_getUser_some w huser]
    dsimp only
    rcases (reads_checkUserHasEmailDefined (userRecord.toUser u)).bind_cases _ w with
      ⟨e, -, h⟩ | ⟨address, -, h⟩
    · exact .inl ⟨e, h⟩
    rw [h, EStateM.run_bind]
    by_cases hverified : EmailVerified w u
    · have hvalidated : (SPasswordResource.checkUserHasEmailValidated (userRecord.toUser u)).run w =
          .ok () w := run_checkUserHasEmailValidated_of_verified hverified
      rw [hvalidated]
      exact .inr ⟨hverified, _, _, rfl⟩
    · obtain ⟨e, hrefused⟩ : ∃ e, (SPasswordResource.checkUserHasEmailValidated
          (userRecord.toUser u)).run w = .error e w :=
        ⟨_, run_checkUserHasEmailValidated_of_not_verified hverified⟩
      rw [hrefused]
      exact .inl ⟨e, rfl⟩

/-- The third turn compares its code with the stored one, mails, and is over. -/
theorem checking_turn (conf : Conf) (clock : ℕ → Time) {n : ℕ} (calls : Fin n → RecoveryCall)
    {s : Parallel RecoveryPhase n} {i : Fin n} {userInfo : User} {address : Address} {code : String}
    (hi : s.phases i = .checking userInfo address code) {matched : Bool}
    (hcheck : (SPassword.checkEmailCode u code).run s.world = .ok matched w) :
    ∃ mail handed answer, recoveryTurn conf clock u calls s (.request i) =
      ⟨w.note (.mailed u mail handed), Function.update s.phases i (.ended answer)⟩ := by
  obtain ⟨mail, hmail⟩ : ∃ mail : Mail, mail = ⟨address, .resetPassword code
      (SPasswordResource.codeLink conf "reset_password" userInfo.id code)⟩ := ⟨_, rfl⟩
  have hnext : ((RecoveryPhase.checking userInfo address code).next conf u (calls i)).run s.world =
      (do
        let sent ← SendMail.sendEmail conf (calls i).server u mail
        return .ended (.ok (SPasswordResource.mailResponse sent "reset password email link sent to "
          "reset password email link was not sent to " address)) : Py RecoveryPhase).run w := by
    simp [RecoveryPhase.next, SPasswordManager.userCheckEmailCode, hcheck, hmail]
  cases hdelivery : (SendMail.delivery conf (calls i).server mail.dest).2 with
  | ok sent =>
    exact ⟨mail, _, _, recoveryTurn_of_ok hi (hnext.trans (by
      rw [EStateM.run_bind, SendMail.run_sendEmail, hdelivery]; rfl))⟩
  | error e =>
    exact ⟨mail, _, _, recoveryTurn_of_error hi (hnext.trans (by
      rw [EStateM.run_bind, SendMail.run_sendEmail, hdelivery]; rfl))⟩

/-- The three turns of a recovery that runs alone are `_recover_password`. -/
theorem solo_recovery (w : World) (call : RecoveryCall) :
    let s := Machine.run (recoveryTurn conf clock u fun _ : Fin 1 => call) ⟨w, fun _ => .testing⟩
      [.request 0, .request 0, .request 0]
    let ended := outcome (SPasswordResource.recoverPassword conf call.uuid call.server u) w
    s.phases 0 = .ended ended.1 ∧ s.world = ended.2 := by
  have hpieces : SPasswordResource.recoverPassword conf call.uuid call.server u = (do
      let phase ← RecoveryPhase.testing.next conf u call
      let phase ← phase.next conf u call
      let phase ← phase.next conf u call
      match phase with
      | .ended (.ok response) => return response
      | _ => throw (.other "")) := by
    simp [RecoveryPhase.next, SPasswordResource.recoverPassword]
  have hover : ∀ w' answer, recoveryTurn conf clock u (fun _ => call)
      ⟨w', fun _ : Fin 1 => .ended answer⟩ (.request 0) = ⟨w', fun _ => .ended answer⟩ :=
    fun w' answer => recoveryTurn_alone call (.ended answer) w'
  dsimp only
  rw [Machine.run_cons, Machine.run_cons, Machine.run_cons, Machine.run_nil, outcome, hpieces,
    recoveryTurn_alone, EStateM.run_bind]
  rcases testing_cases call w with ⟨e, h⟩ | ⟨-, userInfo, address, h⟩
  · rw [h]
    dsimp only
    rw [hover, hover]
    exact ⟨rfl, rfl⟩
  · rw [h]
    dsimp only
    rw [recoveryTurn_alone, EStateM.run_bind]
    cases hissue : ((RecoveryPhase.issuing userInfo address).next conf u call).run w with
    | error e w₁ =>
      dsimp only
      rw [hover]
      exact ⟨rfl, rfl⟩
    | ok phase w₁ =>
      dsimp only
      rw [recoveryTurn_alone, EStateM.run_bind]
      obtain ⟨code, w₂, -, hphase⟩ := exists_of_bind_ok hissue
      obtain ⟨rfl, rfl⟩ : .checking userInfo address code = phase ∧ w₂ = w₁ := by
        simpa using hphase
      cases hcheck : ((RecoveryPhase.checking userInfo address code).next conf u call).run w₂ with
      | error e w₃ => exact ⟨rfl, rfl⟩
      | ok phase w₃ =>
        obtain ⟨matched, w₄, -, hmail⟩ := exists_of_bind_ok hcheck
        obtain ⟨sent, w₅, -, hphase⟩ := exists_of_bind_ok hmail
        obtain ⟨rfl, rfl⟩ : _ = phase ∧ w₅ = w₃ := by simpa using hphase
        exact ⟨rfl, rfl⟩

/-! ### What a turn keeps -/

/-- The columns of the email. -/
def World.emailColumns (w : World) (u : String) : Option (Bool × Option String) :=
  (w.spassword u).map fun row => (row.sndfaEmail, row.sndfaEmailCode)

theorem emailVerified_iff : EmailVerified w u ↔ ∃ code, w.emailColumns u = some (true, code) := by
  simp [EmailVerified, World.emailColumns]

theorem emailCodeStored_iff {code : String} : SPassword.EmailCodeStored w u code ↔
    code ≠ "" ∧ (w.emailColumns u).map Prod.snd = some (some code) := by
  constructor
  · rintro ⟨row, hrow, hcode, hne⟩
    exact ⟨hne, by simp [World.emailColumns, hrow, hcode]⟩
  · rintro ⟨hne, h⟩
    obtain ⟨row, hrow, hcode⟩ : ∃ row, w.spassword u = some row ∧
        row.sndfaEmailCode = some code := by
      simpa [World.emailColumns] using h
    exact ⟨row, hrow, hcode, hne⟩

/-- Whether a recovery is pending depends on the code that is stored. -/
theorem RecoveryPhase.pending_congr
    (h : (w'.emailColumns u).map Prod.snd = (w.emailColumns u).map Prod.snd)
    (phase : RecoveryPhase) : phase.Pending u w' ↔ phase.Pending u w := by
  cases phase with
  | checking userInfo address code =>
    rw [RecoveryPhase.Pending, RecoveryPhase.Pending, emailCodeStored_iff, emailCodeStored_iff, h]
  | _ => exact Iff.rfl

/-- What a login does to the email of a user with a row: nothing. -/
theorem Move.emailColumns_of_login {policy : Policy} (h : Move clock policy u w w')
    (hnotes : ∀ e, policy.notes e → ∃ code, e.OfLogin u code) (hrow : w.spassword u ≠ none) :
    w'.emailColumns u = w.emailColumns u := by
  cases h with
  | tick | noted _ _ _ _ _ | recordStored _ _ | passwordStored _ _ _ | userDropped _ _
  | passwordReset _ _ _ _ _ _ => rfl
  | rowRegistered _ _ _ _ hnone _ _ _ => exact absurd hnone hrow
  | attemptStored row _ _ hrow _ _ | sndfaIssued row _ _ _ _ hrow _ _ _ _ _ =>
    simp [World.emailColumns, hrow, Identity.withCode]
  | userRemoved _ hnote | rowCreated _ _ _ _ _ _ hnote | rowTouched _ _ _ _ hnote
  | sndfaAccepted _ _ _ _ _ _ _ _ hnote | sndfaModified _ _ _ _ hnote | blackModified _ _ _ hnote
  | emailCodeIssued _ _ _ _ _ hnote | recovered _ _ _ _ hnote _ =>
    obtain ⟨code, hlogin⟩ := hnotes _ hnote
    exact hlogin.elim
  | emailCodeChecked _ _ _ _ _ hnote =>
    obtain ⟨code, hlogin⟩ := hnotes _ (hnote true)
    exact hlogin.elim

/-- A login notes what a login notes. -/
def loginPolicy (u : String) : Policy :=
  ⟨fun _ _ _ => True, fun _ _ _ => True, fun e => ∃ code, e.OfLogin u code⟩

theorem login_keeps (conf : Conf) (clock : ℕ → Time) (hw : Recovering w u) (password : String)
    (env : AuthEnv) :
    let w' := final (Identity.authenticate conf clock env u password) w
    Recovering w' u ∧ w'.emailColumns u = w.emailColumns u := by
  have hmoves : Within (Moves clock (loginPolicy u) u)
      (Identity.authenticate conf clock env u password) :=
    moves_authenticate env password fun _ e he => ⟨env.uuid.code, he⟩
  obtain ⟨row, hrow, hfollows, hstored⟩ := hw
  have hkeeps := keeps_of_steps (I := fun w₁ => w₁.emailColumns u = w.emailColumns u ∧
    ∀ r, w₁.spassword u = some r → RowFollows u w₁.log r) ?_ (hmoves w) ⟨rfl, fun r hr => ?_⟩
  · obtain ⟨hcolumns, hrows⟩ := hkeeps
    refine ⟨?_, hcolumns⟩
    have hsome := hcolumns
    rw [World.emailColumns, World.emailColumns, hrow] at hsome
    obtain ⟨row', hrow', heq⟩ := Option.map_eq_some_iff.mp hsome
    refine ⟨row', hrow', hrows row' hrow', ?_⟩
    rw [(Prod.mk.inj heq).2]
    exact hstored
  · rintro w₁ w₂ hmove ⟨hcolumns, hrows⟩
    have hsome : w₁.spassword u ≠ none := by
      intro hnone
      simp [World.emailColumns, hnone, hrow] at hcolumns
    refine ⟨(hmove.emailColumns_of_login (fun e he => he) hsome).trans hcolumns, fun r hr => ?_⟩
    exact hmove.follows_own hrows hr
  · obtain rfl : row = r := Option.some.inj (hrow.symm.trans hr)
    exact hfollows

section Keeps

variable {n : ℕ} {s s' : Parallel RecoveryPhase n} {i : Fin n}

/-- A turn that leaves the email alone, and its recovery as pending as it was. -/
theorem willBeVerified_congr (hcolumns : s'.world.emailColumns u = s.world.emailColumns u)
    (hphases : ∀ j, (s'.phases j).Pending u s.world ↔ (s.phases j).Pending u s.world) :
    WillBeVerified u s' ↔ WillBeVerified u s := by
  rw [WillBeVerified, WillBeVerified, emailVerified_iff, emailVerified_iff, hcolumns]
  refine or_congr_right (exists_congr fun j => ?_)
  rw [RecoveryPhase.pending_congr (congrArg _ hcolumns), hphases]

theorem pending_update {phase : RecoveryPhase}
    (h : phase.Pending u w ↔ (s.phases i).Pending u w) (j : Fin n) :
    (Function.update s.phases i phase j).Pending u w ↔ (s.phases j).Pending u w := by
  by_cases hj : j = i
  · subst hj
    rw [Function.update_self]
    exact h
  · rw [Function.update_of_ne hj]

theorem testing_keeps (conf : Conf) (clock : ℕ → Time) (calls : Fin n → RecoveryCall)
    (hs : Recovering s.world u) (hi : s.phases i = .testing) :
    Recovering (recoveryTurn conf clock u calls s (.request i)).world u ∧
      (WillBeVerified u (recoveryTurn conf clock u calls s (.request i)) ↔ WillBeVerified u s) := by
  rcases testing_cases (calls i) s.world with ⟨e, h⟩ | ⟨hverified, userInfo, address, h⟩
  · rw [recoveryTurn_of_error hi h]
    refine ⟨hs, willBeVerified_congr rfl (pending_update ?_)⟩
    rw [hi]
    exact Iff.rfl
  · rw [recoveryTurn_of_ok hi h]
    exact ⟨hs, iff_of_true (.inl hverified) (.inl hverified)⟩

theorem issuing_keeps (conf : Conf) (clock : ℕ → Time) (calls : Fin n → RecoveryCall)
    (hs : Recovering s.world u) {userInfo : User} {address : Address}
    (hi : s.phases i = .issuing userInfo address) :
    Recovering (recoveryTurn conf clock u calls s (.request i)).world u ∧
      (WillBeVerified u (recoveryTurn conf clock u calls s (.request i)) ↔ WillBeVerified u s) := by
  obtain ⟨row, hrow, hfollows, hstored⟩ := hs
  have hissue := SPasswordResource.run_userAskCheckEmailCode hrow .recover (calls i).uuid
  have hnext : ((RecoveryPhase.issuing userInfo address).next conf u (calls i)).run s.world =
      .ok (.checking userInfo address (calls i).uuid.code) ((s.world.setRow u
        (some (SPasswordResource.withEmailCode row (calls i).uuid.code))).note
          (.emailCodeIssued u (calls i).uuid.code .recover)) := by
    simp [RecoveryPhase.next, hissue]
  rw [recoveryTurn_of_ok hi hnext]
  refine ⟨⟨_, Function.update_self .., hfollows.emailCodeIssued (calls i).uuid .recover,
    truthy_code _⟩, ?_⟩
  refine iff_of_true (.inr ⟨i, ?_⟩) (.inr ⟨i, by rw [hi]; trivial⟩)
  dsimp only
  rw [Function.update_self]
  exact ⟨_, Function.update_self .., rfl, (calls i).uuid.ne_empty⟩

theorem checking_keeps (conf : Conf) (clock : ℕ → Time) (calls : Fin n → RecoveryCall)
    (hs : Recovering s.world u) {userInfo : User} {address : Address} {code : String}
    (hi : s.phases i = .checking userInfo address code) :
    Recovering (recoveryTurn conf clock u calls s (.request i)).world u ∧
      (WillBeVerified u (recoveryTurn conf clock u calls s (.request i)) ↔
        SPassword.EmailCodeStored s.world u code ∨ ∃ j ≠ i, (s.phases j).Pending u s.world) := by
  obtain ⟨row, hrow, hfollows, hstored⟩ := hs
  obtain ⟨mail, handed, answer, hturn⟩ := checking_turn conf clock calls hi
    (SPassword.run_checkEmailCode_of_set hrow hstored)
  have hmatched : SPassword.EmailCodeStored s.world u code ↔ row.sndfaEmailCode = some code := by
    refine ⟨fun ⟨row', hrow', hcode, _⟩ => ?_, fun hcode => ⟨row, hrow, hcode, ?_⟩⟩
    · rw [hrow] at hrow'
      cases hrow'
      exact hcode
    · rintro rfl
      simp [hcode, truthy] at hstored
  have hunseen : (Event.mailed u mail handed).Unseen u := Event.Inert.unseen trivial
  rw [hturn]
  refine ⟨⟨_, Function.update_self .., (hfollows.emailCodeChecked hstored code _).cons hunseen,
    hstored⟩, or_congr ?_ (exists_congr fun j => ?_)⟩
  · rw [hmatched, emailVerified_iff]
    simp [World.emailColumns]
  · rw [RecoveryPhase.pending_congr (w := s.world) (by simp [World.emailColumns, hrow])]
    by_cases hj : j = i
    · subst hj
      simp [RecoveryPhase.Pending]
    · simp [hj]

end Keeps

/-- **What a turn keeps.** -/
theorem recoveryTurn_keeps {n : ℕ} {calls : Fin n → RecoveryCall} {s : Parallel RecoveryPhase n}
    (hs : Recovering s.world u) (turn : RecoveryTurn n) :
    Recovering (recoveryTurn conf clock u calls s turn).world u ∧
      (WillBeVerified u (recoveryTurn conf clock u calls s turn) ↔
        WillBeVerified u s ∧ turn.KeepsVerified u s) := by
  cases turn with
  | login call =>
    obtain ⟨hrecovering, hcolumns⟩ := login_keeps conf clock hs call.password call.env
    have hiff : WillBeVerified u (recoveryTurn conf clock u calls s (.login call)) ↔
        WillBeVerified u s := willBeVerified_congr hcolumns fun j => Iff.rfl
    exact ⟨hrecovering, hiff.trans (and_iff_left trivial).symm⟩
  | request i =>
    cases hi : s.phases i with
    | testing =>
      obtain ⟨hrecovering, hiff⟩ := testing_keeps conf clock calls hs hi
      refine ⟨hrecovering, hiff.trans (and_iff_left ?_).symm⟩
      intro userInfo address code h
      cases hi.symm.trans h
    | issuing userInfo address =>
      obtain ⟨hrecovering, hiff⟩ := issuing_keeps conf clock calls hs hi
      refine ⟨hrecovering, hiff.trans (and_iff_left ?_).symm⟩
      intro userInfo address code h
      cases hi.symm.trans h
    | checking userInfo address code =>
      obtain ⟨hrecovering, hiff⟩ := checking_keeps conf clock calls hs hi
      refine ⟨hrecovering, hiff.trans ⟨fun h => ⟨?_, ?_⟩, fun h => h.2 userInfo address code hi⟩⟩
      · rcases h with hstored | ⟨j, -, hpending⟩
        · exact .inr ⟨i, by rw [hi]; exact hstored⟩
        · exact .inr ⟨j, hpending⟩
      · intro userInfo' address' code' h'
        cases hi.symm.trans h'
        exact h
    | ended answer =>
      have hturn : recoveryTurn conf clock u calls s (.request i) = s := by
        rw [recoveryTurn_of_ok hi rfl, ← hi, Function.update_eq_self]
      rw [hturn]
      refine ⟨hs, (and_iff_left ?_).symm⟩
      intro userInfo address code h
      cases hi.symm.trans h

/-- The code of the last issue is accepted. -/
theorem accepted_of_recovering (hw : Recovering w u) {code : String} {origin : CodeOrigin}
    (hissued : register (storedEmailCode u) w.log = some (code, origin)) :
    ∃ w', (SPassword.checkEmailCode u code).run w = .ok true w' := by
  obtain ⟨row, hrow, hfollows, hstored⟩ := hw
  have hcode : row.sndfaEmailCode = some code := by rw [hfollows.emailCode, hissued]; rfl
  have hne : code ≠ "" := by
    rintro rfl
    simp [hcode, truthy] at hstored
  exact ⟨_, SPassword.run_checkEmailCode_of_match hrow hcode hne⟩

/-- No recovery is pending that is over. -/
theorem willBeVerified_iff_of_ended {n : ℕ} {s : Parallel RecoveryPhase n}
    (hended : ∀ i, ∃ answer, s.phases i = .ended answer) :
    WillBeVerified u s ↔ EmailVerified s.world u := by
  refine or_iff_left ?_
  rintro ⟨i, hpending⟩
  obtain ⟨answer, hi⟩ := hended i
  rw [hi] at hpending
  exact hpending

/-- **Recoveries keep the account verified** if and only if each of them that comes too late, with a
code that is no longer stored, leaves another one pending, and no login of a user with the second
factor on comes between the issue of a code and its confirmation. The code of the last issue is the
one that is stored in any case. -/
theorem recoveries_keep_verified_iff (hreach : Reachable conf clock w)
    (hverified : EmailVerified w u) {n : ℕ} {calls : Fin n → RecoveryCall}
    {schedule : List (RecoveryTurn n)} {s : Parallel RecoveryPhase n}
    (hs : s = Machine.run (recoveryTurn conf clock u calls) ⟨w, fun _ => .testing⟩ schedule)
    (hended : ∀ i, ∃ answer, s.phases i = .ended answer) :
    (EmailVerified s.world u ∧
        (∀ code origin, register (storedEmailCode u) s.world.log = some (code, origin) →
          ∃ w', (SPassword.checkEmailCode u code).run s.world = .ok true w') ∧
        Machine.Along (recoveryTurn conf clock u calls)
          (fun s turn => turn.NotRefused conf clock u s) ⟨w, fun _ => .testing⟩ schedule) ↔
      Machine.Along (recoveryTurn conf clock u calls)
        (fun s turn => turn.KeepsVerified u s ∧ turn.LoginInTime conf clock u s)
        ⟨w, fun _ => .testing⟩ schedule := by
  obtain ⟨row, hrow, hemail⟩ := hverified
  have hfollows := (tracks_of_reachable hreach).follows u row hrow
  have hstart : Recovering w u := ⟨row, hrow, hfollows, hfollows.emailCode_set (.inr hemail)⟩
  have hkeeps : ∀ (s : Parallel RecoveryPhase n) turn, Recovering s.world u →
      Recovering (recoveryTurn conf clock u calls s turn).world u :=
    fun _ turn h => (recoveryTurn_keeps h turn).1
  have hfinal : Recovering s.world u := by
    rw [hs]
    exact Machine.run_invariant (P := fun _ _ => True) (I := fun s => Recovering s.world u)
      (fun s turn _ => hkeeps s turn)
      (Machine.along_of_forall (fun _ _ => trivial) ⟨w, fun _ => .testing⟩ schedule) hstart
  have hlate : EmailVerified s.world u ↔ Machine.Along (recoveryTurn conf clock u calls)
      (fun s turn => turn.KeepsVerified u s) ⟨w, fun _ => .testing⟩ schedule := by
    rw [← willBeVerified_iff_of_ended hended, hs]
    refine (Machine.run_iff_along (I := fun s => Recovering s.world u) hkeeps
      (fun s turn h => (recoveryTurn_keeps h turn).2) hstart schedule).trans (and_iff_right ?_)
    exact .inl ⟨row, hrow, hemail⟩
  have hrefused : Machine.Along (recoveryTurn conf clock u calls)
        (fun s turn => turn.NotRefused conf clock u s) ⟨w, fun _ => .testing⟩ schedule ↔
      Machine.Along (recoveryTurn conf clock u calls)
        (fun s turn => turn.LoginInTime conf clock u s) ⟨w, fun _ => .testing⟩ schedule := by
    refine Machine.along_congr (I := fun _ => True) (fun _ _ _ _ => trivial) (fun s turn _ => ?_)
      trivial schedule
    cases turn with
    | request i => exact Iff.rfl
    | login call => exact (not_congr (unverifiedRefusal_iff call.env)).trans not_and
  rw [Machine.along_and, ← hlate, ← hrefused]
  exact and_congr_right fun _ => and_iff_right fun _ _ => accepted_of_recovering hfinal

namespace Sample

/-- Two recoveries, with their own codes. -/
def recoveries : Fin 2 → RecoveryCall := fun i => ⟨if i = 0 then code else emailCode, .up⟩

end Sample

/-- Two recoveries, the second after the first is over, and then a login. -/
theorem recoveries_keep_verified_in_turn :
    let w := run Sample.conf Sample.ticking (.initial Sample.users) Sample.setUp
    let s := Machine.run (recoveryTurn Sample.conf Sample.ticking "alice" Sample.recoveries)
      ⟨w, fun _ => .testing⟩
      [.request 0, .request 0, .request 0, .request 1, .request 1, .request 1]
    EmailVerified s.world "alice" := by
  intro w s
  have hreach : Reachable Sample.conf Sample.ticking w := (reachable_initial Sample.users).run _
  have hended : ∀ i, ∃ answer, s.phases i = .ended answer :=
    Fin.forall_fin_two.mpr ⟨⟨_, rfl⟩, ⟨_, rfl⟩⟩
  refine ((recoveries_keep_verified_iff hreach ⟨_, rfl, rfl⟩ rfl hended).mpr ?_).1
  have hown : ∀ (s : Parallel RecoveryPhase 2) i, (∀ userInfo address code,
      s.phases i = .checking userInfo address code →
        SPassword.EmailCodeStored s.world "alice" code) →
      (RecoveryTurn.request i).KeepsVerified "alice" s ∧
        (RecoveryTurn.request i).LoginInTime Sample.conf Sample.ticking "alice" s :=
    fun s i h => ⟨fun userInfo address code hi => .inl (h userInfo address code hi), trivial⟩
  refine ⟨hown _ _ ?_, hown _ _ ?_, hown _ _ ?_, hown _ _ ?_, hown _ _ ?_, hown _ _ ?_, trivial⟩
  all_goals
    intro userInfo address code hi
    cases hi
  · exact ⟨_, rfl, rfl, by decide⟩
  · exact ⟨_, rfl, rfl, by decide⟩

/-- Two recoveries that take turns: the second one stores its code before the first one confirms its
own, and is confirmed before it. In the end the email is not verified, and a login is refused. -/
theorem recoveries_leave_unverified :
    let w := run Sample.conf Sample.ticking (.initial Sample.users) Sample.setUp
    let s := Machine.run (recoveryTurn Sample.conf Sample.ticking "alice" Sample.recoveries)
      ⟨w, fun _ => .testing⟩
      [.request 0, .request 1, .request 0, .request 1, .request 1, .request 0]
    EmailVerified w "alice" ∧ (∀ i, ∃ answer, s.phases i = .ended answer) ∧
      ¬ EmailVerified s.world "alice" ∧
      UnverifiedRefusal Sample.conf Sample.ticking s.world "alice" "secret"
        (Sample.env Sample.code) := by
  refine ⟨⟨_, rfl, rfl⟩, Fin.forall_fin_two.mpr ⟨⟨_, rfl⟩, ⟨_, rfl⟩⟩, ?_, _, rfl⟩
  rintro ⟨row, hrow, hemail⟩
  cases hrow
  cases hemail

end KeystoneSpassword
