import KeystoneSpassword.Congruence
import KeystoneSpassword.SecondFactor

/-!
# A wrong code

Three routes take a code and need no token: `sndfa/<code>`, `checkemail/<code>` and
`reset_password/<code>`. The first one writes only when the code matches. The other two go through
`check_email_code`, which writes the outcome of the comparison either way, so a wrong code takes
back a verification. This file says exactly when a sequence of wrong codes changes nothing, and
that it then has no effect on a later login or recovery.

No program reads the history or has its result changed by it. `SameData` is equality of everything
else, and the programs of a login and of a recovery respect it.

## Main definitions

* `Request.WrongCode` — a code that differs from the stored one is presented for an existing user
* `ChangesNothing`, `Harmless` — one request, and a sequence of requests
* `Request.Spared` — the request finds nothing to take back

## Main results

* `wrong_codes_harmless_iff`
-/

namespace KeystoneSpassword

open StateProgram Machine

variable {conf : Conf} {clock : ℕ → Time} {u : String} {w w' : World}

/-! ### What is presented -/

/-- A code for an existing user is presented, and differs from the one that is stored. -/
def Request.WrongCode (w : World) : Request → Prop
  | .checkSndfaCode u c => w.users u ≠ none ∧
    ∀ row, w.spassword u = some row → row.sndfaCode ≠ some c
  | .checkEmailCode u c | .resetPassword u c _ _ _ => w.users u ≠ none ∧
    ∀ row, w.spassword u = some row → row.sndfaEmailCode ≠ some c
  | .recoverPassword _ _ _ | .modifySndfa _ _ _ | .getSndfa _ _ | .askForCheckEmailCode _ _ _ _
  | .modifyBlack _ _ _ | .getBlack _ _ => False

/-- The state after a request. -/
def serve (conf : Conf) (clock : ℕ → Time) (w : World) (r : Request) : World :=
  final (r.program conf clock) w

/-- The request is answered `401`, and every user and row is as it was. -/
structure ChangesNothing (conf : Conf) (clock : ℕ → Time) (w : World) (r : Request) : Prop where
  unauthorised : answerStatus ((r.program conf clock).run w) = 401
  users : (serve conf clock w r).users = w.users
  table : (serve conf clock w r).spassword = w.spassword

/-- The request finds nothing to take back: the second-factor route is configured, and the email
that a comparison would make unverified is not verified. -/
def Request.Spared (conf : Conf) (w : World) : Request → Prop
  | .checkSndfaCode _ _ => conf.enabled = true ∧ conf.sndfa = true
  | .checkEmailCode u _ => (∀ userRecord, w.users u = some userRecord → userRecord.email ≠ none) →
    ¬ EmailVerified w u
  | .resetPassword u _ _ _ _ => ¬ EmailVerified w u
  | _ => True

/-- The answer of a program, without the state it leaves. -/
def answer {α : Type} : EStateM.Result PyExc World α → Except PyExc α
  | .ok a _ => .ok a
  | .error e _ => .error e

/-- Every request of the sequence changes nothing, and afterwards every login and every recovery is
answered as before. -/
structure Harmless (conf : Conf) (clock : ℕ → Time) (w : World) (rs : List Request) : Prop where
  requests : Along (serve conf clock) (ChangesNothing conf clock) w rs
  logins : ∀ u password env,
    answer ((Identity.authenticate conf clock env u password).run
      (Machine.run (serve conf clock) w rs)) =
    answer ((Identity.authenticate conf clock env u password).run w)
  recoveries : ∀ u uuid server,
    answer ((SPasswordResource.recoverPassword conf uuid server u).run
      (Machine.run (serve conf clock) w rs)) =
    answer ((SPasswordResource.recoverPassword conf uuid server u).run w)

/-! ### No program reads the history -/

/-- Everything but the history is the same. -/
structure SameData (w w' : World) : Prop where
  users : w.users = w'.users
  table : w.spassword = w'.spassword
  ticks : w.ticks = w'.ticks

theorem SameData.trans {w₁ w₂ w₃ : World} (h₁ : SameData w₁ w₂) (h₂ : SameData w₂ w₃) :
    SameData w₁ w₃ :=
  ⟨h₁.users.trans h₂.users, h₁.table.trans h₂.table, h₁.ticks.trans h₂.ticks⟩

theorem answer_eq_of_alike {α : Type} {x y : EStateM.Result PyExc World α}
    (h : Alike SameData x y) : answer x = answer y := by
  cases h <;> rfl

theorem stable_sameData : Stable SameData where
  users h := h.users
  ticks h := h.ticks
  tick h := ⟨h.users, h.table, congrArg (· + 1) h.ticks⟩
  note _ h := ⟨h.users, h.table, h.ticks⟩

section Respects

theorem respects_getSpasswordSession (u : String) : Respects SameData (getSpasswordSession u) := by
  intro s t h
  rw [run_getSpasswordSession, run_getSpasswordSession, h.table]
  exact .ok _ h

theorem respects_sessionUpdate (u : String) (assign : SPasswordModel → SPasswordModel) :
    Respects SameData (sessionUpdate u assign) := by
  refine respects_modify fun s t h => ⟨h.users, ?_, h.ticks⟩
  rw [World.setRow_spassword, World.setRow_spassword, h.table]

theorem respects_sessionInsert (row : SPasswordModel) : Respects SameData (sessionInsert row) := by
  intro s t h
  have htable : s.spassword row.userId = t.spassword row.userId := by rw [h.table]
  cases hrow : t.spassword row.userId with
  | none =>
    rw [run_sessionInsert t hrow, run_sessionInsert s (htable.trans hrow)]
    refine .ok () ⟨h.users, ?_, h.ticks⟩
    rw [World.setRow_spassword, World.setRow_spassword, h.table]
  | some row' =>
    have hraises : ∀ w : World, w.spassword row.userId = some row' →
        (sessionInsert row).run w = .error .integrityError w := by
      intro w hw
      simp [sessionInsert, hw]
    rw [hraises t hrow, hraises s (htable.trans hrow)]
    exact .error _ h

theorem respects_checkPassword : Respects SameData (Identity.checkPassword conf clock u) := by
  refine Respects.ite ((respects_getSpasswordSession u).bind fun row => ?_) (respects_pure ())
  cases row with
  | none => exact respects_pure ()
  | some row =>
    refine (respects_ofExcept _).bind fun checks => Respects.ite ?_ (respects_pure ())
    refine stable_sameData.utcnow.bind fun now => (respects_ofExcept _).bind fun created => ?_
    exact Respects.ite ((stable_sameData.record _).bind fun _ => respects_throw _)
      (respects_pure ())

theorem respects_verdict (env : AuthEnv) (password : String) :
    Respects SameData (Identity.verdict conf clock env u password) := by
  have hbase : Respects SameData (Identity.baseAuthenticate conf clock env u password) := by
    rw [Identity.baseAuthenticate]
    cases env.base u password with
    | answer a => exact respects_toPy a
    | check a => exact respects_checkPassword.bind fun _ => respects_toPy a
  refine Respects.ite ?_ hbase
  exact (respects_getSpasswordSession u).bind fun row =>
    (stable_sameData.lockoutTest row).bind fun _ => hbase

theorem respects_setUserSndfaCode (newcode : String) :
    Respects SameData (SPassword.setUserSndfaCode clock u newcode) := by
  refine (respects_getSpasswordSession u).bind fun row => ?_
  cases row with
  | none => exact respects_pure ()
  | some row =>
    refine Respects.ite (Respects.ite ?_ (respects_pure ())) (respects_throw _)
    exact stable_sameData.utcnow.bind fun now => (respects_sessionUpdate u _).bind fun _ =>
      stable_sameData.record _

theorem respects_sndfaCodeToMail (env : AuthEnv) (row : SPasswordModel) :
    Respects SameData (Identity.sndfaCodeToMail conf clock env u row) := by
  refine (stable_sameData.insideWindow _).bind fun fresh => Respects.ite (respects_pure _) ?_
  exact (stable_sameData.getUser u).bind fun user => (respects_setUserSndfaCode _).bind fun _ =>
    respects_pure _

theorem respects_secondFactor (env : AuthEnv) (row : SPasswordModel) :
    Respects SameData (Identity.secondFactor conf clock env u row) := by
  refine Respects.ite (Respects.ite ?_ (respects_pure _)) (respects_pure _)
  refine (stable_sameData.insideWindow _).bind fun signed => Respects.ite (respects_pure _) ?_
  exact (respects_sndfaCodeToMail env row).bind fun code => (stable_sameData.userEmail u).bind
    fun address => (stable_sameData.sendEmail env.server _).bind fun _ => respects_pure _

theorem respects_recordAttempt (env : AuthEnv) (row : Option SPasswordModel) (res : Option User)
    (now : DateTime) : Respects SameData (Identity.recordAttempt conf clock env u row res now) := by
  cases row with
  | none =>
    refine (stable_sameData.getUser u).bind fun user => (respects_sessionInsert _).bind fun _ =>
      (stable_sameData.record _).bind fun _ => ?_
    cases res with
    | none => exact respects_throw _
    | some user => exact (stable_sameData.record _).bind fun _ => respects_pure _
  | some row =>
    refine (respects_ofExcept _).bind fun created => ?_
    cases res with
    | none => exact (respects_sessionUpdate u _).bind fun _ => respects_throw _
    | some user =>
      refine (respects_secondFactor env row).bind fun refusal =>
        (respects_sessionUpdate u _).bind fun _ => ?_
      cases refusal with
      | none => exact (stable_sameData.record _).bind fun _ => respects_pure _
      | some message => exact respects_throw _

/-- A login does not read the history. -/
theorem respects_authenticate (env : AuthEnv) (password : String) :
    Respects SameData (Identity.authenticate conf clock env u password) := by
  refine (respects_verdict env password).bind fun res => Respects.ite ?_ ?_
  · exact (respects_getSpasswordSession u).bind fun row => stable_sameData.utcnow.bind fun now =>
      (stable_sameData.record _).bind fun _ => respects_recordAttempt env row res now
  · cases res with
    | none => exact respects_throw _
    | some user => exact respects_pure _

theorem respects_alreadyEmailChecked (u : String) :
    Respects SameData (SPassword.alreadyEmailChecked u) := by
  refine (respects_getSpasswordSession u).bind fun row => ?_
  cases row with
  | none => exact respects_pure _
  | some row => exact Respects.ite (respects_pure _) (respects_throw _)

theorem respects_setCheckEmailCode (origin : CodeOrigin) (code : String) :
    Respects SameData (SPassword.setCheckEmailCode origin u code) := by
  refine (respects_getSpasswordSession u).bind fun row => ?_
  cases row with
  | none => exact respects_pure _
  | some row => exact (respects_sessionUpdate u _).bind fun _ => stable_sameData.record _

theorem respects_checkEmailCode (code : String) :
    Respects SameData (SPassword.checkEmailCode u code) := by
  refine (respects_getSpasswordSession u).bind fun row => ?_
  cases row with
  | none => exact respects_pure _
  | some row =>
    refine Respects.ite ?_ (respects_pure _)
    exact (respects_sessionUpdate u _).bind fun _ => (stable_sameData.record _).bind fun _ =>
      respects_pure _

/-- A recovery does not read the history. -/
theorem respects_recoverPassword (uuid : ShortCode) (server : SmtpServer) :
    Respects SameData (SPasswordResource.recoverPassword conf uuid server u) := by
  refine Respects.bind (Respects.ite (respects_throw _) (respects_pure ())) fun _ =>
    (stable_sameData.getUser u).bind fun user => Respects.bind ?_ fun address =>
      Respects.bind ?_ fun _ => Respects.bind ?_ fun code =>
        (respects_checkEmailCode code).bind fun _ =>
          (stable_sameData.sendEmail server _).bind fun _ => respects_pure _
  · rw [SPasswordResource.checkUserHasEmailDefined]
    cases user.email with
    | none => exact respects_throw _
    | some address => exact respects_pure _
  · exact (respects_alreadyEmailChecked _).bind fun _ =>
      Respects.ite (respects_pure ()) (respects_throw _)
  · exact (respects_alreadyEmailChecked u).bind fun _ =>
      (respects_setCheckEmailCode .recover uuid.code).bind fun _ => respects_pure _

end Respects

/-! ### One request -/

theorem serve_eq_step (w : World) (r : Request) :
    serve conf clock w r = step conf clock w (.request r) := (step_request conf clock w r).symm

/-- A wrong email code leaves the table alone exactly when there is no verification to take back. -/
theorem table_wrong_emailCode_iff (hreach : Reachable conf clock w) {code : String}
    (hwrong : ∀ row, w.spassword u = some row → row.sndfaEmailCode ≠ some code) :
    (final (SPassword.checkEmailCode u code) w).spassword = w.spassword ↔ ¬ EmailVerified w u := by
  cases hrow : w.spassword u with
  | none =>
    have hunset : (SPassword.checkEmailCode u code).run w = .ok false w :=
      SPassword.run_checkEmailCode_of_unset fun row h => by rw [hrow] at h; cases h
    refine iff_of_true (by rw [final_of_run_ok hunset]) ?_
    rintro ⟨row, h, -⟩
    rw [hrow] at h
    cases h
  | some row =>
    rw [table_checkEmailCode_iff hrow, Compared, decide_eq_false (hwrong row hrow)]
    constructor
    · rintro hcompared ⟨row', h, hemail⟩
      rw [hrow] at h
      cases h
      -- a verified email has a code to be compared with
      have hset := ((tracks_of_reachable hreach).follows u row hrow).emailCode_set (.inr hemail)
      rw [hcompared hset] at hemail
      cases hemail
    · exact fun hunverified _ => Bool.eq_false_iff.mpr fun hemail => hunverified ⟨row, hrow, hemail⟩

theorem not_emailCodeStored {code : String}
    (hwrong : ∀ row, w.spassword u = some row → row.sndfaEmailCode ≠ some code) :
    ¬ SPassword.EmailCodeStored w u code := by
  rintro ⟨row, hrow, hcode, -⟩
  exact hwrong row hrow hcode

/-- A refused request that ends in a comparison. -/
theorem changesNothing_of_check {r : Request} {code : String} {response : HttpResponse}
    (hstatus : response.status = 401)
    (hrun : (r.program conf clock).run w =
      .ok response (final (SPassword.checkEmailCode u code) w)) :
    ChangesNothing conf clock w r ↔
      (final (SPassword.checkEmailCode u code) w).spassword = w.spassword := by
  have hserve : serve conf clock w r = final (SPassword.checkEmailCode u code) w :=
    final_of_run_ok hrun
  constructor
  · intro h
    rw [← hserve]
    exact h.table
  · intro h
    exact ⟨by rw [hrun]; exact hstatus, by rw [hserve, users_checkEmailCode], by rw [hserve, h]⟩

/-- A request that is refused before anything is compared. -/
theorem changesNothing_of_unauthorized {r : Request}
    (h : ∃ message, (r.program conf clock).run w = .error (.unauthorized message) w) :
    ChangesNothing conf clock w r := by
  obtain ⟨message, hrun⟩ := h
  have hserve : serve conf clock w r = w := final_of_run_error hrun
  exact ⟨by rw [hrun]; rfl, by rw [hserve], by rw [hserve]⟩

namespace SPasswordResource

theorem changesNothing_checkSndfaCode_iff {code : String} (huser : w.users u ≠ none)
    (hwrong : ∀ row, w.spassword u = some row → row.sndfaCode ≠ some code) :
    ChangesNothing conf clock w (.checkSndfaCode u code) ↔
      conf.enabled = true ∧ conf.sndfa = true := by
  obtain ⟨userRecord, huser⟩ := Option.ne_none_iff_exists'.mp huser
  by_cases hconf : conf.enabled = true ∧ conf.sndfa = true
  · refine iff_of_true ?_ hconf
    by_cases hverified : EmailVerified w u
    · have hmismatch : (SPassword.checkSndfaCode clock u code).run w = .ok false w :=
        SPassword.run_checkSndfaCode_of_mismatch fun row hrow h => hwrong row hrow h.2.2
      have hrun : (checkSndfaCode conf clock u code).run w = .ok (sndfaResponse false) w := by
        rw [run_checkSndfaCode_of_verified hconf huser hverified, run_map, hmismatch]
      have hserve : serve conf clock w (.checkSndfaCode u code) = w := final_of_run_ok hrun
      exact ⟨by rw [Request.program, hrun]; rfl, by rw [hserve], by rw [hserve]⟩
    · have hrefused : (checkUserHasEmailValidated (userRecord.toUser u)).run w = .error _ w :=
        run_checkUserHasEmailValidated_of_not_verified hverified
      refine changesNothing_of_unauthorized
        ⟨"User " ++ u ++ " " ++ userRecord.name ++ " has no email verified", ?_⟩
      simp only [Request.program, checkSndfaCode, EStateM.run_bind, run_checkSpasswordConfigured,
        hconf, and_self, if_true, run_getUser_some w huser, hrefused]
      rfl
  · refine iff_of_false (fun h => ?_) hconf
    have hrun : (checkSndfaCode conf clock u code).run w = .error .notConfigured w := by
      simp [checkSndfaCode, run_checkSpasswordConfigured, hconf]
    have hstatus := h.unauthorised
    rw [Request.program, hrun] at hstatus
    cases hstatus

theorem changesNothing_checkEmailCode_iff (hreach : Reachable conf clock w) {code : String}
    (huser : w.users u ≠ none)
    (hwrong : ∀ row, w.spassword u = some row → row.sndfaEmailCode ≠ some code) :
    ChangesNothing conf clock w (.checkEmailCode u code) ↔
      ((∀ userRecord, w.users u = some userRecord → userRecord.email ≠ none) →
        ¬ EmailVerified w u) := by
  obtain ⟨userRecord, huser⟩ := Option.ne_none_iff_exists'.mp huser
  cases haddress : userRecord.email with
  | none =>
    refine iff_of_true ?_ fun h => absurd haddress (h userRecord huser)
    have hundefined : (checkUserHasEmailDefined (userRecord.toUser u)).run w = .error _ w :=
      run_checkUserHasEmailDefined_none haddress
    refine changesNothing_of_unauthorized
      ⟨"User " ++ u ++ " " ++ userRecord.name ++ " has no email defined", ?_⟩
    simp only [Request.program, checkEmailCode, EStateM.run_bind, run_getUser_some w huser,
      hundefined]
    rfl
  | some address =>
    have hdefined : (checkUserHasEmailDefined (userRecord.toUser u)).run w = .ok address w :=
      run_checkUserHasEmailDefined_some haddress
    have hrun : ((Request.checkEmailCode u code).program conf clock).run w =
        .ok ⟨.text "No valid code. Email not checked", 401, some "application/json"⟩
          (final (SPassword.checkEmailCode u code) w) := by
      have hfalse := run_checkEmailCode_false (not_emailCodeStored hwrong)
      simp [Request.program, checkEmailCode, run_getUser_some w huser, hdefined,
        SPasswordManager.userCheckEmailCode, hfalse]
    rw [changesNothing_of_check rfl hrun, table_wrong_emailCode_iff hreach hwrong]
    refine (imp_iff_right fun userRecord' huser' => ?_).symm
    rw [huser] at huser'
    cases huser'
    simp [haddress]

theorem changesNothing_resetPassword_iff (hreach : Reachable conf clock w) {code : String}
    (huser : w.users u ≠ none)
    (hwrong : ∀ row, w.spassword u = some row → row.sndfaEmailCode ≠ some code)
    (newPassword : NewPassword) (fault : Option PyExc) (server : SmtpServer) :
    ChangesNothing conf clock w (.resetPassword u code newPassword fault server) ↔
      ¬ EmailVerified w u := by
  obtain ⟨userRecord, huser⟩ := Option.ne_none_iff_exists'.mp huser
  have hrun : ((Request.resetPassword u code newPassword fault server).program conf clock).run w =
      .ok noValidCode (final (SPassword.checkEmailCode u code) w) :=
    run_resetPassword_of_check_false huser (run_checkEmailCode_false (not_emailCodeStored hwrong))
      newPassword fault server
  rw [changesNothing_of_check rfl hrun, table_wrong_emailCode_iff hreach hwrong]

end SPasswordResource

/-- **One wrong code.** -/
theorem changesNothing_iff (hreach : Reachable conf clock w) {r : Request}
    (hwrong : r.WrongCode w) : ChangesNothing conf clock w r ↔ r.Spared conf w := by
  cases r with
  | checkSndfaCode u code =>
    exact SPasswordResource.changesNothing_checkSndfaCode_iff hwrong.1 hwrong.2
  | checkEmailCode u code =>
    exact SPasswordResource.changesNothing_checkEmailCode_iff hreach hwrong.1 hwrong.2
  | resetPassword u code newPassword fault server =>
    exact SPasswordResource.changesNothing_resetPassword_iff hreach hwrong.1 hwrong.2 newPassword
      fault server
  | _ => exact hwrong.elim

/-- A request with a wrong code is a comparison, if anything. -/
theorem serve_wrong (hreach : Reachable conf clock w) {r : Request} (hwrong : r.WrongCode w) :
    serve conf clock w r = w ∨
      ∃ u code, serve conf clock w r = final (SPassword.checkEmailCode u code) w := by
  cases r with
  | checkSndfaCode u code =>
    left
    have hmismatch : (SPassword.checkSndfaCode clock u code).run w = .ok false w :=
      SPassword.run_checkSndfaCode_of_mismatch fun row hrow h => hwrong.2 row hrow h.2.2
    rw [serve, Request.program, final_request_checkSndfaCode hreach, final_of_run_ok hmismatch,
      ite_self]
  | checkEmailCode u code =>
    obtain ⟨userRecord, huser⟩ := Option.ne_none_iff_exists'.mp hwrong.1
    rw [serve, Request.program, SPasswordResource.checkEmailCode, final_bind,
      run_getUser_some w huser]
    dsimp only
    rcases (reads_checkUserHasEmailDefined (userRecord.toUser u)).bind_cases _ w with
      ⟨e, -, h⟩ | ⟨address, -, h⟩
    · exact .inl (final_of_run_error h)
    · refine .inr ⟨u, code, (final_congr h).trans ?_⟩
      exact final_bind_reads (fun matched => by cases matched <;> exact reads_pure _) w
  | resetPassword u code newPassword fault server =>
    obtain ⟨userRecord, huser⟩ := Option.ne_none_iff_exists'.mp hwrong.1
    exact .inr ⟨u, code, final_of_run_ok (SPasswordResource.run_resetPassword_of_check_false huser
      (run_checkEmailCode_false (not_emailCodeStored hwrong.2)) newPassword fault server)⟩
  | _ => exact hwrong.elim

/-! ### A sequence of requests -/

/-- A wrong code that changes nothing leaves everything but the history. -/
theorem sameData_serve (hreach : Reachable conf clock w) {r : Request} (hwrong : r.WrongCode w)
    (hnothing : ChangesNothing conf clock w r) : SameData (serve conf clock w r) w := by
  refine ⟨hnothing.users, hnothing.table, ?_⟩
  rcases serve_wrong hreach hwrong with h | ⟨u, code, h⟩ <;> rw [h]
  exact (rest_checkEmailCode w u code).2

/-- After a sequence of such requests nothing has changed. -/
theorem sameData_run (hreach : Reachable conf clock w) {rs : List Request}
    (h : Along (serve conf clock) (fun w r => r.WrongCode w ∧ ChangesNothing conf clock w r) w rs) :
    SameData (Machine.run (serve conf clock) w rs) w := by
  have hboth : Reachable conf clock (Machine.run (serve conf clock) w rs) ∧
      SameData (Machine.run (serve conf clock) w rs) w := by
    refine run_invariant (I := fun w' => Reachable conf clock w' ∧ SameData w' w)
      (fun w' r hr hw' => ⟨?_, ?_⟩) h ⟨hreach, rfl, rfl, rfl⟩
    · rw [serve_eq_step]
      exact hw'.1.step _
    · exact (sameData_serve hw'.1 hr.1 hr.2).trans hw'.2
  exact hboth.2

/-- **Wrong codes.** From a reachable state, a sequence of requests that present wrong codes is
harmless if and only if each of them finds nothing to take back: the second-factor route is
configured, and the email it would make unverified is not verified. -/
theorem wrong_codes_harmless_iff (hreach : Reachable conf clock w) {rs : List Request}
    (hwrong : Along (serve conf clock) (fun w r => r.WrongCode w) w rs) :
    Harmless conf clock w rs ↔ Along (serve conf clock) (fun w r => r.Spared conf w) w rs := by
  have hcongr : Along (serve conf clock)
      (fun w r => r.WrongCode w ∧ ChangesNothing conf clock w r) w rs ↔
      Along (serve conf clock) (fun w r => r.WrongCode w ∧ r.Spared conf w) w rs := by
    refine along_congr (I := Reachable conf clock) (fun w' r hw' _ => ?_) (fun w' r hw' => ?_)
      hreach rs
    · rw [serve_eq_step]
      exact hw'.step _
    · exact and_congr_right fun hr => changesNothing_iff hw' hr
  constructor
  · intro h
    exact (along_and w rs).mp (hcongr.mp ((along_and w rs).mpr ⟨hwrong, h.requests⟩)) |>.2
  · intro h
    have hnothing := hcongr.mpr ((along_and w rs).mpr ⟨hwrong, h⟩)
    have hsame : SameData (Machine.run (serve conf clock) w rs) w := sameData_run hreach hnothing
    refine ⟨((along_and w rs).mp hnothing).2, fun u password env => ?_, fun u uuid server => ?_⟩
    · exact answer_eq_of_alike (respects_authenticate env password _ _ hsame)
    · exact answer_eq_of_alike (respects_recoverPassword uuid server _ _ hsame)

/-- A wrong code on each route, for a user whose email is not verified. -/
theorem wrong_codes_harmless_iff_unverified :
    Harmless Sample.conf Sample.ticking
      (run Sample.conf Sample.ticking (.initial Sample.users)
        [Sample.login, .userAskCheckEmailCode "alice" Sample.emailCode])
      [.checkEmailCode "alice" "000000",
        .resetPassword "alice" "000000" Sample.newPassword none .up,
        .checkSndfaCode "alice" "000000"] := by
  have hreach : Reachable Sample.conf Sample.ticking (run Sample.conf Sample.ticking
      (.initial Sample.users) [Sample.login, .userAskCheckEmailCode "alice" Sample.emailCode]) :=
    (reachable_initial Sample.users).run _
  refine (wrong_codes_harmless_iff hreach ?_).mpr ⟨fun _ => ?_, ?_, ⟨rfl, rfl⟩, trivial⟩
  · refine ⟨⟨nofun, ?_⟩, ⟨nofun, ?_⟩, ⟨nofun, ?_⟩, trivial⟩
    all_goals
      rintro row hrow
      cases hrow
      decide
  all_goals
    rintro ⟨row, hrow, hemail⟩
    cases hrow
    cases hemail

/-- A wrong code for a user whose email is verified: the verification is gone, and the correct
password is refused for it. -/
theorem wrong_code_unverifies :
    let w := run Sample.conf Sample.ticking (.initial Sample.users) Sample.setUp
    let guess : Request := .checkEmailCode "alice" "000000"
    guess.WrongCode w ∧ EmailVerified w "alice" ∧
      ¬ EmailVerified (serve Sample.conf Sample.ticking w guess) "alice" ∧
      answer ((Identity.authenticate Sample.conf Sample.ticking (Sample.env Sample.code) "alice"
        "secret").run (serve Sample.conf Sample.ticking w guess)) =
          .error (.spasswordUnauthorized Identity.notVerifiedMessage) ∧
      ¬ Harmless Sample.conf Sample.ticking w [guess] := by
  refine ⟨⟨nofun, ?_⟩, ⟨_, rfl, rfl⟩, ?_, rfl, fun h => ?_⟩
  · rintro row hrow
    cases hrow
    decide
  · rintro ⟨row, hrow, hemail⟩
    cases hrow
    cases hemail
  · have hrow := congrArg (Option.map SPasswordModel.sndfaEmail)
      (congrFun h.requests.1.table "alice")
    exact absurd hrow (by decide)

end KeystoneSpassword
