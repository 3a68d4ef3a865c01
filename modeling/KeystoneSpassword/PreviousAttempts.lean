import KeystoneSpassword.Lockout
import KeystoneSpassword.Ledger

/-!
# The failures a login reports

The extras of a login carry `previous_login_attempts`, the counter as it was before the login
cleared it. The history has a tally for that: the wrong passwords since the last result. The two
part ways when the counter is cleared and nobody is told, which happens in one place. A login that
the base driver accepts and the second factor refuses reads the counter into the extras, clears it,
and then throws the extras away.

## Main definitions

* `unreported` — the tally
* `RefusedBySndfa` — the refusals that clear the counter
* `Reported` — the counter is the tally

## Main results

* `Reported.step` — every call keeps it, if no such refusal meets a counter above zero
* `previous_attempts_reported` — what a login reports in a run of such calls
-/

namespace KeystoneSpassword

open StateProgram History

variable {conf : Conf} {clock : ℕ → Time} {w w' : World} {u password : String} {env : AuthEnv}
  {log new : List Event} {row : SPasswordModel}

/-! ### The tally -/

/-- The user is told: `authenticate` returned a result. A created or updated event also starts the
count again. -/
def isReport (u : String) : Event → Bool
  | .token v _ | .rowCreated v _ | .rowTouched v _ => decide (v = u)
  | _ => false

/-- The wrong passwords since the user was last told. -/
def unreported (u : String) (log : List Event) : ℕ := countSince (isFailure u) (isReport u) log

theorem Event.Ignored.report {e : Event} (h : e.Ignored u) : isReport u e = false := by
  have hreset := h.reset
  cases e with
  | token v extras =>
    have hv : v ≠ u := by
      rintro rfl
      exact h.token extras rfl
    simp [isReport, hv]
  | rowCreated v t => exact hreset
  | rowTouched v t => exact hreset
  | _ => rfl

theorem unreported_ignored (hnew : ∀ e ∈ new, e.Ignored u) :
    unreported u (new ++ log) = unreported u log := by
  have hcount : new.countP (isFailure u) = 0 :=
    List.countP_eq_zero.mpr fun e he => by simp [(hnew e he).failure]
  rw [unreported, countSince_append_of_not (fun e he => (hnew e he).report), hcount, Nat.zero_add]
  rfl

theorem unreported_of_report {e : Event} (h : isReport u e = true) : unreported u (e :: log) = 0 :=
  countSince_cons_of_reset h log

/-- A rejected password is one more to tell, and an accepted one is none. -/
theorem unreported_verdict (t : Time) (accepted : Bool) :
    unreported u (.baseVerdict u t accepted :: log) =
      unreported u log + if accepted then 0 else 1 := by
  have hreport : ∀ e ∈ [Event.baseVerdict u t accepted], isReport u e = false := by
    simp [isReport]
  rw [unreported, ← List.singleton_append, countSince_append_of_not hreport, Nat.add_comm]
  cases accepted <;> simp [isFailure, unreported]

/-- The counter is the tally. -/
structure Reported (u : String) (w : World) : Prop where
  row : ∀ row, w.spassword u = some row → row.loginAttempts = unreported u w.log
  no_row : w.spassword u = none → w.users u ≠ none → unreported u w.log = 0

theorem isTally_unreported (u : String) :
    IsTally u (fun log row => row.loginAttempts = unreported u log)
      (fun log => unreported u log = 0) where
  cons {log row row' e} h he hattempts _ := by
    have hnew : ∀ e' ∈ [e], e'.Ignored u := by simpa using he
    rw [← List.singleton_append, unreported_ignored hnew, hattempts]
    exact h
  cons_zero {log e} h he := by
    have hnew : ∀ e' ∈ [e], e'.Ignored u := by simpa using he
    rw [← List.singleton_append, unreported_ignored hnew]
    exact h
  touched t created h := by
    rw [unreported_of_report (by simp [isReport])]
    rfl
  created log t user now := by
    rw [unreported_of_report (by simp [isReport])]
    rfl

theorem reported_initial (users : String → Option UserRecord) : Reported u (.initial users) :=
  ⟨fun _ hrow => (by cases hrow), fun _ _ => rfl⟩

/-- What no tally looks at changes nothing. -/
theorem Reported.append (new : List Event) (h : Reported u w)
    (hnew : ∀ e ∈ new, e.Ignored u) (hlog : w'.log = new ++ w.log)
    (hrow : w'.spassword u = w.spassword u) (husers : w'.users u = w.users u) : Reported u w' := by
  constructor
  · intro row hsome
    rw [hlog, unreported_ignored hnew]
    exact h.row row (hrow.symm.trans hsome)
  · intro hnone huser
    rw [hlog, unreported_ignored hnew]
    exact h.no_row (hrow.symm.trans hnone) (husers ▸ huser)

theorem reported_of_row {row' : SPasswordModel} (hrow' : w'.spassword u = some row')
    (h : row'.loginAttempts = unreported u w'.log) : Reported u w' := by
  constructor
  · intro row hsome
    obtain rfl : row' = row := Option.some.inj (hrow'.symm.trans hsome)
    exact h
  · intro hnone
    rw [hrow'] at hnone
    cases hnone

/-! ### What a login does to the tally -/

/-- The second factor refuses an accepted password and clears the counter: the address is not
verified, or a code is to be mailed and `send_email` returns. -/
def RefusedBySndfa (conf : Conf) (clock : ℕ → Time) (env : AuthEnv) (w : World) (u : String)
    (row : SPasswordModel) : Prop :=
  Identity.WantsSndfa conf row ∧ row.sndfaEmail = false ∨
    NeedsMail conf clock w row ∧ MailGoesOut conf env w u

/-- If the base driver accepts the password and the second factor refuses, there is nothing to
tell. -/
def Op.NothingToTell (conf : Conf) (clock : ℕ → Time) (u : String) (w : World) : Op → Prop
  | .authenticate v password env => v = u → ∀ user w' row,
    (Identity.verdict conf clock env v password).run w = .ok (some user) w' →
    w.spassword v = some row → RefusedBySndfa conf clock env w' v row → row.loginAttempts = 0
  | _ => True

/-- A login that meets the counter at zero forgets nothing. -/
theorem Op.nothingToTell_of_zero (h : ∀ row ∈ w.spassword u, row.loginAttempts = 0) :
    Op.NothingToTell conf clock u w (.authenticate u password env) :=
  fun _ _ _ row _ hrow _ => h row hrow

/-! The events of a login, its verdict and its result aside. -/

theorem Event.ignored_blocked (t : Time) : (Event.blocked u t).Ignored u :=
  ⟨Event.untallied_blocked t, by simp⟩

theorem Event.ignored_expired (t : Time) : (Event.expired u t).Ignored u :=
  ⟨Event.untallied_expired t, by simp⟩

theorem Event.ignored_mailed (mail : Mail) (handed : Bool) :
    (Event.mailed u mail handed).Ignored u := ⟨Event.untallied_mailed mail handed, by simp⟩

theorem Event.ignored_rowRegistered (t : Time) : (Event.rowRegistered u t).Ignored u :=
  ⟨Event.untallied_rowRegistered t, by simp⟩

/-- Getting a code ready leaves the counter and the tally alone. -/
theorem Identity.CodeReady.reported {uuid : ShortCode} {code : String}
    (h : CodeReady conf clock uuid u row w code w') (hrow : w.spassword u = some row) :
    (∃ row', w'.spassword u = some row' ∧ row'.loginAttempts = row.loginAttempts) ∧
      ∃ new, w'.log = new ++ w.log ∧ ∀ e ∈ new, e.Ignored u := by
  cases h with
  | reused hfresh => exact ⟨⟨row, hrow, rfl⟩, [], rfl, by simp⟩
  | issued n hstale =>
    refine ⟨⟨_, Function.update_self .., rfl⟩, [_], rfl, fun e he => ?_⟩
    rw [List.mem_singleton.mp he]
    exact ⟨⟨rfl, rfl, rfl⟩, by simp⟩

/-- The state after a verdict: one more failure to tell, or none. -/
theorem reported_of_verdict (new : List Event) {row' : SPasswordModel} {t : Time}
    {accepted : Bool} (hlog : w'.log = new ++ .baseVerdict u t accepted :: w.log)
    (hnew : ∀ e ∈ new, e.Ignored u) (hrow' : w'.spassword u = some row')
    (h : row'.loginAttempts = unreported u w.log + if accepted then 0 else 1) :
    Reported u w' := by
  refine reported_of_row hrow' ?_
  rw [h, hlog, unreported_ignored hnew, unreported_verdict]
  cases accepted <;> rfl

/-- The state after a result: the user has been told. -/
theorem reported_of_token {row' : SPasswordModel} {extras : Extras}
    (hlog : w'.log = .token u extras :: log) (hrow' : w'.spassword u = some row')
    (hzero : row'.loginAttempts = 0) : Reported u w' := by
  refine reported_of_row hrow' ?_
  rw [hlog, unreported_of_report (by simp [isReport]), hzero]
  rfl

/-- A login of the user keeps the counter equal to the tally, unless its refusal forgets some
failures. -/
theorem Reported.authenticate (henabled : conf.enabled = true) (hreach : Reachable conf clock w)
    (h : Reported u w) (hkept : Op.NothingToTell conf clock u w (.authenticate u password env)) :
    Reported u (final (Identity.authenticate conf clock env u password) w) := by
  have htracks := tracks_of_reachable hreach
  rcases Identity.authenticate_cases henabled env w u password with
    ⟨e, w₁, herror, houtcome⟩ | ⟨res, k, hfree, hanswer, houtcome⟩
  · rw [final_of_run_error herror]
    cases houtcome with
    | blocked row hrow hlocked =>
      exact h.append [_] (by simpa using Event.ignored_blocked _) rfl rfl rfl
    | expired row n hfree =>
      exact h.append [_] (by simpa using Event.ignored_expired _) rfl rfl rfl
    | raised e n hfree => exact h.append [] (by simp) rfl rfl rfl
  · rw [final]
    generalize (Identity.authenticate conf clock env u password).run w = result at houtcome
    cases houtcome with
    | lost _ e n hlost =>
      have huser : w.users u = none := htracks.users_of_lost hlost
      exact ⟨fun row hrow => absurd huser (htracks.user u row hrow),
        fun _ hsome => absurd huser hsome⟩
    | firstRejected userRecord hrow huser =>
      have hzero : unreported u w.log = 0 :=
        h.no_row hrow (by rw [show w.users u = _ from huser]; simp)
      exact reported_of_verdict (w := w) [.rowRegistered u _] rfl
        (by simpa using Event.ignored_rowRegistered _) (Function.update_self ..)
        (by rw [hzero]; rfl)
    | firstAccepted user userRecord hrow huser =>
      exact reported_of_token rfl (Function.update_self ..) rfl
    | rejected row hrow htime =>
      exact reported_of_verdict (w := w) [] rfl (by simp) (Function.update_self ..)
        (congrArg (· + 1) (h.row row hrow))
    | passed user row created hrow hwants htime =>
      exact reported_of_token rfl (Identity.spassword_clearAttempts hrow _) rfl
    | signed user row created hrow hwants hemail hsigned htime =>
      exact reported_of_token rfl (Identity.spassword_clearAttempts hrow _) rfl
    | unverified user row hrow hwants hemail =>
      have hzero := hkept rfl user _ row hanswer hrow (.inl ⟨hwants, hemail⟩)
      exact reported_of_verdict (w := w) [] rfl (by simp)
        (Identity.spassword_clearAttempts hrow _) (by rw [← h.row row hrow, hzero]; rfl)
    | noAddress user row e n c w₁ hrow hwants hemail hunsigned hcode haddress =>
      obtain ⟨⟨row', hrow', hattempts⟩, new, hlog, hnew⟩ := hcode.reported hrow
      exact reported_of_verdict (w := w) new hlog hnew hrow'
        (by rw [hattempts, h.row row hrow]; simp)
    | mailRaised user row e n c w₁ userRecord address hrow hwants hemail hunsigned hcode huser
        haddress hmail =>
      obtain ⟨⟨row', hrow', hattempts⟩, new, hlog, hnew⟩ := hcode.reported hrow
      exact reported_of_verdict (w := w) (_ :: new) (congrArg (List.cons _) hlog)
        (List.forall_mem_cons.mpr ⟨Event.ignored_mailed _ _, hnew⟩) hrow'
        (by rw [hattempts, h.row row hrow]; simp)
    | challenged user row sent n c w₁ userRecord address hrow hwants hemail hunsigned hcode huser
        haddress hmail =>
      obtain ⟨⟨row', hrow', -⟩, new, hlog, hnew⟩ := hcode.reported hrow
      have haddress' : (w.users u).bind UserRecord.email = some address := by
        rw [show w.users u = _ from huser, Option.bind_some, haddress]
      have hzero := hkept rfl user _ row hanswer hrow
        (.inr ⟨⟨hwants, hemail, hunsigned⟩, address, haddress', sent, hmail⟩)
      exact reported_of_verdict (w := w) (_ :: new) (congrArg (List.cons _) hlog)
        (List.forall_mem_cons.mpr ⟨Event.ignored_mailed _ _, hnew⟩)
        (Identity.spassword_clearAttempts hrow' _) (by rw [← h.row row hrow, hzero]; rfl)

/-- **Every call keeps the counter equal to the tally**, unless it forgets some failures. -/
theorem Reported.step (henabled : conf.enabled = true) (hreach : Reachable conf clock w)
    (h : Reported u w) {op : Op} (hop : op.NothingToTell conf clock u w) :
    Reported u (KeystoneSpassword.step conf clock w op) := by
  by_cases hlogin : ∃ password env, op = .authenticate u password env
  · obtain ⟨password, env, rfl⟩ := hlogin
    rw [step_authenticate]
    exact h.authenticate henabled hreach hop
  · have hstep := (isTally_unreported u).step_of_not_login clock henabled
      (fun password env heq => hlogin ⟨password, env, heq⟩) h.row h.no_row
    exact ⟨hstep.1, hstep.2⟩

/-! ### What a login reports -/

/-- A login reports the counter. -/
theorem previousLoginAttempts_of_result (henabled : conf.enabled = true) {res : AuthResult}
    (hres : (Identity.authenticate conf clock env u password).run w = .ok res w') :
    ∃ extras, res.extras = some extras ∧ extras.previousLoginAttempts = attempts u w ∧
      (w.spassword u = none → w.users u ≠ none) := by
  rcases Identity.authenticate_cases henabled env w u password with
    ⟨e, w₁, herror, -⟩ | ⟨answer, k, -, -, houtcome⟩
  · rw [hres] at herror
    cases herror
  · rw [hres] at houtcome
    cases houtcome with
    | firstAccepted user userRecord hrow huser =>
      refine ⟨_, rfl, ?_, fun _ => by rw [show w.users u = _ from huser]; simp⟩
      rw [attempts, show w.spassword u = none from hrow]
      rfl
    | passed user row created hrow hwants htime
    | signed user row created hrow hwants hemail hsigned htime =>
      have hrow' : w.spassword u = some row := hrow
      refine ⟨_, rfl, ?_, fun hnone => absurd (hrow'.symm.trans hnone) (by simp)⟩
      rw [attempts, hrow']
      rfl

/-- **What a login reports.** In a run in which the second factor refuses no accepted password while
the counter is above zero, every login that returns a result reports the number of wrong passwords
since the last result, or since the last created or updated event. -/
theorem previous_attempts_reported (henabled : conf.enabled = true)
    (users : String → Option UserRecord) (u : String) {ops : List Op}
    (hkept : Machine.Along (step conf clock) (Op.NothingToTell conf clock u) (.initial users) ops)
    (password : String) (env : AuthEnv) {res : AuthResult} {w' : World}
    (hres : (Identity.authenticate conf clock env u password).run
      (run conf clock (.initial users) ops) = .ok res w') :
    ∃ extras, res.extras = some extras ∧ extras.previousLoginAttempts =
      unreported u (run conf clock (.initial users) ops).log := by
  obtain ⟨hreach, hreported⟩ : Reachable conf clock (run conf clock (.initial users) ops) ∧
      Reported u (run conf clock (.initial users) ops) := by
    refine Machine.run_invariant (I := fun w => Reachable conf clock w ∧ Reported u w)
      (fun w op hop hw => ⟨hw.1.step op, hw.2.step henabled hw.1 hop⟩) hkept
      ⟨reachable_initial users, reported_initial users⟩
  obtain ⟨extras, hextras, hattempts, huser⟩ := previousLoginAttempts_of_result henabled hres
  refine ⟨extras, hextras, hattempts.trans ?_⟩
  cases hrow : (run conf clock (.initial users) ops).spassword u with
  | none =>
    rw [attempts, hrow, hreported.no_row hrow (huser hrow)]
    rfl
  | some row =>
    rw [attempts, hrow]
    exact hreported.row row hrow

/-- A login that waits for its second factor, the code that was mailed, and two wrong passwords.
The next login reports two. -/
theorem previous_attempts_reported_two :
    let ops := Sample.setUp ++ [Sample.login, .userCheckSndfaCode "alice" Sample.code.code,
      Sample.guess, Sample.guess]
    let w := run Sample.conf Sample.ticking (.initial Sample.users) ops
    ∃ res w', (Identity.authenticate Sample.conf Sample.ticking (Sample.env Sample.code) "alice"
        "secret").run w = .ok res w' ∧ unreported "alice" w.log = 2 ∧
      ∃ extras, res.extras = some extras ∧
        extras.previousLoginAttempts = unreported "alice" w.log := by
  intro ops w
  have hkept : Machine.Along (step Sample.conf Sample.ticking)
      (Op.NothingToTell Sample.conf Sample.ticking "alice") (.initial Sample.users) ops := by
    refine ⟨Op.nothingToTell_of_zero (by decide), trivial, trivial, trivial,
      Op.nothingToTell_of_zero (by decide), trivial, Op.nothingToTell_of_zero (by decide), ?_,
      trivial⟩
    intro _ user w' row hanswer
    cases hanswer
  exact ⟨_, _, rfl, by decide, previous_attempts_reported rfl Sample.users "alice" hkept "secret"
    (Sample.env Sample.code) rfl⟩

/-- A wrong password, a login that waits for its second factor, and the code that was mailed. The
next login reports no failure, and none has been reported before. -/
theorem challenged_failure_unreported :
    let ops := Sample.setUp ++ [Sample.guess, Sample.login,
      .userCheckSndfaCode "alice" Sample.code.code]
    let w := run Sample.conf Sample.ticking (.initial Sample.users) ops
    ∃ res w', (Identity.authenticate Sample.conf Sample.ticking (Sample.env Sample.code) "alice"
        "secret").run w = .ok res w' ∧ unreported "alice" w.log = 1 ∧
      ∃ extras, res.extras = some extras ∧ extras.previousLoginAttempts = 0 :=
  ⟨_, _, rfl, by decide, _, rfl, by decide⟩

end KeystoneSpassword
