import KeystoneSpassword.Invariants

/-!
# The expiry blacklist

A user is exempt from the expiry of passwords in two ways: the configured list, and a flag in the
column `extra` of the row. The flag is stored as a text, and `get_black` and `_check_password` pass
that text to `eval`.

## What is evaluated

Python's `eval` runs whatever it is given, so it is a parameter here. `getBlackWith` and
`checkPasswordWith` are the two methods with an open `eval`, which may do anything to the state.
All that is asked of it is that it knows the two boolean literals.

## Main definitions

* `blackFlag` — the register of the flag
* `getBlackWith`, `checkPasswordWith`
* `FlagSound`, `OneMembership`

## Main results

* `extra_of_reachable` — the column is the flag that was stored last
* `flag_sound` — only literals are evaluated, and `get_black` returns the flag that was stored last
* `one_membership_iff` — when the three notions of membership agree
-/

namespace KeystoneSpassword

open StateProgram Relation History

variable {conf : Conf} {clock : ℕ → Time} {policy : Policy} {u v : String} {w w' : World}

/-! ### The flag and the column -/

/-- The flag of the user, as last stored in the life of the row. -/
def blackFlag (u : String) : Event → Option (Option Bool)
  | .blackModified v enable => if v = u then some (some enable) else none
  | .rowCreated v _ | .rowRegistered v _ | .userDeleted v => if v = u then some none else none
  | _ => none

/-- The column that holds a flag. -/
def blackExtra : Option Bool → List (String × String)
  | none => []
  | some enable => [("black", pyStr enable)]

@[simp] theorem lookup_blackExtra (flag : Option Bool) :
    (blackExtra flag).lookup "black" = flag.map pyStr := by
  cases flag <;> rfl

theorem Event.blackFlag_of_ne {e : Event} (h : e.userId ≠ u) : blackFlag u e = none := by
  cases e <;> first | rfl | exact if_neg h

theorem Event.Inert.blackFlag {e : Event} (h : e.Inert) : blackFlag u e = none := by
  cases e <;> first | rfl | exact h.elim

/-- The column of the user is the one that holds the flag. Without a row there is no flag. -/
def BlackFollows (u : String) (w : World) : Prop :=
  (w.spassword u).elim [] SPasswordModel.extra = blackExtra (register (blackFlag u) w.log)

theorem Move.black_own (h : Move clock policy u w w') (hw : BlackFollows u w) :
    BlackFollows u w' := by
  rw [BlackFollows] at hw ⊢
  cases h with
  | tick | recordStored _ _ | passwordStored _ _ _ | userDropped _ _ => exact hw
  | noted e _ hinert _ _ =>
    rw [World.note_spassword, World.note_log, register_cons_of_none hinert.blackFlag]
    exact hw
  | userRemoved _ _ => simp [register, blackFlag, blackExtra]
  | rowCreated _ _ _ _ _ _ _ => simp [register, blackFlag, blackExtra, SPassword.newRow]
  | rowRegistered _ _ _ _ _ _ _ _ => simp [register, blackFlag, blackExtra, Identity.firstRow]
  | blackModified _ _ _ _ => simp [register, blackFlag, blackExtra]
  | passwordReset _ _ _ _ _ _ => simpa [register, blackFlag] using hw
  | rowTouched _ _ hrow _ _ | attemptStored _ _ _ hrow _ _ | sndfaIssued _ _ _ _ _ hrow _ _ _ _ _
  | sndfaAccepted _ _ _ hrow _ _ _ _ _ | sndfaModified _ _ hrow _ _
  | emailCodeIssued _ _ _ hrow _ _ | recovered _ _ hrow _ _ _
  | emailCodeChecked _ _ hrow _ _ _ =>
    rw [hrow] at hw
    simpa [register, blackFlag, SPasswordResource.recoveredState, SPasswordResource.withEmailCode,
      Identity.withCode] using hw

/-- **The column is the flag that was stored last**, whatever else has written the row. -/
theorem blackFollows_of_reachable (h : Reachable conf clock w) (u : String) : BlackFollows u w := by
  refine Reachable.of_moves (I := fun w => ∀ u, BlackFollows u w) (fun _ _ => rfl)
    (fun u w w' hmove hw v => ?_) h u
  by_cases hv : v = u
  · subst hv
    exact hmove.black_own (hw v)
  · obtain ⟨new, hlog, hnew, -⟩ := hmove.log_eq
    have hflag : register (blackFlag v) w'.log = register (blackFlag v) w.log := by
      rw [hlog]
      refine register_append_of_none (fun e he => Event.blackFlag_of_ne fun heq => ?_) w.log
      exact hv (heq.symm.trans (hnew e he).1)
    rw [BlackFollows, (hmove.other hv).2, hflag]
    exact hw v

theorem extra_of_reachable (h : Reachable conf clock w) {row : SPasswordModel}
    (hrow : w.spassword u = some row) : row.extra = blackExtra (register (blackFlag u) w.log) := by
  have hfollows : BlackFollows u w := blackFollows_of_reachable h u
  rwa [BlackFollows, hrow] at hfollows

/-- The flag of the user, off if it was never stored. -/
def blackSet (u : String) (w : World) : Bool := (register (blackFlag u) w.log).getD false

/-- The flag that was stored last is the one that `get_black` returns. -/
theorem run_getBlack_of_reachable (h : Reachable conf clock w) (u : String) :
    (SPassword.getBlack u).run w = .ok (blackSet u w) w := by
  have hfollows : BlackFollows u w := blackFollows_of_reachable h u
  cases hrow : w.spassword u with
  | none =>
    have hflag : register (blackFlag u) w.log = none := by
      rw [BlackFollows, hrow] at hfollows
      cases hregister : register (blackFlag u) w.log with
      | none => rfl
      | some enable =>
        rw [hregister] at hfollows
        cases hfollows
    simp [SPassword.getBlack, hrow, blackSet, hflag]
  | some row =>
    have hextra := extra_of_reachable h hrow
    cases hflag : register (blackFlag u) w.log with
    | none => simp [SPassword.getBlack, hrow, hextra, hflag, blackSet]
    | some enable => simp [SPassword.getBlack, hrow, hextra, hflag, blackSet]

/-- The flag is on when the column says `True`. -/
theorem blackSet_iff (h : Reachable conf clock w) {row : SPasswordModel}
    (hrow : w.spassword u = some row) :
    blackSet u w = true ↔ row.extra.lookup "black" = some "True" := by
  rw [extra_of_reachable h hrow, lookup_blackExtra, blackSet]
  cases register (blackFlag u) w.log with
  | none => simp
  | some enable => cases enable <;> simp [pyStr]

/-- The expiry is checked unless the list or the flag exempts the user. -/
theorem checksExpiry_of_reachable (h : Reachable conf clock w) {row : SPasswordModel}
    (hrow : w.spassword u = some row) :
    Identity.checksExpiry conf u row =
      .ok (!(decide (u ∈ conf.pwdUserBlacklist) || blackSet u w)) := by
  have hextra := extra_of_reachable h hrow
  by_cases hlisted : u ∈ conf.pwdUserBlacklist
  · simp [Identity.checksExpiry, hlisted]
  · cases hflag : register (blackFlag u) w.log with
    | none => simp [Identity.checksExpiry, hlisted, hextra, hflag, blackSet]
    | some enable => simp [Identity.checksExpiry, hlisted, hextra, hflag, blackSet, Except.map]

/-! ### The evaluated text -/

/-- `eval` knows the two boolean literals. What it does with any other text is open. -/
def EvaluatesLiterals (eval : String → Py Bool) : Prop :=
  eval "True" = pure true ∧ eval "False" = pure false

/-- `get_black`, with `eval` open. -/
def getBlackWith (eval : String → Py Bool) (userId : String) : Py Bool := do
  match ← getSpasswordSession userId with
  | some spassword =>
    if "extra" ∈ spassword.keys then
      match spassword.extra.lookup "black" with
      | some black => eval black
      | none => return false
    else return false
  | none => return false

/-- The test in front of the age of a password, with `eval` open. -/
def checksExpiryWith (conf : Conf) (eval : String → Py Bool) (userId : String)
    (spassword : SPasswordModel) : Py Bool :=
  if userId ∈ conf.pwdUserBlacklist then pure false
  else
    match (if "extra" ∈ spassword.keys then spassword.extra else []).lookup "black" with
    | some black => do return !(← eval black)
    | none => pure true

/-- `_check_password` up to the call of the base method, with `eval` open. -/
def checkPasswordWith (conf : Conf) (clock : ℕ → Time) (eval : String → Py Bool)
    (userId : String) : Py Unit := do
  if conf.enabled then
    match ← getSpasswordSession userId with
    | some spassword =>
      if ← checksExpiryWith conf eval userId spassword then
        let now ← utcnow clock
        let creationTime ← ofExcept (normalizeDbDate spassword.creationTime)
        if creationTime < now.sub (days conf.pwdExpDays) then
          record (.expired userId now.wall)
          throw (.spasswordUnauthorized (Identity.expiredMessage spassword.userName))
    | none => pure ()

/-! The methods of the model are the ones with its own `eval`. -/

theorem getBlackWith_pyEval (u : String) :
    getBlackWith (fun text => ofExcept (pyEval text)) u = SPassword.getBlack u := rfl

theorem checksExpiryWith_pyEval (u : String) (row : SPasswordModel) :
    checksExpiryWith conf (fun text => ofExcept (pyEval text)) u row =
      ofExcept (Identity.checksExpiry conf u row) := by
  rw [checksExpiryWith, Identity.checksExpiry]
  by_cases hlisted : u ∈ conf.pwdUserBlacklist
  · rw [if_pos hlisted, if_pos hlisted]
    rfl
  · rw [if_neg hlisted, if_neg hlisted]
    cases (if "extra" ∈ row.keys then row.extra else []).lookup "black" with
    | none => rfl
    | some black =>
      dsimp only
      cases pyEval black <;> rfl

theorem checkPasswordWith_pyEval (u : String) :
    checkPasswordWith conf clock (fun text => ofExcept (pyEval text)) u =
      Identity.checkPassword conf clock u := by
  have hchecks : checksExpiryWith conf (fun text => ofExcept (pyEval text)) u =
      fun row => ofExcept (Identity.checksExpiry conf u row) := funext (checksExpiryWith_pyEval u)
  rw [checkPasswordWith, hchecks]
  rfl

/-! They depend on the literals alone. -/

theorem EvaluatesLiterals.pyStr {eval : String → Py Bool} (h : EvaluatesLiterals eval) (b : Bool) :
    eval (pyStr b) = pure b := by
  cases b with
  | true => exact h.1
  | false => exact h.2

/-- On the column of a flag the test does not depend on what else `eval` can do. -/
theorem checksExpiryWith_eq {eval : String → Py Bool} (heval : EvaluatesLiterals eval)
    {row : SPasswordModel} {flag : Option Bool} (hextra : row.extra = blackExtra flag)
    (u : String) :
    checksExpiryWith conf eval u row = ofExcept (Identity.checksExpiry conf u row) := by
  by_cases hlisted : u ∈ conf.pwdUserBlacklist
  · rw [checksExpiryWith, Identity.checksExpiry, if_pos hlisted, if_pos hlisted]
    rfl
  · cases flag with
    | none =>
      simp [checksExpiryWith, Identity.checksExpiry, hlisted, hextra]
      rfl
    | some enable =>
      simp [checksExpiryWith, Identity.checksExpiry, hlisted, hextra, heval.pyStr, Except.map]
      rfl

theorem getBlackWith_eq {eval : String → Py Bool} (heval : EvaluatesLiterals eval)
    (h : ∀ row, w.spassword u = some row → ∃ flag, row.extra = blackExtra flag) :
    (getBlackWith eval u).run w = (SPassword.getBlack u).run w := by
  cases hrow : w.spassword u with
  | none => simp [getBlackWith, SPassword.getBlack, hrow]
  | some row =>
    obtain ⟨flag, hextra⟩ := h row hrow
    cases flag with
    | none => simp [getBlackWith, SPassword.getBlack, hrow, hextra, blackExtra]
    | some enable => simp [getBlackWith, SPassword.getBlack, hrow, hextra, heval.pyStr]

theorem checkPasswordWith_eq {eval : String → Py Bool} (heval : EvaluatesLiterals eval)
    (h : ∀ row, w.spassword u = some row → ∃ flag, row.extra = blackExtra flag) :
    (checkPasswordWith conf clock eval u).run w = (Identity.checkPassword conf clock u).run w := by
  cases henabled : conf.enabled with
  | false => simp [checkPasswordWith, Identity.checkPassword, henabled]
  | true =>
    cases hrow : w.spassword u with
    | none => simp [checkPasswordWith, Identity.checkPassword, henabled, hrow]
    | some row =>
      obtain ⟨flag, hextra⟩ := h row hrow
      simp [checkPasswordWith, Identity.checkPassword, henabled, hrow,
        checksExpiryWith_eq heval hextra]

/-! ### New rows -/

/-- The keys of the dict of which a created or updated event makes a row. -/
def eventKeys : List String :=
  ["user_id", "user_name", "domain_id", "creation_time", "sndfa", "sndfa_last", "sndfa_code",
    "sndfa_time_code", "sndfa_email", "sndfa_email_code"]

/-- The keys of the dict of which a login makes a row. -/
def loginKeys : List String := eventKeys ++ ["last_login_attempt_time", "login_attempts"]

/-- The keys that `from_dict` moves into `extra`. -/
def extraKeys (keys : List String) : List String :=
  keys.filter fun key => key ∉ SPasswordModel.attributes

/-! ### Changes of the flag -/

/-- The state once the flag is stored. -/
def blackState (w : World) (u : String) (row : SPasswordModel) (enable : Bool) : World :=
  (w.setRow u (some { row with extra := [("black", pyStr enable)] })).note
    (.blackModified u enable)

theorem run_modifyBlack_of_row {row : SPasswordModel} (hrow : w.spassword u = some row)
    (enable : Bool) :
    (SPassword.modifyBlack u enable).run w = .ok true (blackState w u row enable) := by
  simp [SPassword.modifyBlack, hrow, blackState]

theorem run_modifyBlack_of_no_row (hrow : w.spassword u = none) (enable : Bool) :
    (SPassword.modifyBlack u enable).run w = .ok false w := by
  simp [SPassword.modifyBlack, hrow]

/-- After a change that is accepted, the flag is the one of the change. -/
theorem blackFlag_of_accepted {enable : Bool}
    (h : (SPassword.modifyBlack u enable).run w = .ok true w') :
    register (blackFlag u) w'.log = some enable := by
  cases hrow : w.spassword u with
  | none =>
    rw [run_modifyBlack_of_no_row hrow] at h
    cases h
  | some row =>
    rw [run_modifyBlack_of_row hrow] at h
    cases h
    exact register_cons_of_write (by simp [blackFlag]) _

/-- The response to a request whose body is a boolean. -/
def modifiedResponse (res : Bool) : HttpResponse :=
  ⟨.modified res, 200, some "application/json"⟩

/-- How a request to change the flag ends. A body without `enable` counts as `False`. -/
inductive BlackOutcome (w : World) (u : String) (enable : Option Json) :
    EStateM.Result PyExc World HttpResponse → Prop
  | refused (e : PyExc) : BlackOutcome w u enable (.error e w)
  | noRow (b : Bool) (henable : enable.getD (.bool false) = .bool b)
      (hrow : w.spassword u = none) : BlackOutcome w u enable (.ok (modifiedResponse false) w)
  | stored (b : Bool) (henable : enable.getD (.bool false) = .bool b) (row : SPasswordModel)
      (hrow : w.spassword u = some row) :
      BlackOutcome w u enable (.ok (modifiedResponse true) (blackState w u row b))

theorem modifyBlack_outcome (conf : Conf) (w : World) (u : String) (allowed : Bool)
    (enable : Option Json) :
    BlackOutcome w u enable
      ((SPasswordResource.modifyBlack conf allowed enable u).run w) := by
  have hrefused (e : PyExc) : BlackOutcome w u enable (.error e w) := .refused e
  refine reads_checkSpasswordConfigured.bind_run hrefused fun _ => ?_
  refine (reads_enforceCall allowed).bind_run hrefused fun _ => ?_
  refine (reads_getUser u).bind_run hrefused fun _ => ?_
  cases henable : enable.getD (.bool false) with
  | bool b =>
    cases hrow : w.spassword u with
    | none =>
      simp only [SPasswordManager.userModifyBlack, EStateM.run_bind,
        run_modifyBlack_of_no_row hrow, EStateM.run_pure]
      exact .noRow b henable hrow
    | some row =>
      simp only [SPasswordManager.userModifyBlack, EStateM.run_bind, run_modifyBlack_of_row hrow,
        EStateM.run_pure]
      exact .stored b henable row hrow
  | _ => exact hrefused _

/-! ### The flag as a whole -/

/-- The text under `black`, the two methods that evaluate it, and the requests that write it. -/
structure FlagSound (conf : Conf) (clock : ℕ → Time) (w : World) (u : String) : Prop where
  /-- a new row has under `extra` what `from_dict` moves there, which is nothing -/
  created : (∀ user t, (SPassword.newRow user t).extra.map Prod.fst = extraKeys eventKeys ∧
      extraKeys eventKeys = []) ∧
    ∀ user t res, (Identity.firstRow user t res).extra.map Prod.fst = extraKeys loginKeys ∧
      extraKeys loginKeys = []
  literal : ∀ row text, w.spassword u = some row → row.extra.lookup "black" = some text →
    text = "True" ∨ text = "False"
  /-- neither method depends on what else `eval` can do -/
  getBlack : ∀ eval, EvaluatesLiterals eval →
    (getBlackWith eval u).run w = (SPassword.getBlack u).run w
  checkPassword : ∀ eval n, EvaluatesLiterals eval →
    (checkPasswordWith conf clock eval u).run (w.ticked n) =
      (Identity.checkPassword conf clock u).run (w.ticked n)
  /-- `get_black` returns the flag of the latest accepted change in the life of the row -/
  latest : (SPassword.getBlack u).run w = .ok ((register (blackFlag u) w.log).getD false) w
  accepted : ∀ enable w', (SPassword.modifyBlack u enable).run w = .ok true w' →
    register (blackFlag u) w'.log = some enable
  requested : ∀ allowed enable, BlackOutcome w u enable
    ((SPasswordResource.modifyBlack conf allowed enable u).run w)
  /-- a body that is not a boolean is rejected -/
  rejected : ∀ allowed enable, (∀ b, enable ≠ .bool b) →
    ∃ e, (SPasswordResource.modifyBlack conf allowed (some enable) u).run w = .error e w

/-- **The flag is sound.** Nothing but a boolean literal is evaluated in any reachable state, and
`get_black` returns the flag that was stored last. -/
theorem flag_sound (hreach : Reachable conf clock w) (u : String) : FlagSound conf clock w u := by
  have hextra (row : SPasswordModel) (hrow : w.spassword u = some row) :
      ∃ flag, row.extra = blackExtra flag := ⟨_, extra_of_reachable hreach hrow⟩
  have hevent : extraKeys eventKeys = [] := by decide
  have hlogin : extraKeys loginKeys = [] := by decide
  constructor
  · rw [hevent, hlogin]
    exact ⟨fun _ _ => ⟨rfl, rfl⟩, fun _ _ _ => ⟨rfl, rfl⟩⟩
  · intro row text hrow htext
    obtain ⟨flag, hflag⟩ := hextra row hrow
    rw [hflag, lookup_blackExtra] at htext
    obtain ⟨enable, -, rfl⟩ := Option.map_eq_some_iff.mp htext
    cases enable with
    | true => exact .inl rfl
    | false => exact .inr rfl
  · exact fun eval heval => getBlackWith_eq heval hextra
  · exact fun eval n heval => checkPasswordWith_eq (w := w.ticked n) heval hextra
  · exact run_getBlack_of_reachable hreach u
  · exact fun enable w' h => blackFlag_of_accepted h
  · exact modifyBlack_outcome conf w u
  · intro allowed enable hbody
    have houtcome : BlackOutcome w u (some enable)
        ((SPasswordResource.modifyBlack conf allowed (some enable) u).run w) :=
      modifyBlack_outcome conf w u allowed (some enable)
    generalize (SPasswordResource.modifyBlack conf allowed (some enable) u).run w = r at houtcome
    cases houtcome with
    | refused e => exact ⟨e, rfl⟩
    | noRow b henable _ | stored b henable _ _ => exact absurd henable (hbody b)

/-- The flag is switched on, an address is asked for and verified, and the flag is still on. -/
theorem flag_sound_switched :
    FlagSound Sample.conf Sample.ticking (run Sample.conf Sample.ticking (.initial Sample.users)
      (Sample.login :: .request (.modifyBlack "alice" (some (.bool true)) true) :: Sample.setUp))
      "alice" :=
  flag_sound ⟨Sample.users, _, rfl⟩ "alice"

/-! ### One notion of membership -/

/-- `_check_password` lets the password of the user through, whatever the time is. -/
def ExemptFromExpiry (conf : Conf) (w : World) (u : String) : Prop :=
  ∀ clock : ℕ → Time, ∃ w', (Identity.checkPassword conf clock u).run w = .ok () w'

/-- The list or the flag exempts a user, and nothing else. -/
theorem exempt_iff (hreach : Reachable conf clock w) {row : SPasswordModel}
    (hrow : w.spassword u = some row) :
    ExemptFromExpiry conf w u ↔ u ∈ conf.pwdUserBlacklist ∨ blackSet u w = true := by
  have hchecks : Identity.checksExpiry conf u row =
      .ok (!(decide (u ∈ conf.pwdUserBlacklist) || blackSet u w)) :=
    checksExpiry_of_reachable hreach hrow
  have hiff : u ∈ conf.pwdUserBlacklist ∨ blackSet u w = true ↔
      (decide (u ∈ conf.pwdUserBlacklist) || blackSet u w) = true := by simp
  rw [hiff]
  cases hexempt : decide (u ∈ conf.pwdUserBlacklist) || blackSet u w with
  | true =>
    rw [hexempt] at hchecks
    exact iff_of_true (fun _ => ⟨w, Identity.run_checkPassword_of_exempt hrow hchecks⟩) rfl
  | false =>
    rw [hexempt] at hchecks
    refine iff_of_false (fun hexempt => ?_) Bool.false_ne_true
    have henabled : conf.enabled = true :=
      ((onOrEmpty_of_reachable hreach).row u).resolve_right (by simp [hrow])
    obtain ⟨t, htime⟩ := ((tracks_of_reachable hreach).follows u row hrow).creationTime
    -- a time at which the password is too old
    obtain ⟨w', hrun⟩ := hexempt fun _ => t + days conf.pwdExpDays + 1
    rw [Identity.run_checkPassword_of_expired henabled hrow hchecks htime
      (show t < t + days conf.pwdExpDays + 1 - days conf.pwdExpDays by linarith)] at hrun
    cases hrun

/-- What a login result says of the list. -/
theorem pwdUserInBlacklist_of_result (henabled : conf.enabled = true) {env : AuthEnv}
    {password : String} {user : User} {extras : Extras}
    (h : (Identity.authenticate conf clock env u password).run w = .ok ⟨user, some extras⟩ w') :
    extras.pwdUserInBlacklist = decide (u ∈ conf.pwdUserBlacklist) := by
  rcases Identity.authenticate_cases henabled env w u password with
    ⟨e, w₁, herror, -⟩ | ⟨res, n, -, -, houtcome⟩
  · rw [herror] at h
    cases h
  · rw [h] at houtcome
    cases houtcome <;> rfl

/-- The three notions say `member`. -/
structure OneMembership (conf : Conf) (clock : ℕ → Time) (w : World) (u : String)
    (member : Bool) : Prop where
  /-- what a login on this row puts into the extras -/
  extras : ∀ row created, w.spassword u = some row →
    (Identity.registeredExtras conf u row created).pwdUserInBlacklist = member
  result : ∀ env password user extras w',
    (Identity.authenticate conf clock env u password).run w = .ok ⟨user, some extras⟩ w' →
      extras.pwdUserInBlacklist = member
  getBlack : (SPassword.getBlack u).run w = .ok member w
  exempt : ExemptFromExpiry conf w u ↔ member = true

/-- **When the three notions of membership agree**: when the list and the row's flag do. -/
theorem one_membership_iff (hreach : Reachable conf clock w) {row : SPasswordModel}
    (hrow : w.spassword u = some row) :
    (∃ member, OneMembership conf clock w u member) ↔
      (u ∈ conf.pwdUserBlacklist ↔ row.extra.lookup "black" = some "True") := by
  rw [← blackSet_iff hreach hrow]
  have henabled : conf.enabled = true :=
    ((onOrEmpty_of_reachable hreach).row u).resolve_right (by simp [hrow])
  have hblack : (SPassword.getBlack u).run w = .ok (blackSet u w) w :=
    run_getBlack_of_reachable hreach u
  constructor
  · rintro ⟨member, hmember⟩
    have hlist : decide (u ∈ conf.pwdUserBlacklist) = member := hmember.extras row (.utc 0) hrow
    have hflag : blackSet u w = member := by
      have hget := hmember.getBlack
      rw [hblack] at hget
      cases hget
      rfl
    rw [hflag, ← hlist, decide_eq_true_iff]
  · intro hagree
    refine ⟨blackSet u w, ?_, ?_, hblack, ?_⟩
    · intro row created _
      exact (Bool.decide_congr hagree).trans Bool.decide_eq_true
    · intro env password user extras w' h
      rw [pwdUserInBlacklist_of_result henabled h, Bool.decide_congr hagree, Bool.decide_eq_true]
    · rw [exempt_iff hreach hrow, hagree, or_self]

/-- Neither the list nor the flag has the user. -/
theorem one_membership_iff_absent :
    ∃ member, OneMembership Sample.conf Sample.ticking
      (run Sample.conf Sample.ticking (.initial Sample.users) [Sample.login]) "alice" member := by
  have hreach : Reachable Sample.conf Sample.ticking
      (run Sample.conf Sample.ticking (.initial Sample.users) [Sample.login]) :=
    ⟨Sample.users, _, rfl⟩
  exact (one_membership_iff hreach rfl).mpr (by decide)

/-- A user is put on the blacklist: `get_black` says so and the password does not expire, and the
next login result says that the user is not on it. -/
theorem blacklisted_user_not_in_blacklist :
    let w := run Sample.conf Sample.ticking (.initial Sample.users)
      [Sample.login, .request (.modifyBlack "alice" (some (.bool true)) true)]
    (SPassword.getBlack "alice").run w = .ok true w ∧ ExemptFromExpiry Sample.conf w "alice" ∧
      (∃ user extras w', (Identity.authenticate Sample.conf Sample.ticking
        (Sample.env Sample.code) "alice" "secret").run w = .ok ⟨user, some extras⟩ w' ∧
          extras.pwdUserInBlacklist = false) ∧
      ¬ ∃ member, OneMembership Sample.conf Sample.ticking w "alice" member := by
  intro w
  have hget : (SPassword.getBlack "alice").run w = .ok true w := rfl
  obtain ⟨user, extras, w', hlogin, hextras⟩ : ∃ user extras w',
      (Identity.authenticate Sample.conf Sample.ticking (Sample.env Sample.code) "alice"
        "secret").run w = .ok ⟨user, some extras⟩ w' ∧ extras.pwdUserInBlacklist = false :=
    ⟨_, _, _, rfl, rfl⟩
  refine ⟨hget, fun _ => ⟨_, rfl⟩, ⟨user, extras, w', hlogin, hextras⟩, ?_⟩
  rintro ⟨member, hmember⟩
  have hlist : extras.pwdUserInBlacklist = member := hmember.result _ _ user extras w' hlogin
  have hflag := hmember.getBlack
  rw [hget, ← hlist, hextras] at hflag
  cases hflag

end KeystoneSpassword
