import KeystoneSpassword.Blacklist
import KeystoneSpassword.ConcurrentLogins

/-!
# The expiry of passwords

A login result reports when the password expires, `get_pwd_expiration` computes it again, and
`_check_password` enforces it. All three start from `creation_time`. This file follows that column:
between two events of the life of the user nothing moves it.

## Main definitions

* `Event.OfLife` — the events that may move the date
* `RefusedAsExpired`

## Main results

* `run_keepsDate` — in a run without such an event the row keeps its date
* `expiry_reported_enforced` — the date that was reported is the one that is enforced
-/

namespace KeystoneSpassword

open StateProgram Relation

variable {conf : Conf} {clock : ℕ → Time} {policy : Policy} {u v : String} {w w' : World}

/-! ### The date of a row -/

/-- A created, updated or deleted event of the user was delivered. -/
def Event.OfLife (u : String) : Event → Prop
  | .rowCreated v _ | .rowTouched v _ | .userDeleted v => v = u
  | _ => False

/-- The history has grown, and the row has kept its date, unless an event of the user's life came
in between. -/
def KeepsDate (u : String) (w w' : World) : Prop :=
  ∃ new, w'.log = new ++ w.log ∧ ((∀ e ∈ new, ¬ e.OfLife u) → ∀ row, w.spassword u = some row →
    ∃ row', w'.spassword u = some row' ∧ row'.creationTime = row.creationTime)

instance isPreorder_keepsDate (u : String) : IsPreorder World (KeepsDate u) where
  refl w := ⟨[], rfl, fun _ row hrow => ⟨row, hrow, rfl⟩⟩
  trans w₁ w₂ w₃ := by
    rintro ⟨new, hlog, hnew⟩ ⟨new', hlog', hnew'⟩
    refine ⟨new' ++ new, by rw [hlog', hlog, List.append_assoc], fun hquiet row hrow => ?_⟩
    obtain ⟨row', hrow', hdate'⟩ :=
      hnew (fun e he => hquiet e (List.mem_append_right _ he)) row hrow
    obtain ⟨row'', hrow'', hdate''⟩ :=
      hnew' (fun e he => hquiet e (List.mem_append_left _ he)) row' hrow'
    exact ⟨row'', hrow'', hdate''.trans hdate'⟩

theorem Move.keepsDate_own (h : Move clock policy u w w') : KeepsDate u w w' := by
  obtain ⟨new, hlog, -, -⟩ := h.log_eq
  refine ⟨new, hlog, fun hquiet row hrow => ?_⟩
  cases h with
  | tick | noted _ _ _ _ _ | recordStored _ _ | passwordStored _ _ _ | passwordReset _ _ _ _ _ _ =>
    exact ⟨row, hrow, rfl⟩
  | userDropped _ hnone | rowCreated _ _ _ hnone _ _ _ | rowRegistered _ _ _ _ hnone _ _ _ =>
    rw [hrow] at hnone
    cases hnone
  | userRemoved _ _ | rowTouched _ _ _ _ _ =>
    obtain rfl : [_] = new := List.append_cancel_right hlog
    exact absurd rfl (hquiet _ List.mem_cons_self)
  | attemptStored row' _ _ hrow' _ _ | sndfaIssued row' _ _ _ _ hrow' _ _ _ _ _
  | sndfaAccepted row' _ _ hrow' _ _ _ _ _ | sndfaModified row' _ hrow' _ _
  | blackModified row' _ hrow' _ | emailCodeIssued row' _ _ hrow' _ _ | recovered row' _ hrow' _ _ _
  | emailCodeChecked row' _ hrow' _ _ _ =>
    obtain rfl : row' = row := Option.some.inj (hrow'.symm.trans hrow)
    exact ⟨_, Function.update_self .., rfl⟩

theorem Move.keepsDate (h : Move clock policy v w w') : KeepsDate u w w' := by
  by_cases huv : u = v
  · subst huv
    exact h.keepsDate_own
  · obtain ⟨new, hlog, -, -⟩ := h.log_eq
    exact ⟨new, hlog, fun _ row hrow => ⟨row, (h.other huv).2.trans hrow, rfl⟩⟩

/-- **In a run without an event of the user's life, the row keeps its date.** -/
theorem run_keepsDate (h : Reachable conf clock w) (u : String) (ops : List Op) :
    KeepsDate u w (run conf clock w ops) := by
  induction ops generalizing w with
  | nil => exact refl_of (KeepsDate u) w
  | cons op ops ih =>
    refine trans_of (KeepsDate u) ?_ (ih (h.step op))
    exact reflTransGen_le_of_le (fun _ _ hmove => hmove.keepsDate) _ _
      (step_moves (onOrEmpty_of_reachable h) (Op.allowed_any conf w op))

/-! ### The date that is reported -/

/-- What a login result says of the date: it is the one of the row that the login leaves. -/
theorem date_of_result (henabled : conf.enabled = true) {env : AuthEnv} {password : String}
    {user : User} {extras : Extras}
    (h : (Identity.authenticate conf clock env u password).run w = .ok ⟨user, some extras⟩ w') :
    ∃ row created, w'.spassword u = some row ∧ normalizeDbDate row.creationTime = .ok created ∧
      extras.passwordExpirationTime = created.add (days conf.pwdExpDays) := by
  rcases Identity.authenticate_cases henabled env w u password with
    ⟨e, w₁, herror, -⟩ | ⟨res, n, -, -, houtcome⟩
  · rw [herror] at h
    cases h
  · rw [h] at houtcome
    cases houtcome with
    | firstAccepted _ userRecord hrow huser => exact ⟨_, _, Function.update_self .., rfl, rfl⟩
    | passed _ row created hrow hwants htime | signed _ row created hrow hwants _ _ htime =>
      exact ⟨_, created, Identity.spassword_clearAttempts hrow _, htime, rfl⟩

/-! ### The date that is enforced -/

/-- The login is refused as expired, by a test made at `t`. -/
def RefusedAsExpired (conf : Conf) (clock : ℕ → Time) (w : World) (u password : String)
    (env : AuthEnv) (t : Time) : Prop :=
  ∃ name w', (Identity.authenticate conf clock env u password).run w =
    .error (.spasswordUnauthorized (Identity.expiredMessage name)) w' ∧
      w'.log = .expired u t :: w.log

/-- An attempt notes the verdict first, so its history is not the one of a refusal. -/
theorem attempt_log (henabled : conf.enabled = true) (env : AuthEnv) (w : World) (u : String)
    (res : Option User) :
    ∃ new, (final (Identity.attempt conf clock env u res) w).log =
      new ++ .baseVerdict u (clock w.ticks) res.isSome :: w.log := by
  have houtcome : Identity.AttemptOutcome conf clock env w u res
      ((Identity.attempt conf clock env u res).run w) :=
    Identity.attempt_outcome henabled env w u res
  rw [final]
  generalize (Identity.attempt conf clock env u res).run w = result at houtcome
  cases houtcome with
  | lost _ e n hlost => exact ⟨[], rfl⟩
  | firstRejected _ hrow huser => exact ⟨[_], rfl⟩
  | firstAccepted user _ hrow huser => exact ⟨[_, _], rfl⟩
  | rejected row hrow htime => exact ⟨[], rfl⟩
  | passed user row created hrow hwants htime => exact ⟨[_], rfl⟩
  | signed user row created hrow hwants hemail hsigned htime => exact ⟨[_], rfl⟩
  | unverified user row hrow hwants hemail => exact ⟨[], rfl⟩
  | noAddress user row e n code w' hrow _ _ _ hcode _ =>
    obtain ⟨-, -, extra, hlog, -⟩ := hcode.attempts hrow
    exact ⟨extra, hlog⟩
  | mailRaised user row e n code w' _ _ hrow _ _ _ hcode _ _ _ =>
    obtain ⟨-, -, extra, hlog, -⟩ := hcode.attempts hrow
    exact ⟨_ :: extra, congrArg (List.cons _) hlog⟩
  | challenged user row sent n code w' _ _ hrow _ _ _ hcode _ _ _ =>
    obtain ⟨-, -, extra, hlog, -⟩ := hcode.attempts hrow
    exact ⟨_ :: extra, congrArg (List.cons _) hlog⟩

/-- A login that reaches the password check is refused as expired exactly when the check refuses it
as expired. -/
theorem refusedAsExpired_iff (henabled : conf.enabled = true) {row : SPasswordModel}
    {created : DateTime} {exempt : Bool} {env : AuthEnv} {password : String} {a : BaseAnswer}
    {k : ℕ} (hbase : env.base u password = .check a)
    (hgate : (Identity.lockoutGate conf clock u).run w = .ok () (w.ticked k))
    (hrow : w.spassword u = some row) (htime : row.creationTime = some created)
    (hchecks : Identity.checksExpiry conf u row = .ok (!exempt)) :
    RefusedAsExpired conf clock w u password env (clock (w.ticks + k)) ↔
      created.wall + days conf.pwdExpDays < clock (w.ticks + k) ∧ exempt = false := by
  have hverdict : (Identity.verdict conf clock env u password).run w =
      (Identity.checkPassword conf clock u >>= fun _ => Identity.BaseAnswer.toPy a).run
        (w.ticked k) := by
    rw [Identity.verdict_eq, EStateM.run_bind, hgate]
    simp [Identity.baseAuthenticate, hbase]
  have hpasses {n : ℕ} (hcheck : (Identity.checkPassword conf clock u).run (w.ticked k) =
      .ok () (w.ticked n)) :
      ¬ RefusedAsExpired conf clock w u password env (clock (w.ticks + k)) := by
    rintro ⟨name, w', hrun, hlog⟩
    rw [Identity.authenticate, EStateM.run_bind, hverdict, EStateM.run_bind, hcheck] at hrun
    have hanswered (res : Option User) (hattempt : (Identity.attempt conf clock env u res).run
        (w.ticked n) = .error (.spasswordUnauthorized (Identity.expiredMessage name)) w') :
        False := by
      obtain ⟨new, hnew⟩ := attempt_log henabled env (w.ticked n) u res
      rw [final_of_run_error hattempt, hlog] at hnew
      have hnotes : [Event.expired u (clock (w.ticks + k))] =
          new ++ [.baseVerdict u (clock (w.ticked n).ticks) res.isSome] :=
        List.append_cancel_right (hnew.trans (List.append_cons ..))
      have hmem : .baseVerdict u (clock (w.ticked n).ticks) res.isSome ∈
          [Event.expired u (clock (w.ticks + k))] := by
        rw [hnotes]
        simp
      cases List.mem_singleton.mp hmem
    cases a with
    | user user => exact hanswered (some user) hrun
    | assertionError => exact hanswered none hrun
    | raised what => cases hrun
  cases exempt with
  | true =>
    refine iff_of_false ?_ (by simp)
    exact hpasses (Identity.run_checkPassword_of_exempt (w := w.ticked k) hrow hchecks)
  | false =>
    by_cases hold : created.wall < clock (w.ticked k).ticks - days conf.pwdExpDays
    · refine iff_of_true ⟨row.userName,
        (w.ticked k).tick.note (.expired u (clock (w.ticked k).ticks)), ?_, rfl⟩
          ⟨lt_sub_iff_add_lt.mp hold, rfl⟩
      rw [Identity.authenticate, EStateM.run_bind, hverdict, EStateM.run_bind,
        Identity.run_checkPassword_of_expired (w := w.ticked k) henabled hrow hchecks htime hold]
    · refine iff_of_false ?_ fun h => hold (lt_sub_iff_add_lt.mpr h.1)
      exact hpasses (n := k + 1)
        (Identity.run_checkPassword_of_current henabled hrow hchecks htime hold)

/-! ### One date -/

/-- **The date that was reported is the one that is enforced.** After a login result, and any calls
in whose course no created, updated or deleted event of the user is delivered, `get_pwd_expiration`
returns the date that the result has reported. A login that gets to the password check at `t` is
refused as expired if and only if that date is before `t` and neither the list nor the row's flag
exempts the user. -/
theorem expiry_reported_enforced (henabled : conf.enabled = true) (hreach : Reachable conf clock w)
    {env : AuthEnv} {password : String} {user : User} {extras : Extras} {w₁ : World}
    (hlogin : (Identity.authenticate conf clock env u password).run w =
      .ok ⟨user, some extras⟩ w₁) (ops : List Op) {new : List Event}
    (hlog : (run conf clock w₁ ops).log = new ++ w₁.log) (hquiet : ∀ e ∈ new, ¬ e.OfLife u) :
    let w₂ := run conf clock w₁ ops
    (SPassword.getPwdExpiration conf u).run w₂ = .ok (some extras.passwordExpirationTime) w₂ ∧
      ∀ env' password' a w₃, env'.base u password' = .check a →
        (Identity.lockoutGate conf clock u).run w₂ = .ok () w₃ →
          (RefusedAsExpired conf clock w₂ u password' env' (clock w₃.ticks) ↔
            extras.passwordExpirationTime.wall < clock w₃.ticks ∧
              u ∉ conf.pwdUserBlacklist ∧ blackSet u w₂ = false) := by
  intro w₂
  have hreach₁ : Reachable conf clock w₁ := by
    have hstep := hreach.step (.authenticate u password env)
    rwa [step_authenticate, final_of_run_ok hlogin] at hstep
  have hreach₂ : Reachable conf clock w₂ := hreach₁.run ops
  obtain ⟨row₁, created, hrow₁, htime₁, hextras⟩ := date_of_result henabled hlogin
  obtain ⟨row, hrow, hdate⟩ : ∃ row, w₂.spassword u = some row ∧
      row.creationTime = row₁.creationTime := by
    obtain ⟨new', hlog', hkept⟩ := run_keepsDate hreach₁ u ops
    obtain rfl : new = new' := List.append_cancel_right (hlog.symm.trans hlog')
    exact hkept hquiet row₁ hrow₁
  rw [← hdate] at htime₁
  refine ⟨hextras ▸ SPassword.run_getPwdExpiration hrow htime₁, ?_⟩
  intro env' password' a w₃ hbase hgate
  obtain ⟨k, rfl⟩ : ∃ k, w₃ = w₂.ticked k := by
    rcases lockoutGate_cases clock henabled w₂ u with ⟨-, k, hrun⟩ | ⟨-, e, w', hrun, -⟩
    · rw [hgate] at hrun
      cases hrun
      exact ⟨k, rfl⟩
    · rw [hgate] at hrun
      cases hrun
  obtain ⟨t, htime⟩ := ((tracks_of_reachable hreach₂).follows u row hrow).creationTime
  rw [htime, normalizeDbDate_utc] at htime₁
  cases htime₁
  rw [World.ticked_ticks, refusedAsExpired_iff henabled hbase hgate hrow htime
    (checksExpiry_of_reachable hreach₂ hrow), hextras]
  simp

/-- A user's first login, a wrong password, and a change of the flag. The date is the one of the
first login, and a login one microsecond after it expires is not refused, because of the flag. -/
theorem expiry_reported_enforced_first :
    let clock : ℕ → Time := fun n => if n < 3 then 0 else days 365 + 1
    let w₁ := run Sample.conf clock (.initial Sample.users) [Sample.login]
    let w₂ := run Sample.conf clock w₁ [Sample.guess, .userModifyBlack "alice" true]
    (SPassword.getPwdExpiration Sample.conf "alice").run w₂ = .ok (some ⟨days 365, none⟩) w₂ ∧
      ¬ RefusedAsExpired Sample.conf clock w₂ "alice" "secret" (Sample.env Sample.code)
        (clock w₂.ticks) := by
  intro clock w₁ w₂
  have hlogin : (Identity.authenticate Sample.conf clock (Sample.env Sample.code) "alice"
      "secret").run (.initial Sample.users) =
        .ok ⟨Sample.alice.toUser "alice", some (Identity.firstExtras Sample.conf "alice" (.utc 0))⟩
          w₁ := rfl
  have hlog : w₂.log = [.blackModified "alice" true, .baseVerdict "alice" 0 false] ++ w₁.log := rfl
  obtain ⟨hreported, henforced⟩ := expiry_reported_enforced rfl (reachable_initial Sample.users)
    hlogin [Sample.guess, .userModifyBlack "alice" true] hlog (by simp [Event.OfLife])
  refine ⟨hreported, fun hrefused => ?_⟩
  have hgate : (Identity.lockoutGate Sample.conf clock "alice").run w₂ = .ok () w₂ := rfl
  exact absurd ((henforced _ _ _ w₂ rfl hgate).mp hrefused).2.2 (by decide)

end KeystoneSpassword
