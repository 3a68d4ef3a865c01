import KeystoneSpassword.Addresses

/-!
# The lockout

The counter of wrong passwords and the date of the last attempt, compared with the history.

The row keeps two numbers for the lockout test. The history has the same two as tallies:
`failures`, the verdicts against the password since the last reset, and `lastAttempt`, the date of
the last verdict in the life of the row. A login can lose its attempt: the commit comes after the
mail of the second factor, so an exception on the way there leaves the row as it was. `Tallied`
says what holds in spite of that, and with `lossless` what holds as long as no attempt is lost. That
is so as long as the mail transport does not raise: the address, at least, is always there
(`Addressed`).

## Main definitions

* `failures`, `lastAttempt` — the tallies
* `LoginEffect` — what a login does to the counter and the date
* `IsTally` — what a call that is no login leaves alone
* `Tallied` — the row and the tallies

## Main results

* `IsTally.step_of_not_login` — such a call keeps every tally
* `ledger_of_run` — the row is the ledger of the history, as long as no mail raises
* `wrong_passwords_bounded` — the number of wrong passwords in a blocking time
-/

namespace KeystoneSpassword

open StateProgram Relation History

variable {conf : Conf} {clock : ℕ → Time} {policy : Policy} {w w' : World} {u v : String}

/-! ### The tallies -/

/-- The base driver raised `AssertionError`. -/
def isFailure (u : String) : Event → Bool
  | .baseVerdict v _ accepted => decide (v = u) && !accepted
  | _ => false

/-- The counter starts again: an accepted password, or a created or updated event. -/
def isReset (u : String) : Event → Bool
  | .baseVerdict v _ accepted => decide (v = u) && accepted
  | .rowCreated v _ | .rowTouched v _ => decide (v = u)
  | _ => false

/-- The date of the last verdict in the life of the row. -/
def attemptTime (u : String) : Event → Option (Option Time)
  | .baseVerdict v t _ => if v = u then some (some t) else none
  | .rowCreated v _ | .userDeleted v => if v = u then some none else none
  | _ => none

/-- The wrong passwords since the last reset. -/
def failures (u : String) (log : List Event) : ℕ := countSince (isFailure u) (isReset u) log

/-- The date of the last attempt. -/
def lastAttempt (u : String) (log : List Event) : Option Time := register (attemptTime u) log

/-- No tally of `u` looks at the event. -/
structure Event.Untallied (u : String) (e : Event) : Prop where
  failure : isFailure u e = false
  reset : isReset u e = false
  attempt : attemptTime u e = none

theorem Event.untallied_of_ne {e : Event} (h : e.userId ≠ u) : e.Untallied u := by
  cases e <;> constructor <;> simp_all [isFailure, isReset, attemptTime, Event.userId]

theorem isFailure_eq_true {e : Event} (h : isFailure u e = true) :
    ∃ t, e = .baseVerdict u t false := by
  cases e <;> simp_all [isFailure]

section Tallies

variable {new log : List Event} {t : Time}

theorem since_untallied (h : ∀ e ∈ new, e.Untallied u) :
    since (isReset u) (new ++ log) = new ++ since (isReset u) log :=
  since_append_of_not (fun e he => (h e he).reset) log

theorem failures_untallied (h : ∀ e ∈ new, e.Untallied u) :
    failures u (new ++ log) = failures u log := by
  have hcount : new.countP (isFailure u) = 0 :=
    List.countP_eq_zero.mpr fun e he => by simp [(h e he).failure]
  rw [failures, countSince_append_of_not (fun e he => (h e he).reset), hcount, Nat.zero_add]
  rfl

theorem lastAttempt_untallied (h : ∀ e ∈ new, e.Untallied u) :
    lastAttempt u (new ++ log) = lastAttempt u log :=
  register_append_of_none (fun e he => (h e he).attempt) log

theorem failures_rejected : failures u (.baseVerdict u t false :: log) = failures u log + 1 := by
  have hreset : ∀ e ∈ [Event.baseVerdict u t false], isReset u e = false := by simp [isReset]
  rw [failures, ← List.singleton_append, countSince_append_of_not hreset, Nat.add_comm]
  simp [isFailure, failures]

theorem lastAttempt_verdict {accepted : Bool} :
    lastAttempt u (.baseVerdict u t accepted :: log) = some t :=
  register_cons_of_write (by simp [attemptTime]) log

end Tallies

/-! ### What a login does to the counter -/

/-- The mail transport of the login does not raise, with the address the user has. -/
def Op.MailReturns (conf : Conf) (w : World) : Op → Prop
  | .authenticate u _ env => ∀ address, (w.users u).bind UserRecord.email = some address →
    SendMail.Returns conf env.server address
  | _ => True

/-- A user with a verified email has an address, so the mail of a login goes out. -/
theorem Addressed.mailGoesOut (h : Addressed w) {env : AuthEnv} {password : String}
    (hmail : Op.MailReturns conf w (.authenticate u password env)) {row : SPasswordModel}
    (hrow : w.spassword u = some row) (hemail : row.sndfaEmail = true) :
    MailGoesOut conf env w u := by
  rcases h u with haddress | hcodeless
  · obtain ⟨address, h⟩ := Option.ne_none_iff_exists'.mp haddress
    exact ⟨address, h, hmail address h⟩
  · rw [(hcodeless row hrow).1] at hemail
    cases hemail

/-- The counter of the user, zero without a row. -/
def attempts (u : String) (w : World) : ℤ := (w.spassword u).elim 0 SPasswordModel.loginAttempts

/-- What a login does to the counter and the date of its user. -/
inductive LoginEffect (conf : Conf) (clock : ℕ → Time) (env : AuthEnv) (u : String)
    (w w' : World) : Prop
  /-- the base driver was not asked, or did not answer -/
  | unasked (new : List Event) (hlog : w'.log = new ++ w.log)
      (hnew : ∀ e ∈ new, e.Untallied u)
      (hblocked : .blocked u (clock w.ticks) ∈ new → LockedOut conf clock w u)
      (hrow : w'.spassword u = w.spassword u)
  /-- there is no such user -/
  | nobody (k : ℕ) (accepted : Bool)
      (hlog : w'.log = .baseVerdict u (clock (w.ticks + k)) accepted :: w.log)
      (huser : w.users u = none) (hrow : w'.spassword u = none)
  /-- the attempt is in the row -/
  | counted (k : ℕ) (accepted : Bool) (extra : List Event) (row' : SPasswordModel)
      (hfree : ¬ LockedOut conf clock w u) (huser : w.users u ≠ none)
      (hlog : w'.log = extra ++ .baseVerdict u (clock (w.ticks + k)) accepted :: w.log)
      (hextra : ∀ e ∈ extra, e.Untallied u) (hrow' : w'.spassword u = some row')
      (hattempts : row'.loginAttempts = if accepted then 0 else attempts u w + 1)
      (hlast : row'.lastLoginAttemptTime = some (.utc (clock (w.ticks + k))))
  /-- the password was accepted, and an exception kept the attempt out of the row -/
  | dropped (k : ℕ) (extra : List Event) (row row' : SPasswordModel)
      (hlog : w'.log = extra ++ .baseVerdict u (clock (w.ticks + k)) true :: w.log)
      (hextra : ∀ e ∈ extra, e.Untallied u) (hrow : w.spassword u = some row)
      (hrow' : w'.spassword u = some row') (hattempts : row'.loginAttempts = row.loginAttempts)
      (hlast : row'.lastLoginAttemptTime = row.lastLoginAttemptTime)
      (hemail : row.sndfaEmail = true) (hmissing : ¬ MailGoesOut conf env w u)

/-- Getting a code ready touches neither the counter nor the date, and no tally notices. -/
theorem Identity.CodeReady.attempts {uuid : ShortCode} {row : SPasswordModel} {n : ℕ}
    {code : String}
    (h : CodeReady conf clock uuid u row ((afterVerdict clock w u true).ticked n) code w')
    (hrow : w.spassword u = some row) :
    w'.users = w.users ∧
    (∃ row', w'.spassword u = some row' ∧ row'.loginAttempts = row.loginAttempts ∧
      row'.lastLoginAttemptTime = row.lastLoginAttemptTime) ∧
    ∃ extra, w'.log = extra ++ .baseVerdict u (clock w.ticks) true :: w.log ∧
      ∀ e ∈ extra, e.Untallied u := by
  cases h with
  | reused hfresh => exact ⟨rfl, ⟨row, hrow, rfl, rfl⟩, [], rfl, by simp⟩
  | issued n hstale =>
    refine ⟨rfl, ⟨_, Function.update_self .., rfl, rfl⟩, [_], rfl, fun e he => ?_⟩
    rw [List.mem_singleton.mp he]
    exact ⟨rfl, rfl, rfl⟩

/-! The events of a login, its verdict aside. -/

theorem Event.untallied_blocked (t : Time) : (Event.blocked v t).Untallied u := ⟨rfl, rfl, rfl⟩

theorem Event.untallied_expired (t : Time) : (Event.expired v t).Untallied u := ⟨rfl, rfl, rfl⟩

theorem Event.untallied_mailed (mail : Mail) (handed : Bool) :
    (Event.mailed v mail handed).Untallied u := ⟨rfl, rfl, rfl⟩

theorem Event.untallied_rowRegistered (t : Time) : (Event.rowRegistered v t).Untallied u :=
  ⟨rfl, rfl, rfl⟩

theorem Event.untallied_token (extras : Extras) : (Event.token v extras).Untallied u :=
  ⟨rfl, rfl, rfl⟩

theorem login_effect (henabled : conf.enabled = true) (hreach : Reachable conf clock w)
    (env : AuthEnv) (u password : String) :
    (final (Identity.authenticate conf clock env u password) w).users u = w.users u ∧
      LoginEffect conf clock env u w
        (final (Identity.authenticate conf clock env u password) w) := by
  have htracks := tracks_of_reachable hreach
  rcases Identity.authenticate_cases henabled env w u password with
    ⟨e, w₁, herror, houtcome⟩ | ⟨res, k, hfree, hanswer, houtcome⟩
  · rw [final_of_run_error herror]
    cases houtcome with
    | blocked row hrow hlocked =>
      exact ⟨rfl, .unasked [_] rfl (by simpa using Event.untallied_blocked _) (fun _ => hlocked)
        rfl⟩
    | expired row n hfree =>
      exact ⟨rfl, .unasked [_] rfl (by simpa using Event.untallied_expired _) (by simp) rfl⟩
    | raised e n hfree => exact ⟨rfl, .unasked [] rfl (by simp) (by simp) rfl⟩
  · rw [final]
    generalize (Identity.authenticate conf clock env u password).run w = result at houtcome
    cases houtcome with
    | lost _ e n hlost =>
      have huser : w.users u = none := htracks.users_of_lost hlost
      have hrow : w.spassword u = none := by
        by_contra hsome
        obtain ⟨row, hrow⟩ := Option.ne_none_iff_exists'.mp hsome
        exact htracks.user u row hrow huser
      exact ⟨rfl, .nobody k res.isSome rfl huser hrow⟩
    | firstRejected userRecord hrow huser =>
      have hattempts : attempts u w = 0 := by
        rw [attempts, show w.spassword u = none from hrow]
        rfl
      exact ⟨rfl, .counted k false [.rowRegistered u _] _ hfree
        (by rw [show w.users u = _ from huser]; simp) rfl
        (by simpa using Event.untallied_rowRegistered _) (Function.update_self ..)
        (by simp [Identity.firstRow, hattempts]) rfl⟩
    | firstAccepted user userRecord hrow huser =>
      exact ⟨rfl, .counted k true [.token u _, .rowRegistered u _] _ hfree
        (by rw [show w.users u = _ from huser]; simp) rfl
        (by simpa using ⟨Event.untallied_token _, Event.untallied_rowRegistered _⟩)
        (Function.update_self ..) rfl rfl⟩
    | rejected row hrow htime =>
      have hattempts : attempts u w = row.loginAttempts := by
        rw [attempts, show w.spassword u = some row from hrow]
        rfl
      exact ⟨rfl, .counted k false [] _ hfree (htracks.user u row hrow) rfl (by simp)
        (Function.update_self ..) (by simp [hattempts]) rfl⟩
    | passed user row created hrow hwants htime =>
      exact ⟨rfl, .counted k true [.token u _] _ hfree (htracks.user u row hrow) rfl
        (by simpa using Event.untallied_token _) (Identity.spassword_clearAttempts hrow _) rfl rfl⟩
    | signed user row created hrow hwants hemail hsigned htime =>
      exact ⟨rfl, .counted k true [.token u _] _ hfree (htracks.user u row hrow) rfl
        (by simpa using Event.untallied_token _) (Identity.spassword_clearAttempts hrow _) rfl rfl⟩
    | unverified user row hrow hwants hemail =>
      exact ⟨rfl, .counted k true [] _ hfree (htracks.user u row hrow) rfl (by simp)
        (Identity.spassword_clearAttempts hrow _) rfl rfl⟩
    | noAddress user row e n c w₁ hrow hwants hemail hunsigned hcode haddress =>
      obtain ⟨husers, ⟨row', hrow', hattempts, hlast⟩, extra, hlog, hextra⟩ := hcode.attempts hrow
      exact ⟨congrFun husers u, .dropped k extra row row' hlog hextra hrow hrow' hattempts hlast
        hemail (not_mailGoesOut_of_none haddress)⟩
    | mailRaised user row e n c w₁ userRecord address hrow hwants hemail hunsigned hcode huser
        haddress hmail =>
      obtain ⟨husers, ⟨row', hrow', hattempts, hlast⟩, extra, hlog, hextra⟩ := hcode.attempts hrow
      exact ⟨congrFun husers u, .dropped k (_ :: extra) row row' (congrArg (List.cons _) hlog)
        (List.forall_mem_cons.mpr ⟨Event.untallied_mailed _ _, hextra⟩) hrow hrow' hattempts
        hlast hemail (not_mailGoesOut_of_raises huser haddress hmail)⟩
    | challenged user row sent n c w₁ userRecord address hrow hwants hemail hunsigned hcode huser
        haddress hmail =>
      obtain ⟨husers, ⟨row', hrow', -, -⟩, extra, hlog, hextra⟩ := hcode.attempts hrow
      exact ⟨congrFun husers u, .counted k true (_ :: extra) _ hfree (htracks.user u row hrow)
        (congrArg (List.cons _) hlog)
        (List.forall_mem_cons.mpr ⟨Event.untallied_mailed _ _, hextra⟩)
        (Identity.spassword_clearAttempts hrow' _) rfl rfl⟩

/-! ### The row and the tallies -/

/-- What the counter and the date of a row are, given the history. The counter is never below the
tally, and with `lossless` they are equal. -/
structure RowTallied (lossless : Prop) (u : String) (log : List Event) (row : SPasswordModel) :
    Prop where
  counted_le : (failures u log : ℤ) ≤ row.loginAttempts
  dated_le : ∀ t, .baseVerdict u t false ∈ since (isReset u) log →
    ∃ last, row.lastLoginAttemptTime = some (.utc last) ∧ t ≤ last
  counted : lossless → row.loginAttempts = failures u log
  dated : lossless → row.lastLoginAttemptTime = (lastAttempt u log).map .utc

/-- The row of the user follows the tallies, and without a row there is nothing to count. -/
structure Tallied (lossless : Prop) (u : String) (w : World) : Prop where
  row : ∀ row, w.spassword u = some row → RowTallied lossless u w.log row
  no_row : w.spassword u = none → w.users u ≠ none → failures u w.log = 0

section RowTallied

variable {lossless : Prop} {new log : List Event} {row row' : SPasswordModel} {t : Time}

theorem RowTallied.append (h : RowTallied lossless u log row) (hnew : ∀ e ∈ new, e.Untallied u)
    (hattempts : row'.loginAttempts = row.loginAttempts)
    (hlast : row'.lastLoginAttemptTime = row.lastLoginAttemptTime) :
    RowTallied lossless u (new ++ log) row' := by
  constructor
  · rw [failures_untallied hnew, hattempts]
    exact h.counted_le
  · rw [since_untallied hnew, hlast]
    intro s hs
    rcases List.mem_append.mp hs with hs | hs
    · have := (hnew _ hs).failure
      simp [isFailure] at this
    · exact h.dated_le s hs
  · rw [failures_untallied hnew, hattempts]
    exact h.counted
  · rw [lastAttempt_untallied hnew, hlast]
    exact h.dated

theorem RowTallied.cons {e : Event} (h : RowTallied lossless u log row) (he : e.Untallied u)
    (hattempts : row'.loginAttempts = row.loginAttempts)
    (hlast : row'.lastLoginAttemptTime = row.lastLoginAttemptTime) :
    RowTallied lossless u (e :: log) row' := by
  have hnew : ∀ e' ∈ [e], e'.Untallied u := by simpa using he
  show RowTallied lossless u ([e] ++ log) row'
  exact h.append hnew hattempts hlast

/-- After a reset the tally is empty. -/
theorem rowTallied_of_reset {e : Event} (hreset : isReset u e = true)
    (hattempts : 0 ≤ row.loginAttempts) (hcounted : lossless → row.loginAttempts = 0)
    (hdated : lossless → row.lastLoginAttemptTime = (lastAttempt u (e :: log)).map .utc) :
    RowTallied lossless u (e :: log) row := by
  have hfailures : failures u (e :: log) = 0 := countSince_cons_of_reset hreset log
  constructor
  · rw [hfailures]
    exact hattempts
  · rw [since_cons_of_reset hreset]
    simp
  · rw [hfailures]
    exact hcounted
  · exact hdated

theorem RowTallied.touched (h : RowTallied lossless u log row) (created : Option DateTime) :
    RowTallied lossless u (.rowTouched u t :: log)
      { row with creationTime := created, loginAttempts := 0 } := by
  refine rowTallied_of_reset (by simp [isReset]) (le_refl _) (fun _ => rfl) fun hlossless => ?_
  have hlast : lastAttempt u (.rowTouched u t :: log) = lastAttempt u log :=
    register_cons_of_none rfl log
  rw [hlast]
  exact h.dated hlossless

theorem rowTallied_created (user : User) (now : DateTime) :
    RowTallied lossless u (.rowCreated u t :: log) (SPassword.newRow user now) := by
  refine rowTallied_of_reset (by simp [isReset]) (le_refl _) (fun _ => rfl) fun _ => ?_
  have hlast : lastAttempt u (.rowCreated u t :: log) = none :=
    register_cons_of_write (by simp [attemptTime]) log
  rw [hlast]
  rfl

/-- An attempt that is in the row. -/
theorem rowTallied_verdict {accepted : Bool} {attempts : ℤ}
    (hge : (failures u log : ℤ) ≤ attempts) (heq : lossless → attempts = failures u log)
    (hle : ∀ s, .baseVerdict u s false ∈ log → s ≤ t)
    (hattempts : row.loginAttempts = if accepted then 0 else attempts + 1)
    (hlast : row.lastLoginAttemptTime = some (.utc t)) :
    RowTallied lossless u (.baseVerdict u t accepted :: log) row := by
  have hdated : lossless → row.lastLoginAttemptTime =
      (lastAttempt u (.baseVerdict u t accepted :: log)).map .utc := by
    rw [lastAttempt_verdict, hlast]
    exact fun _ => rfl
  cases accepted with
  | true =>
    rw [if_pos rfl] at hattempts
    exact rowTallied_of_reset (by simp [isReset]) hattempts.ge (fun _ => hattempts) hdated
  | false =>
    rw [if_neg Bool.false_ne_true] at hattempts
    refine ⟨?_, fun s hs => ⟨t, hlast, ?_⟩, fun hlossless => ?_, hdated⟩
    · rw [failures_rejected, hattempts]
      push_cast
      linarith
    · have hmem := List.takeWhile_subset _ hs
      rcases List.mem_cons.mp hmem with heq | hmem
      · cases heq
        exact le_refl _
      · exact hle s hmem
    · rw [failures_rejected, hattempts, heq hlossless]
      push_cast
      rfl

end RowTallied

/-! ### What other calls do to a tally -/

/-- Only a login of the user notes the event. -/
def Event.OfLoginOnly (u : String) : Event → Prop
  | .baseVerdict v _ _ | .rowRegistered v _ | .token v _ => v = u
  | _ => False

/-- Only a login notes a verdict, registers a row or returns a result. -/
theorem Op.login_of_loginOnly {op : Op} {e : Event} (he : e.OfLoginOnly u) (h : op.Notes conf e) :
    ∃ password env, op = .authenticate u password env := by
  cases op with
  | authenticate v password env =>
    have hv : v = u := by
      cases e <;> simp_all [Event.OfLoginOnly, Op.Notes, Event.OfLogin]
    exact ⟨password, env, by rw [hv]⟩
  | request r =>
    cases e <;> cases r <;> simp [Event.OfLoginOnly, Op.Notes, Request.Notes, Event.OfRecovery,
      Event.OfReset, Event.OfSndfaCheck, Event.OfEmailAsk, Event.OfEmailCheck] at he h
  | _ =>
    cases e <;> simp [Event.OfLoginOnly, Op.Notes, Event.OfUserEvent, Event.OfEmailAsk,
      Event.OfEmailCheck, Event.OfSndfaCheck] at he h

/-- Only a login notes a verdict or registers a row. -/
theorem Op.login_of_notes {op : Op} {t : Time}
    (h : (∃ accepted, op.Notes conf (.baseVerdict u t accepted)) ∨
      op.Notes conf (.rowRegistered u t)) :
    ∃ password env, op = .authenticate u password env := by
  rcases h with ⟨accepted, h⟩ | h
  · exact Op.login_of_loginOnly (e := .baseVerdict u t accepted) rfl h
  · exact Op.login_of_loginOnly (e := .rowRegistered u t) rfl h

/-- Neither a tally of `u` nor a result of a login of `u`. -/
structure Event.Ignored (u : String) (e : Event) : Prop extends e.Untallied u where
  token : ∀ extras, e ≠ .token u extras

theorem Event.ignored_of_ne {e : Event} (h : e.userId ≠ u) : e.Ignored u :=
  ⟨Event.untallied_of_ne h, by rintro extras rfl; exact h rfl⟩

theorem Event.Inert.ignored {e : Event} (h : e.Inert) (hne : ¬ e.OfLoginOnly u) :
    e.Ignored u := by
  cases e with
  | baseVerdict v t accepted => exact Event.ignored_of_ne hne
  | token v extras => exact Event.ignored_of_ne hne
  | _ => first | exact ⟨⟨rfl, rfl, rfl⟩, by simp⟩ | exact h.elim

/-- `T` relates the history to the row of `u`, and `Z` says that there is nothing to relate it to.
Both look at nothing but logins of `u` and created and updated events of `u`. -/
structure IsTally (u : String) (T : List Event → SPasswordModel → Prop) (Z : List Event → Prop) :
    Prop where
  cons : ∀ {log : List Event} {row row' : SPasswordModel} {e : Event}, T log row → e.Ignored u →
    row'.loginAttempts = row.loginAttempts →
    row'.lastLoginAttemptTime = row.lastLoginAttemptTime → T (e :: log) row'
  cons_zero : ∀ {log : List Event} {e : Event}, Z log → e.Ignored u → Z (e :: log)
  touched : ∀ {log : List Event} {row : SPasswordModel} (t : Time) (created : Option DateTime),
    T log row → T (.rowTouched u t :: log) { row with creationTime := created, loginAttempts := 0 }
  created : ∀ (log : List Event) (t : Time) (user : User) (now : DateTime),
    T (.rowCreated u t :: log) (SPassword.newRow user now)

namespace IsTally

variable {T : List Event → SPasswordModel → Prop} {Z : List Event → Prop}

theorem append (hT : IsTally u T Z) {new log : List Event} {row : SPasswordModel}
    (hnew : ∀ e ∈ new, e.Ignored u) (h : T log row) : T (new ++ log) row := by
  induction new with
  | nil => exact h
  | cons e new ih =>
    have hlog : T (new ++ log) row := ih fun e' he' => hnew e' (List.mem_cons_of_mem e he')
    exact hT.cons hlog (hnew e List.mem_cons_self) rfl rfl

theorem append_zero (hT : IsTally u T Z) {new log : List Event}
    (hnew : ∀ e ∈ new, e.Ignored u) (h : Z log) : Z (new ++ log) := by
  induction new with
  | nil => exact h
  | cons e new ih =>
    have hlog : Z (new ++ log) := ih fun e' he' => hnew e' (List.mem_cons_of_mem e he')
    exact hT.cons_zero hlog (hnew e List.mem_cons_self)

/-- A row that no login writes keeps following the tally. -/
theorem move (hT : IsTally u T Z) (h : Move clock policy v w w')
    (hlogin : ∀ e : Event, e.OfLoginOnly u → ¬ policy.notes e)
    (hw : ∀ row, w.spassword u = some row → T w.log row) {row' : SPasswordModel}
    (hrow' : w'.spassword u = some row') : T w'.log row' := by
  by_cases hv : u = v
  · subst hv
    cases h with
    | tick | recordStored _ _ | passwordStored _ _ _ | userDropped _ _ => exact hw row' hrow'
    | noted e huser hinert htime hnotes =>
      exact hT.cons (hw row' hrow') (hinert.ignored fun he => hlogin e he hnotes) rfl rfl
    | userRemoved hstored hnotes => simp at hrow'
    | rowCreated user t hid hrow huser ht hnotes =>
      obtain rfl : SPassword.newRow user (.utc t) = row' := by simpa using hrow'
      exact hT.created w.log t user (.utc t)
    | rowTouched row t hrow ht hnotes =>
      obtain rfl := by simpa using hrow'
      exact hT.touched t (some (.utc t)) (hw row hrow)
    | rowRegistered user res t hid hrow huser ht hnotes =>
      exact absurd hnotes (hlogin (.rowRegistered u t) rfl)
    | attemptStored row attempts t hrow hattempts hnotes =>
      exact absurd (hnotes t true) (hlogin (.baseVerdict u t true) rfl)
    | sndfaIssued row code t tv older hrow hsndfa hemail hlog ht hnotes =>
      obtain rfl := by simpa using hrow'
      exact hT.cons (hw row hrow) ⟨⟨rfl, rfl, rfl⟩, by simp⟩ rfl rfl
    | sndfaAccepted row code t hrow hsndfa hemail hcode ht hnotes =>
      obtain rfl := by simpa using hrow'
      exact hT.cons (hw row hrow) ⟨⟨rfl, rfl, rfl⟩, by simp⟩ rfl rfl
    | sndfaModified row enable hrow hemail hnotes =>
      obtain rfl := by simpa using hrow'
      exact hT.cons (hw row hrow) ⟨⟨rfl, rfl, rfl⟩, by simp⟩ rfl rfl
    | blackModified row enable hrow hnotes =>
      obtain rfl := by simpa using hrow'
      exact hT.cons (hw row hrow) ⟨⟨rfl, rfl, rfl⟩, by simp⟩ rfl rfl
    | emailCodeIssued row code origin hrow horigin hnotes =>
      obtain rfl := by simpa using hrow'
      exact hT.cons (hw row hrow) ⟨⟨rfl, rfl, rfl⟩, by simp⟩ rfl rfl
    | recovered row code hrow hemail hissue hcheck =>
      obtain rfl := by simpa [SPasswordResource.recoveredState] using hrow'
      have hissued : T (.emailCodeIssued u code.code .recover :: w.log)
          { row with sndfaEmailCode := some code.code } :=
        hT.cons (hw row hrow) ⟨⟨rfl, rfl, rfl⟩, by simp⟩ rfl rfl
      exact hT.cons hissued ⟨⟨rfl, rfl, rfl⟩, by simp⟩ rfl rfl
    | emailCodeChecked row code hrow hstored hpresents hnotes =>
      obtain rfl := by simpa using hrow'
      exact hT.cons (hw row hrow) ⟨⟨rfl, rfl, rfl⟩, by simp⟩ rfl rfl
    | passwordReset row code password hrow hcode hnotes =>
      exact hT.cons (hw row' hrow') ⟨⟨rfl, rfl, rfl⟩, by simp⟩ rfl rfl
  · obtain ⟨new, hlog, hnew, -⟩ := h.log_eq
    have hignored : ∀ e ∈ new, e.Ignored u := fun e he =>
      Event.ignored_of_ne fun heq => hv (heq.symm.trans (hnew e he).1)
    rw [hlog]
    exact hT.append hignored (hw row' ((h.other hv).2.symm.trans hrow'))

/-- Without a row there is still nothing to count, unless Keystone stores a record or a login
notes a verdict. -/
theorem move_zero (hT : IsTally u T Z) (h : Move clock policy v w w')
    (hstores : ∀ w userRecord, ¬ policy.stores w u (some userRecord))
    (hlogin : ∀ e : Event, e.OfLoginOnly u → ¬ policy.notes e)
    (hw : w.spassword u = none → w.users u ≠ none → Z w.log)
    (hrow : w'.spassword u = none) (huser : w'.users u ≠ none) : Z w'.log := by
  by_cases hv : u = v
  · subst hv
    cases h with
    | tick => exact hw hrow huser
    | noted e heuser hinert htime hnotes =>
      exact hT.cons_zero (hw hrow huser) (hinert.ignored fun he => hlogin e he hnotes)
    | recordStored userRecord hstored => exact absurd hstored (hstores w userRecord)
    | passwordStored userRecord password hsome => exact hw hrow (by rw [hsome]; simp)
    | userRemoved hstored hnotes => simp at huser
    | userDropped _ _ => simp at huser
    | passwordReset row code password hsome hcode hnotes =>
      rw [World.note_spassword, hsome] at hrow
      cases hrow
    | _ => simp [SPasswordResource.recoveredState] at hrow
  · obtain ⟨new, hlog, hnew, -⟩ := h.log_eq
    have hignored : ∀ e ∈ new, e.Ignored u := fun e he =>
      Event.ignored_of_ne fun heq => hv (heq.symm.trans (hnew e he).1)
    obtain ⟨husers, hspassword⟩ := h.other hv
    rw [hlog]
    exact hT.append_zero hignored
      (hw (hspassword.symm.trans hrow) (fun hnone => huser (husers.trans hnone)))

/-- A call that is no login of the user keeps the row in step with the tally. -/
theorem step_of_not_login (clock : ℕ → Time) (hT : IsTally u T Z)
    (henabled : conf.enabled = true) {op : Op}
    (hop : ∀ password env, op ≠ .authenticate u password env)
    (hrow : ∀ row, w.spassword u = some row → T w.log row)
    (hzero : w.spassword u = none → w.users u ≠ none → Z w.log) :
    let w' := step conf clock w op
    (∀ row, w'.spassword u = some row → T w'.log row) ∧
      (w'.spassword u = none → w'.users u ≠ none → Z w'.log) := by
  have hlogin : ∀ e : Event, e.OfLoginOnly u → ¬ op.Notes conf e := by
    intro e he hnotes
    obtain ⟨password, env, heq⟩ := Op.login_of_loginOnly he hnotes
    exact hop password env heq
  refine ⟨?_, ?_⟩
  · refine keeps_of_steps (I := fun w => ∀ row, w.spassword u = some row → T w.log row)
      (fun w w' hmove hw row' hrow' => ?_)
      (step_moves (.inl henabled) (Op.allowed_notes w op)) hrow
    exact hT.move hmove hlogin hw hrow'
  · have hquiet (hadmitted : op.Admitted ⟨fun _ v stored => v = u → stored = none,
        fun _ _ _ => True, op.Notes conf⟩ w) :
        (step conf clock w op).spassword u = none → (step conf clock w op).users u ≠ none →
          Z (step conf clock w op).log :=
      keeps_of_steps (I := fun w => w.spassword u = none → w.users u ≠ none → Z w.log)
        (fun w w' hmove hw => hT.move_zero hmove (by simp) hlogin hw)
        (step_moves (.inl henabled) ⟨hadmitted, fun _ he => he⟩) hzero
    cases op with
    | createUser v userRecord =>
      by_cases hv : v = u
      · subst hv
        exact fun hnone => absurd hnone (row_of_createUser henabled w v userRecord)
      · exact hquiet fun heq => absurd heq hv
    | updateUser v userRecord =>
      by_cases hv : v = u
      · subst hv
        intro hnone huser
        exact ((row_of_updateUser henabled w v fun old => old.merge userRecord).resolve_left
          (fun hsome => hsome hnone) |> huser).elim
      · exact hquiet fun _ _ heq => absurd heq hv
    | request r => cases r <;> exact hquiet (by simp [Op.Admitted])
    | _ => exact hquiet (by simp [Op.Admitted])

end IsTally

/-- The failures and the date of the last attempt are a tally. -/
theorem isTally_rowTallied (lossless : Prop) (u : String) :
    IsTally u (RowTallied lossless u) (fun log => failures u log = 0) where
  cons h he hattempts hlast := h.cons he.toUntallied hattempts hlast
  cons_zero {log e} h he := by
    have hnew : ∀ e' ∈ [e], e'.Untallied u := by simpa using he.toUntallied
    rw [← List.singleton_append, failures_untallied hnew]
    exact h
  touched _ created h := h.touched created
  created _ _ user now := rowTallied_created user now

/-- A call that is no login of the user keeps the row in step with the tallies. -/
theorem Tallied.step_of_not_login {lossless : Prop} (henabled : conf.enabled = true)
    (h : Tallied lossless u w) {op : Op}
    (hop : ∀ password env, op ≠ .authenticate u password env) :
    Tallied lossless u (step conf clock w op) := by
  have hstep := (isTally_rowTallied lossless u).step_of_not_login clock henabled hop h.row h.no_row
  exact ⟨hstep.1, hstep.2⟩

/-- A login keeps the row in step with the tallies, and if it loses no attempt, exactly. -/
theorem Tallied.authenticate {lossless : Prop} (henabled : conf.enabled = true)
    (hclock : Monotone clock) (hreach : Reachable conf clock w) (h : Tallied lossless u w)
    (env : AuthEnv) (password : String)
    (hop : lossless → ∀ row, w.spassword u = some row → row.sndfaEmail = true →
      MailGoesOut conf env w u) :
    Tallied lossless u (step conf clock w (.authenticate u password env)) := by
  rw [step_authenticate]
  obtain ⟨husers, heffect⟩ := login_effect henabled hreach env u password
  generalize final (Identity.authenticate conf clock env u password) w = w' at husers heffect ⊢
  cases heffect with
  | unasked new hlog hnew hblocked hrow =>
    refine ⟨fun row hsome => ?_, fun hnone huser => ?_⟩
    · rw [hlog]
      exact (h.row row (hrow.symm.trans hsome)).append hnew rfl rfl
    · rw [hlog, failures_untallied hnew]
      exact h.no_row (hrow.symm.trans hnone) (husers ▸ huser)
  | nobody k accepted hlog huser hrow =>
    refine ⟨fun row hsome => ?_, fun _ hsome => absurd (husers.trans huser) hsome⟩
    rw [hrow] at hsome
    cases hsome
  | counted k accepted extra row' hfree huser hlog hextra hrow' hattempts hlast =>
    refine ⟨fun row hsome => ?_, fun hnone => ?_⟩
    · obtain rfl : row' = row := Option.some.inj (hrow'.symm.trans hsome)
      have htally : (failures u w.log : ℤ) ≤ attempts u w ∧
          (lossless → attempts u w = failures u w.log) := by
        cases hrow : w.spassword u with
        | none =>
          rw [attempts, hrow, h.no_row hrow huser]
          exact ⟨le_refl _, fun _ => rfl⟩
        | some row =>
          rw [attempts, hrow]
          exact ⟨(h.row row hrow).counted_le, (h.row row hrow).counted⟩
      have hle : ∀ s, .baseVerdict u s false ∈ w.log → s ≤ clock (w.ticks + k) := by
        intro s hmem
        obtain ⟨n, hn, hs⟩ := (timed_of_reachable hclock hreach).read _ hmem s rfl
        exact hs.trans (hclock (by omega))
      rw [hlog]
      exact (rowTallied_verdict htally.1 htally.2 hle hattempts hlast).append hextra rfl rfl
    · rw [hrow'] at hnone
      cases hnone
  | dropped k extra row row' hlog hextra hrow hrow' hattempts hlast hemail hmissing =>
    have hlossy : ¬ lossless := fun hlossless => hmissing (hop hlossless row hrow hemail)
    have hnonneg := ((tracks_of_reachable hreach).follows u row hrow).attempts_nonneg
    refine ⟨fun row₁ hsome => ?_, fun hnone => ?_⟩
    · obtain rfl : row' = row₁ := Option.some.inj (hrow'.symm.trans hsome)
      have hverdict : RowTallied lossless u (.baseVerdict u (clock (w.ticks + k)) true :: w.log)
          row' := by
        refine rowTallied_of_reset (by simp [isReset]) (hattempts ▸ hnonneg) ?_ ?_ <;>
          exact fun hlossless => absurd hlossless hlossy
      rw [hlog]
      exact hverdict.append hextra rfl rfl
    · rw [hrow'] at hnone
      cases hnone

/-- A call keeps the row in step with the tallies. -/
theorem Tallied.step {lossless : Prop} (henabled : conf.enabled = true) (hclock : Monotone clock)
    (hreach : Reachable conf clock w) (h : Tallied lossless u w) {op : Op}
    (hop : lossless → Addressed w ∧ op.MailReturns conf w) :
    Tallied lossless u (KeystoneSpassword.step conf clock w op) := by
  by_cases hlogin : ∃ password env, op = .authenticate u password env
  · obtain ⟨password, env, rfl⟩ := hlogin
    exact h.authenticate henabled hclock hreach env password fun hlossless row hrow hemail =>
      (hop hlossless).1.mailGoesOut (hop hlossless).2 hrow hemail
  · exact h.step_of_not_login henabled fun password env heq => hlogin ⟨password, env, heq⟩

/-! ### The ledger -/

/-- The lockout test refuses the call: the base driver is not asked, and no row changes. -/
def Refused (conf : Conf) (clock : ℕ → Time) (w : World) (u password : String) (env : AuthEnv) :
    Prop :=
  ∃ message, (Identity.authenticate conf clock env u password).run w =
    .error (.spasswordUnauthorized message) (w.tick.note (.blocked u (clock w.ticks)))

theorem refused_iff_lockedOut (henabled : conf.enabled = true) (hreach : Reachable conf clock w)
    (password : String) (env : AuthEnv) :
    Refused conf clock w u password env ↔ LockedOut conf clock w u := by
  constructor
  · rintro ⟨message, hrun⟩
    obtain ⟨-, heffect⟩ := login_effect henabled hreach env u password
    rw [final_of_run_error hrun] at heffect
    have hverdict : ∀ k accepted extra, [Event.blocked u (clock w.ticks)] ++ w.log ≠
        extra ++ .baseVerdict u (clock (w.ticks + k)) accepted :: w.log := by
      intro k accepted extra heq
      have hnew : [Event.blocked u (clock w.ticks)] =
          extra ++ [.baseVerdict u (clock (w.ticks + k)) accepted] :=
        List.append_cancel_right (heq.trans (List.append_assoc extra [_] w.log).symm)
      have hmem : Event.baseVerdict u (clock (w.ticks + k)) accepted ∈
          [Event.blocked u (clock w.ticks)] := by
        rw [hnew]
        simp
      simp at hmem
    cases heffect with
    | unasked new hlog hnew hblocked hrow =>
      obtain rfl : [_] = new := List.append_cancel_right hlog
      exact hblocked List.mem_cons_self
    | nobody k accepted hlog => exact absurd hlog (hverdict k accepted [])
    | counted k accepted extra _ _ _ hlog => exact absurd hlog (hverdict k accepted extra)
    | dropped k extra _ _ hlog => exact absurd hlog (hverdict k true extra)
  · intro hlocked
    have houtcome : Identity.VerdictOutcome conf clock w u
        ((Identity.verdict conf clock env u password).run w) :=
      Identity.verdict_outcome henabled env w u password
    rw [Refused, Identity.authenticate, EStateM.run_bind]
    generalize (Identity.verdict conf clock env u password).run w = result at houtcome
    cases houtcome with
    | blocked row hrow _ => exact ⟨_, rfl⟩
    | expired _ _ hfree | raised _ _ hfree | answered _ _ hfree => exact absurd hlocked hfree

/-- The tallies of the empty history. -/
theorem tallied_initial (lossless : Prop) (users : String → Option UserRecord) :
    Tallied lossless u (.initial users) :=
  ⟨fun _ hrow => (by cases hrow), fun _ _ => rfl⟩

/-- **The ledger.** In every run whose mails are sent without an exception, the counter of a row is
the number of wrong passwords since the last reset and its date is the one of the last attempt, and
a login of an existing user outside the blacklist is refused exactly when the history says so. -/
theorem ledger_of_run (henabled : conf.enabled = true) (htries : 0 ≤ conf.pwdMaxTries)
    (hclock : Monotone clock) (users : String → Option UserRecord) {ops : List Op}
    (hcalled : Machine.Along (step conf clock) (fun w op => op.AsCalled w) (.initial users) ops)
    (hmail : Machine.Along (step conf clock) (fun w op => op.MailReturns conf w)
      (.initial users) ops)
    (u : String) :
    let w := run conf clock (.initial users) ops
    (∀ row, w.spassword u = some row → row.loginAttempts = failures u w.log ∧
      row.lastLoginAttemptTime = (lastAttempt u w.log).map .utc) ∧
    (u ∉ conf.pwdUserBlacklist → w.users u ≠ none → ∀ password env,
      (Refused conf clock w u password env ↔ conf.pwdMaxTries < failures u w.log ∧
        ∃ last, lastAttempt u w.log = some last ∧ clock w.ticks < last + conf.blockTime)) := by
  intro w
  obtain ⟨hreach, -, htallied⟩ : Reachable conf clock w ∧ Addressed w ∧ Tallied True u w := by
    refine Machine.run_invariant
      (I := fun w => Reachable conf clock w ∧ Addressed w ∧ Tallied True u w)
      (fun w op hop hw => ⟨hw.1.step op, hw.2.1.step henabled hop.1,
        hw.2.2.step henabled hclock hw.1 fun _ => ⟨hw.2.1, hop.2⟩⟩)
      ((Machine.along_and _ _).mpr ⟨hcalled, hmail⟩)
      ⟨reachable_initial users, addressed_initial users, tallied_initial True users⟩
  refine ⟨fun row hrow => ⟨(htallied.row row hrow).counted trivial,
    (htallied.row row hrow).dated trivial⟩, fun hblack huser password env => ?_⟩
  rw [refused_iff_lockedOut henabled hreach]
  constructor
  · rintro ⟨-, row, last, hrow, hmore, hlast, hinside⟩
    have hr := htallied.row row hrow
    rw [hr.counted trivial] at hmore
    obtain ⟨t, ht, rfl⟩ := Option.map_eq_some_iff.mp ((hr.dated trivial).symm.trans hlast)
    refine ⟨hmore, t, ht, ?_⟩
    have hinside' : clock w.ticks - conf.blockTime < t := hinside
    linarith
  · rintro ⟨hmore, t, ht, hinside⟩
    cases hrow : w.spassword u with
    | none =>
      rw [htallied.no_row hrow huser] at hmore
      exact absurd hmore (not_lt.mpr htries)
    | some row =>
      have hr := htallied.row row hrow
      refine ⟨hblack, row, .utc t, hrow, ?_, by rw [hr.dated trivial, ht]; rfl, ?_⟩
      · rw [hr.counted trivial]
        exact hmore
      · show clock w.ticks - conf.blockTime < t
        linarith

/-- Four wrong passwords, and the fifth call is refused. -/
theorem ledger_of_run_guesses :
    let w := run Sample.conf Sample.ticking (.initial Sample.users) (List.replicate 4 Sample.guess)
    Refused Sample.conf Sample.ticking w "alice" "secret" (Sample.env Sample.code) := by
  intro w
  have hcalled : Machine.Along (step Sample.conf Sample.ticking) (fun w op => op.AsCalled w)
      (.initial Sample.users) (List.replicate 4 Sample.guess) :=
    ⟨trivial, trivial, trivial, trivial, trivial⟩
  have hmail : Machine.Along (step Sample.conf Sample.ticking)
      (fun w op => op.MailReturns Sample.conf w) (.initial Sample.users)
      (List.replicate 4 Sample.guess) := by
    refine ⟨?_, ?_, ?_, ?_, trivial⟩ <;> exact fun address haddress => by
      cases haddress
      exact ⟨true, rfl⟩
  have hledger := ledger_of_run rfl (by decide) Sample.monotone_ticking Sample.users hcalled hmail
    "alice"
  exact (hledger.2 (by decide) (by decide) "secret" (Sample.env Sample.code)).mpr
    ⟨by decide, _, rfl, by decide⟩

/-! ### The number of wrong passwords in a blocking time -/

/-- The wrong passwords that the base driver was shown from `s` on and before `e`. -/
def wrongPasswords (u : String) (s e : Time) (log : List Event) : ℕ :=
  log.countP fun
    | .baseVerdict v t accepted => decide (v = u) && !accepted && decide (s ≤ t ∧ t < e)
    | _ => false

theorem wrongPasswords_append {s e : Time} (new log : List Event) :
    wrongPasswords u s e (new ++ log) = wrongPasswords u s e new + wrongPasswords u s e log :=
  List.countP_append

/-- A wrong password in the interval is a wrong password. -/
theorem wrongPasswords_le (s e : Time) (log : List Event) :
    wrongPasswords u s e log ≤ log.countP (isFailure u) := by
  refine List.countP_mono_left fun e' _ h => ?_
  cases e' <;> simp_all [isFailure]

theorem wrongPasswords_eq_zero {s e : Time} {log : List Event}
    (h : ∀ e ∈ log, isFailure u e = false) : wrongPasswords u s e log = 0 := by
  have hcount : log.countP (isFailure u) = 0 :=
    List.countP_eq_zero.mpr fun e' he' => by simp [h e' he']
  exact Nat.le_zero.mp (hcount ▸ wrongPasswords_le s e log)

/-- The lockout test would compare a counter that has reached the limit, and no more than that,
inside the blocking time. -/
def LimitReached (conf : Conf) (clock : ℕ → Time) (w : World) (u : String) : Prop :=
  ∃ row ∈ w.spassword u, row.loginAttempts = conf.pwdMaxTries ∧
    ∃ last ∈ row.lastLoginAttemptTime, clock w.ticks - conf.blockTime < last.wall

instance (conf : Conf) (clock : ℕ → Time) (w : World) (u : String) :
    Decidable (LimitReached conf clock w u) :=
  inferInstanceAs (Decidable (∃ row ∈ w.spassword u, row.loginAttempts = conf.pwdMaxTries ∧
    ∃ last ∈ row.lastLoginAttemptTime, clock w.ticks - conf.blockTime < last.wall))

/-- The call is no login of the user, or one that does not meet the counter at the limit. -/
def Op.OffLimit (conf : Conf) (clock : ℕ → Time) (u : String) (w : World) : Op → Prop
  | .authenticate v _ _ => v = u → ¬ LimitReached conf clock w u
  | _ => True

instance (conf : Conf) (clock : ℕ → Time) (u : String) (w : World) (op : Op) :
    Decidable (op.OffLimit conf clock u w) :=
  match op with
  | .authenticate v _ _ => inferInstanceAs (Decidable (v = u → ¬ LimitReached conf clock w u))
  | .createUser _ _ | .updateUser _ _ | .deleteUser _ | .userModifySndfa _ _ | .userGetSndfa _
  | .userAskCheckEmailCode _ _ | .userCheckEmailCode _ _ | .alreadyUserCheckEmail _
  | .userCheckSndfaCode _ _ | .userModifyBlack _ _ | .userGetBlack _ | .userGetPwdExpiration _
  | .request _ => isTrue trivial

/-- With a full interval behind it, the next call in it is refused. -/
theorem lockedOut_of_full {new base : List Event} {s : Time} (htries : 1 ≤ conf.pwdMaxTries)
    (hblack : u ∉ conf.pwdUserBlacklist) (htallied : Tallied False u w) (huser : w.users u ≠ none)
    (hlog : w.log = new ++ base) (hclean : ∀ e ∈ new, isReset u e = false)
    (hfull : wrongPasswords u s (s + conf.blockTime) new = conf.pwdMaxTries)
    (hnow : clock w.ticks < s + conf.blockTime) (hoff : ¬ LimitReached conf clock w u) :
    LockedOut conf clock w u := by
  have hfailures : (conf.pwdMaxTries : ℤ) ≤ failures u w.log := by
    have hle := wrongPasswords_le (u := u) s (s + conf.blockTime) new
    have hcount : failures u w.log = new.countP (isFailure u) + failures u base := by
      rw [hlog]
      exact countSince_append_of_not hclean base
    omega
  obtain ⟨e, hmem, he⟩ : ∃ e ∈ new, _ :=
    List.countP_pos_iff.mp (show 0 < wrongPasswords u s (s + conf.blockTime) new by omega)
  obtain ⟨t, rfl, hst⟩ : ∃ t, e = .baseVerdict u t false ∧ s ≤ t := by
    cases e <;> simp_all
  cases hrow : w.spassword u with
  | none =>
    rw [htallied.no_row hrow huser] at hfailures
    exact absurd (htries.trans hfailures) (by norm_num)
  | some row =>
    have hr := htallied.row row hrow
    have hsince : .baseVerdict u t false ∈ since (isReset u) w.log := by
      rw [hlog, since_append_of_not hclean]
      exact List.mem_append_left _ hmem
    obtain ⟨last, hlast, hle⟩ := hr.dated_le t hsince
    have hinside : clock w.ticks - conf.blockTime < last := by linarith
    refine ⟨hblack, row, .utc last, hrow, lt_of_le_of_ne (hfailures.trans hr.counted_le) ?_, hlast,
      hinside⟩
    exact fun heq => hoff ⟨row, hrow, heq.symm, .utc last, hlast, hinside⟩

/-- Whatever attempts were lost, the counter of a reachable row is never below the tally. -/
theorem tallied_of_reachable (henabled : conf.enabled = true) (hclock : Monotone clock)
    (hreach : Reachable conf clock w) (u : String) : Tallied False u w := by
  have hboth : Reachable conf clock w ∧ Tallied False u w := by
    refine Reachable.induction (I := fun w => Reachable conf clock w ∧ Tallied False u w)
      (fun users => ⟨reachable_initial users, tallied_initial False users⟩)
      (fun w op hw => ?_) hreach
    exact ⟨hw.1.step op, hw.2.step henabled hclock hw.1 False.elim⟩
  exact hboth.2

/-- A user that is not deleted stays. -/
theorem users_of_step (henabled : conf.enabled = true) (huser : w.users u ≠ none) {op : Op}
    (hop : op ≠ .deleteUser u) : (step conf clock w op).users u ≠ none := by
  have hadmitted : op.Admitted ⟨fun _ v stored => v = u → stored ≠ none, fun _ _ _ => True,
      op.Notes conf⟩ w := by
    cases op with
    | deleteUser v => exact fun hv => absurd (congrArg Op.deleteUser hv) hop
    | request r => cases r <;> simp [Op.Admitted]
    | _ => simp [Op.Admitted]
  refine keeps_of_steps (I := fun w => w.users u ≠ none) (fun w w' hmove hw => ?_)
    (step_moves (.inl henabled) ⟨hadmitted, fun _ he => he⟩) huser
  by_cases hv : u = op.userId
  · rw [← hv] at hmove
    cases hmove with
    | userRemoved hstored _ | userDropped hstored _ => exact absurd rfl (hstored rfl)
    | recordStored _ _ | passwordStored _ _ _ => simp
    | _ => exact hw
  · rw [(hmove.other hv).1]
    exact hw

theorem users_of_run (henabled : conf.enabled = true) (huser : w.users u ≠ none) {ops : List Op}
    (hkept : ∀ op ∈ ops, op ≠ .deleteUser u) : (run conf clock w ops).users u ≠ none := by
  induction ops generalizing w with
  | nil => exact huser
  | cons op ops ih =>
    exact ih (users_of_step henabled huser (hkept op List.mem_cons_self))
      fun op' hop' => hkept op' (List.mem_cons_of_mem op hop')

/-- What one call adds to a full or partly full interval. -/
theorem wrongPasswords_step (henabled : conf.enabled = true) (htries : 1 ≤ conf.pwdMaxTries)
    (hclock : Monotone clock) (hblack : u ∉ conf.pwdUserBlacklist)
    (hreach : Reachable conf clock w) (huser : w.users u ≠ none) {new₂ new₁ base : List Event}
    {op : Op} {s : Time} (hlog₁ : w.log = new₁ ++ base)
    (hlog₂ : (step conf clock w op).log = new₂ ++ w.log)
    (hclean : ∀ e ∈ new₂ ++ new₁, isReset u e = false) (hoff : op.OffLimit conf clock u w)
    (hbound : (wrongPasswords u s (s + conf.blockTime) new₁ : ℤ) ≤ conf.pwdMaxTries) :
    (wrongPasswords u s (s + conf.blockTime) (new₂ ++ new₁) : ℤ) ≤ conf.pwdMaxTries := by
  rw [wrongPasswords_append]
  have hclean₁ : ∀ e ∈ new₁, isReset u e = false :=
    fun e he => hclean e (List.mem_append_right _ he)
  have hzero (h : ∀ e ∈ new₂, isFailure u e = false) :
      ((wrongPasswords u s (s + conf.blockTime) new₂ +
        wrongPasswords u s (s + conf.blockTime) new₁ : ℕ) : ℤ) ≤ conf.pwdMaxTries := by
    rw [wrongPasswords_eq_zero h, Nat.zero_add]
    exact hbound
  by_cases hlogin : ∃ password env, op = .authenticate u password env
  · obtain ⟨password, env, rfl⟩ := hlogin
    obtain ⟨-, heffect⟩ := login_effect henabled hreach env u password
    rw [← step_authenticate] at heffect
    have hnew {extra : List Event} {e : Event}
        (hlog : (step conf clock w (.authenticate u password env)).log = extra ++ e :: w.log) :
        new₂ = extra ++ [e] :=
      List.append_cancel_right
        (hlog₂.symm.trans (hlog.trans (List.append_assoc extra [e] w.log).symm))
    cases heffect with
    | unasked new hlog huntallied hblocked hrow =>
      obtain rfl : new₂ = new := List.append_cancel_right (hlog₂.symm.trans hlog)
      exact hzero fun e he => (huntallied e he).failure
    | nobody k accepted hlog hnone hrow => exact absurd hnone huser
    | counted k accepted extra row' hfree _ hlog hextra hrow' hattempts hlast =>
      obtain rfl := hnew hlog
      cases accepted with
      | true =>
        have := hclean (.baseVerdict u (clock (w.ticks + k)) true) (by simp)
        simp [isReset] at this
      | false =>
        have hextra_zero : wrongPasswords u s (s + conf.blockTime) extra = 0 :=
          wrongPasswords_eq_zero fun e he => (hextra e he).failure
        rw [wrongPasswords_append, hextra_zero, Nat.zero_add]
        by_cases hin : s ≤ clock (w.ticks + k) ∧ clock (w.ticks + k) < s + conf.blockTime
        · -- a full interval would have locked the call out
          have hnotfull : (wrongPasswords u s (s + conf.blockTime) new₁ : ℤ) ≠
              conf.pwdMaxTries := by
            intro hfull
            have hnow : clock w.ticks < s + conf.blockTime :=
              lt_of_le_of_lt (hclock (Nat.le_add_right _ k)) hin.2
            exact hfree (lockedOut_of_full htries hblack
              (tallied_of_reachable henabled hclock hreach u) huser hlog₁ hclean₁ hfull hnow
              (hoff rfl))
          have hone : wrongPasswords u s (s + conf.blockTime)
              [.baseVerdict u (clock (w.ticks + k)) false] = 1 := by
            simp [wrongPasswords, hin]
          rw [hone]
          omega
        · have hnone : wrongPasswords u s (s + conf.blockTime)
              [.baseVerdict u (clock (w.ticks + k)) false] = 0 := by
            simp [wrongPasswords] at hin ⊢
            exact hin
          rw [hnone, Nat.zero_add]
          exact hbound
    | dropped k extra row row' hlog hextra hrow hrow' hattempts hlast hemail hmissing =>
      obtain rfl := hnew hlog
      have := hclean (.baseVerdict u (clock (w.ticks + k)) true) (by simp)
      simp [isReset] at this
  · obtain ⟨new, hlog, hnew⟩ := step_log_eq hreach op
    obtain rfl : new₂ = new := List.append_cancel_right (hlog₂.symm.trans hlog)
    refine hzero fun e he => Bool.eq_false_iff.mpr fun hfailure => ?_
    obtain ⟨t, rfl⟩ := isFailure_eq_true hfailure
    exact hlogin (Op.login_of_notes (.inl ⟨false, (hnew _ he).2⟩))

/-- **Brute-force bound.** As long as no login meets the counter exactly at the limit inside the
blocking time, the base driver is shown at most `pwd_max_tries` wrong passwords of the user in any
blocking time, and once it has been shown so many, every other call in that time is refused.

The second part has a case only for `pwd_max_tries = 1`, where a counter above the limit may be left
from an earlier block. For a greater limit the counter is exactly at the limit by then, so a further
call in that time is one that meets it there. -/
theorem wrong_passwords_bounded (henabled : conf.enabled = true) (htries : 1 ≤ conf.pwdMaxTries)
    (hclock : Monotone clock) (hblack : u ∉ conf.pwdUserBlacklist)
    (hreach : Reachable conf clock w) (huser : w.users u ≠ none) {ops : List Op}
    (hkept : ∀ op ∈ ops, op ≠ .deleteUser u) {new : List Event}
    (hlog : (run conf clock w ops).log = new ++ w.log) (hclean : ∀ e ∈ new, isReset u e = false)
    (hoff : Machine.Along (step conf clock) (Op.OffLimit conf clock u) w ops) (s : Time) :
    (wrongPasswords u s (s + conf.blockTime) new : ℤ) ≤ conf.pwdMaxTries ∧
    ((wrongPasswords u s (s + conf.blockTime) new : ℤ) = conf.pwdMaxTries →
      clock (run conf clock w ops).ticks < s + conf.blockTime →
      ¬ LimitReached conf clock (run conf clock w ops) u →
      ∀ password env, Refused conf clock (run conf clock w ops) u password env) := by
  have hbound : (wrongPasswords u s (s + conf.blockTime) new : ℤ) ≤ conf.pwdMaxTries := by
    induction ops using List.reverseRecOn generalizing new with
    | nil =>
      obtain rfl : new = [] := List.self_eq_append_left.mp hlog
      exact le_trans (by norm_num [wrongPasswords]) htries
    | append_singleton ops op ih =>
      obtain ⟨new₁, hlog₁⟩ := run_log_eq hreach ops
      obtain ⟨new₂, hlog₂, -⟩ := step_log_eq (hreach.run ops) op
      rw [run, Machine.run_snoc] at hlog
      obtain rfl : new₂ ++ new₁ = new := by
        refine List.append_cancel_right (Eq.trans ?_ hlog)
        rw [List.append_assoc, ← hlog₁]
        exact hlog₂.symm
      obtain ⟨hoff₁, hoff₂⟩ := (Machine.along_snoc w ops op).mp hoff
      have hkept₁ : ∀ op' ∈ ops, op' ≠ .deleteUser u :=
        fun op' hop' => hkept op' (List.mem_append_left _ hop')
      have hbound₁ := ih hkept₁ hlog₁ (fun e he => hclean e (List.mem_append_right _ he)) hoff₁
      exact wrongPasswords_step henabled htries hclock hblack (hreach.run ops)
        (users_of_run henabled huser hkept₁) hlog₁ hlog₂ hclean hoff₂ hbound₁
  refine ⟨hbound, fun hfull hnow hlimit password env => ?_⟩
  exact (refused_iff_lockedOut henabled (hreach.run ops) password env).mpr
    (lockedOut_of_full htries hblack (tallied_of_reachable henabled hclock (hreach.run ops) u)
      (users_of_run henabled huser hkept) hlog hclean hfull hnow hlimit)

/-- With a limit of one: a wrong password after the blocking time of an earlier one fills the next
blocking time, and the call that follows it is refused. -/
theorem wrong_passwords_bounded_full :
    let conf := { Sample.conf with pwdMaxTries := 1 }
    let clock := fun n : ℕ => hours (min n 3)
    let w := run conf clock (.initial Sample.users) (List.replicate 3 Sample.guess)
    Refused conf clock w "alice" "secret" (Sample.env Sample.code) := by
  intro conf clock w
  have hclock : Monotone clock := fun n m h => Int.mul_le_mul_of_nonneg_right (by omega) (by decide)
  have hbound := wrong_passwords_bounded (u := "alice") rfl (by decide) hclock (by decide)
    (reachable_initial Sample.users) (by decide) (by simp [Sample.guess])
    (List.append_nil w.log).symm (by decide) (by decide) (hours 3)
  exact hbound.2 (by decide) (by decide) (by decide) "secret" (Sample.env Sample.code)

/-- With a limit of three, the base driver is shown four wrong passwords at once. -/
theorem four_wrong_passwords :
    let w := run Sample.conf Sample.ticking (.initial Sample.users) (List.replicate 4 Sample.guess)
    (∀ e ∈ w.log, isReset "alice" e = false) ∧ Sample.conf.pwdMaxTries = 3 ∧
      wrongPasswords "alice" 0 (0 + Sample.conf.blockTime) w.log = 4 := by
  decide

end KeystoneSpassword
