import KeystoneSpassword.SecondFactor

/-!
# The mailed code

A correct password on a row that waits for the second factor ends in a mail. The code in it is
the stored one while that is fresh, and otherwise a new one, which a nested call stores in the
row before the outer call commits its own columns.

## Main definitions

* `CodeMailed`, `Challenge` — a call mailed a code, and what the call then did

## Main results

* `mailed_code_unspent` — a mailed code is live, and has never opened a session
* `second_factor_complete` — a mailed code opens a session, and the session lasts a window
-/

namespace KeystoneSpassword

open StateProgram Relation History

variable {conf : Conf} {clock : ℕ → Time} {w w' : World} {u : String} {code : String}

/-! ### What a login that mails a code does -/

/-- Between the two states a second-factor code was mailed to the user. -/
def CodeMailed (u code : String) (w w' : World) : Prop :=
  ∃ new address link handed, w'.log = new ++ w.log ∧
    .mailed u ⟨address, .sndfaCode code link⟩ handed ∈ new

/-- A login that mailed `code` went through the second factor: the password was accepted, no
validation was fresh, and the code was ready. Afterwards it changed at most the counter and the
date of the attempt. -/
inductive Challenge (conf : Conf) (clock : ℕ → Time) (env : AuthEnv) (u code : String)
    (w w' : World) : Prop
  | intro (row row₁ : SPasswordModel) (k n : ℕ) (w₁ : World) (mail : Mail) (handed : Bool)
      (attempts : ℤ) (last : Option DateTime)
      (hrow : w.spassword u = some row) (hwants : Identity.WantsSndfa conf row)
      (hemail : row.sndfaEmail = true)
      (hunsigned : ¬ Identity.Fresh conf row.sndfaLast (clock (w.ticks + k + 1)))
      (hcode : Identity.CodeReady conf clock env.uuid u row
        ((Identity.afterVerdict clock (w.ticked k) u true).ticked n) code w₁)
      (hrow₁ : w₁.spassword u = some row₁)
      (hrow' : w'.spassword u = some
        { row₁ with loginAttempts := attempts, lastLoginAttemptTime := last })
      (hticks : w'.ticks = w₁.ticks) (hlog : w'.log = .mailed u mail handed :: w₁.log)

/-- What was noted between two states has no mail of the code in it. -/
theorem not_codeMailed (added : List Event) (hlog : w'.log = added ++ w.log)
    (hadded : ∀ mail handed, .mailed u mail handed ∉ added) : ¬ CodeMailed u code w w' := by
  rintro ⟨new, address, link, handed, hnew, hmem⟩
  obtain rfl : added = new := List.append_cancel_right (hlog.symm.trans hnew)
  exact hadded _ _ hmem

/-- The events between two states, when the last one is the only mail. -/
theorem CodeMailed.of_mail {address : Address} {link c : String} {handed : Bool}
    (h : CodeMailed u code w w') (added : List Event)
    (hlog : w'.log = .mailed u ⟨address, .sndfaCode c link⟩ handed :: (added ++ w.log))
    (hadded : ∀ mail handed, .mailed u mail handed ∉ added) : code = c := by
  obtain ⟨new, address', link', handed', hnew, hmem⟩ := h
  obtain rfl : .mailed u ⟨address, .sndfaCode c link⟩ handed :: added = new :=
    List.append_cancel_right (hlog.symm.trans hnew)
  rcases List.mem_cons.mp hmem with heq | hmem
  · cases heq
    rfl
  · exact absurd hmem (hadded _ _)

/-- Once the code is ready the row is there, and nothing noted since the verdict is a mail. -/
theorem Identity.CodeReady.row_log {uuid : ShortCode} {row : SPasswordModel} {n : ℕ}
    (h : CodeReady conf clock uuid u row ((afterVerdict clock w u true).ticked n) code w')
    (hrow : w.spassword u = some row) :
    (∃ row', w'.spassword u = some row') ∧
      ∃ added, w'.log = added ++ w.log ∧ ∀ mail handed, .mailed u mail handed ∉ added := by
  cases h with
  | reused hfresh => exact ⟨⟨row, hrow⟩, [_], rfl, by simp⟩
  | issued n hstale => exact ⟨⟨_, Function.update_self ..⟩, [_, _], rfl, by simp⟩

theorem challenge_of_mailed {env : AuthEnv} {password : String}
    (h : CodeMailed u code w (final (Identity.authenticate conf clock env u password) w)) :
    Challenge conf clock env u code w
      (final (Identity.authenticate conf clock env u password) w) := by
  by_cases henabled : conf.enabled = true
  · rcases Identity.authenticate_cases henabled env w u password with
      ⟨e, w₁, herror, houtcome⟩ | ⟨res, k, -, -, houtcome⟩
    · rw [final_of_run_error herror] at h
      cases houtcome with
      | blocked row hrow hlocked => exact absurd h (not_codeMailed [_] rfl (by simp))
      | expired row n hfree => exact absurd h (not_codeMailed [_] rfl (by simp))
      | raised e n hfree => exact absurd h (not_codeMailed [] rfl (by simp))
    · rw [final] at h ⊢
      generalize (Identity.authenticate conf clock env u password).run w = result at houtcome h ⊢
      cases houtcome with
      | lost _ e n hlost => exact absurd h (not_codeMailed [_] rfl (by simp))
      | firstRejected userRecord hrow huser =>
        exact absurd h (not_codeMailed [_, _] rfl (by simp))
      | firstAccepted user userRecord hrow huser =>
        exact absurd h (not_codeMailed [_, _, _] rfl (by simp))
      | rejected row hrow htime => exact absurd h (not_codeMailed [_] rfl (by simp))
      | passed user row created hrow hwants htime =>
        exact absurd h (not_codeMailed [_, _] rfl (by simp))
      | signed user row created hrow hwants hemail hsigned htime =>
        exact absurd h (not_codeMailed [_, _] rfl (by simp))
      | unverified user row hrow hwants hemail =>
        exact absurd h (not_codeMailed [_] rfl (by simp))
      | noAddress user row e n c w₁ hrow hwants hemail hunsigned hcode haddress =>
        obtain ⟨-, added, hlog, hadded⟩ := hcode.row_log hrow
        exact absurd h (not_codeMailed added hlog hadded)
      | mailRaised user row e n c w₁ userRecord address hrow hwants hemail hunsigned hcode huser
          haddress hmail =>
        obtain ⟨⟨row₁, hrow₁⟩, added, hlog, hadded⟩ := hcode.row_log hrow
        obtain rfl : code = c := h.of_mail added (congrArg (List.cons _) hlog) hadded
        exact .intro row row₁ k n w₁ _ _ row₁.loginAttempts row₁.lastLoginAttemptTime hrow hwants
          hemail hunsigned hcode hrow₁ hrow₁ rfl rfl
      | challenged user row sent n c w₁ userRecord address hrow hwants hemail hunsigned hcode huser
          haddress hmail =>
        obtain ⟨⟨row₁, hrow₁⟩, added, hlog, hadded⟩ := hcode.row_log hrow
        obtain rfl : code = c := h.of_mail added (congrArg (List.cons _) hlog) hadded
        have hcleared : (Identity.clearAttempts (w₁.note (.mailed u ⟨address, .sndfaCode code
            (Identity.sndfaLink conf u code)⟩ (SendMail.delivery conf env.server address).1)) u
              (clock (w.ticks + k))).spassword u = some { row₁ with
                loginAttempts := 0
                lastLoginAttemptTime := some (.utc (clock (w.ticks + k))) } :=
          Identity.spassword_clearAttempts hrow₁ _
        exact .intro row row₁ k n w₁ _ _ 0 _ hrow hwants hemail hunsigned hcode hrow₁ hcleared
          rfl rfl
  · rw [final_authenticate_of_disabled (Bool.eq_false_iff.mpr henabled)] at h
    exact absurd h (not_codeMailed [] rfl (by simp))

/-! ### The mailed code is live and unspent -/

/-- In the history the code is the one of an issue at `t` that was never accepted. -/
def Unspent (u code : String) (t : Time) (log : List Event) : Prop :=
  ∃ newer older, log = newer ++ .sndfaIssued u code t :: older ∧
    ∀ c s row, .sndfaAccepted u c s row ∉ newer

theorem Unspent.append {added log : List Event} {t : Time} (h : Unspent u code t log)
    (hadded : ∀ c s row, .sndfaAccepted u c s row ∉ added) : Unspent u code t (added ++ log) := by
  obtain ⟨newer, older, rfl, hnewer⟩ := h
  refine ⟨added ++ newer, older, (List.append_assoc ..).symm, fun c s row hmem => ?_⟩
  rcases List.mem_append.mp hmem with hmem | hmem
  · exact hadded c s row hmem
  · exact hnewer c s row hmem

/-- Whatever clears the date of the last validation clears the code too. -/
theorem acceptedTime_ne_of_issuedCode {e : Event} (h : issuedCode u e = none) :
    acceptedTime u e ≠ some none := by
  cases e <;> simp_all [acceptedTime, issuedCode]

/-- A stored code whose date is fresh while the last validation is not has not been accepted since
it was stored. -/
theorem unspent_of_fresh (hclock : Monotone clock) (hreach : Reachable conf clock w)
    {row : SPasswordModel} (hrow : w.spassword u = some row) {i j : ℕ} (hij : i ≤ j)
    (hunsigned : ¬ Identity.Fresh conf row.sndfaLast (clock i))
    (hfresh : Identity.Fresh conf row.sndfaTimeCode (clock j)) :
    ∃ c t, row.sndfaCode = some c ∧ row.sndfaTimeCode = some (.utc t) ∧ Unspent u c t w.log := by
  have hr := (tracks_of_reachable hreach).follows u row hrow
  obtain ⟨date, hdate, hinside⟩ := hfresh
  obtain ⟨⟨c, t⟩, hregister, rfl⟩ := Option.map_eq_some_iff.mp (hr.sndfaTimeCode.symm.trans hdate)
  obtain ⟨newer, e, older, heq, he, hnewer⟩ := register_eq_some_iff.mp hregister
  obtain rfl := issuedCode_eq_some he
  refine ⟨c, t, by rw [hr.sndfaCode, hregister]; rfl, hdate, newer, older, heq, ?_⟩
  intro c' s' row' hmem
  -- an acceptance since the issue would have left a validation as young as the code
  have hclear : ∀ e ∈ newer, acceptedTime u e ≠ some none := fun e he =>
    acceptedTime_ne_of_issuedCode (hnewer e he)
  obtain ⟨e, he, s, hs, hlast⟩ := register_of_mem hclear
    ⟨_, hmem, s', by simp [acceptedTime]⟩ (.sndfaIssued u c t :: older)
  obtain ⟨c₁, row₁, rfl⟩ := acceptedTime_eq_some hs
  have hsorted := (timed_of_reachable hclock hreach).sorted
  rw [heq] at hsorted
  have hle : t ≤ s := (List.pairwise_append.mp hsorted).2.2 _ he _ List.mem_cons_self s t rfl rfl
  refine hunsigned ⟨.utc s, by rw [hr.sndfaLast, heq, hlast]; rfl, ?_⟩
  have hmono : clock i ≤ clock j := hclock hij
  have hinside' : clock j - conf.window < t := hinside
  show clock i - conf.window < s
  linarith

/-- **A mailed code is live and unspent.** A login that mails a second-factor code leaves it in the
row, with the date of its issue, and no code has been accepted since that issue. If the window is
positive, the issue is younger than a window at every moment of the call. -/
theorem mailed_code_unspent (hclock : Monotone clock) (hreach : Reachable conf clock w)
    {env : AuthEnv} {password : String}
    (h : CodeMailed u code w (final (Identity.authenticate conf clock env u password) w)) :
    ∃ row t, (final (Identity.authenticate conf clock env u password) w).spassword u = some row ∧
      row.sndfaCode = some code ∧ row.sndfaTimeCode = some (.utc t) ∧
      Unspent u code t (final (Identity.authenticate conf clock env u password) w).log ∧
      (0 < conf.window → ∀ n, w.ticks ≤ n →
        n < (final (Identity.authenticate conf clock env u password) w).ticks →
        clock n - conf.window < t) := by
  have hchallenge := challenge_of_mailed h
  generalize final (Identity.authenticate conf clock env u password) w = w' at hchallenge ⊢
  obtain ⟨row, row₁, k, n, w₁, mail, handed, attempts, last, hrow, hwants, hemail, hunsigned,
    hcode, hrow₁, hrow', hticks, hlog⟩ := hchallenge
  cases hcode with
  | reused hfresh =>
    have hle : w.ticks + k + 1 ≤ w.ticks + k + 1 + n := Nat.le_add_right _ n
    obtain ⟨c, t, hc, ht, hunspent⟩ := unspent_of_fresh hclock hreach hrow hle hunsigned
      hfresh
    obtain rfl : row = row₁ := Option.some.inj (hrow.symm.trans hrow₁)
    obtain ⟨date, hdate, hinside⟩ := hfresh
    obtain rfl : DateTime.utc t = date := Option.some.inj (ht.symm.trans hdate)
    rw [hc, Option.getD_some]
    have hlog' : w'.log = [.mailed u mail handed, .baseVerdict u (clock (w.ticks + k)) true] ++
      w.log := hlog
    refine ⟨_, t, hrow', hc, ht, hlog' ▸ hunspent.append (by simp), fun _ i _ hi => ?_⟩
    have hmono : clock i ≤ clock (w.ticks + k + 1 + n) := hclock (by
      rw [hticks] at hi
      exact Nat.lt_succ_iff.mp hi)
    have hinside' : clock (w.ticks + k + 1 + n) - conf.window < t := hinside
    linarith
  | issued m hstale =>
    obtain rfl : Identity.withCode row env.uuid.code (clock (w.ticks + k + 1 + n + m)) = row₁ := by
      simpa using hrow₁
    refine ⟨_, _, hrow', rfl, rfl, ⟨[_], _, hlog, by simp⟩, fun hwindow i _ hi => ?_⟩
    have hmono : clock i ≤ clock (w.ticks + k + 1 + n + m) := hclock (by
      rw [hticks] at hi
      exact Nat.lt_succ_iff.mp hi)
    linarith

/-- The first login after the second factor was switched on mails a code. -/
theorem mailed_code_unspent_first :
    let w := run Sample.conf Sample.ticking (.initial Sample.users) Sample.setUp
    let w' := final (Identity.authenticate Sample.conf Sample.ticking (Sample.env Sample.code)
      "alice" "secret") w
    ∃ row t, w'.spassword "alice" = some row ∧ row.sndfaCode = some Sample.code.code ∧
      Unspent "alice" Sample.code.code t w'.log ∧
        Sample.ticking w.ticks - Sample.conf.window < t := by
  intro w w'
  have hreach : Reachable Sample.conf Sample.ticking w := ⟨Sample.users, _, rfl⟩
  have hmailed : CodeMailed "alice" Sample.code.code w w' :=
    ⟨[_, _, _], _, _, _, rfl, List.mem_cons_self⟩
  obtain ⟨row, t, hrow, hcode, -, hunspent, hyoung⟩ :=
    mailed_code_unspent Sample.monotone_ticking hreach hmailed
  exact ⟨row, t, hrow, hcode, hunspent, hyoung (by decide) w.ticks (le_refl _) (by decide)⟩

/-- Without a window, a code mailed at the moment of its issue is not later than the call. -/
theorem mailed_code_not_later :
    let conf : Conf := { Sample.conf with sndfaTimeWindow := 0 }
    let clock : ℕ → Time := fun _ => 0
    let w := run conf clock (.initial Sample.users) Sample.setUp
    let w' := final (Identity.authenticate conf clock (Sample.env Sample.code) "alice" "secret") w
    Monotone clock ∧ Reachable conf clock w ∧ CodeMailed "alice" Sample.code.code w w' ∧
      ∀ row date, w'.spassword "alice" = some row → row.sndfaTimeCode = some date →
        ¬ clock w.ticks - conf.window < date.wall := by
  intro conf clock w w'
  refine ⟨monotone_const, ⟨Sample.users, _, rfl⟩, ⟨[_, _, _], _, _, _, rfl, List.mem_cons_self⟩, ?_⟩
  intro row date hrow hdate
  obtain rfl := Option.some.inj hrow
  obtain rfl := Option.some.inj hdate
  decide

/-! ### From the mail to the session -/

/-- The event ends what a mailed code needs: the row, the second factor or the verified email. -/
def Event.Disturbs (u : String) : Event → Prop
  | .userDeleted v | .sndfaModified v _ => v = u
  | .emailCodeIssued v _ origin => v = u ∧ origin ≠ .recover
  | .emailCodeChecked v _ matched => v = u ∧ matched = false
  | _ => False

/-- The call may end it: an email-code operation other than a recovery, a switch of the second
factor, or the deletion of the user. -/
def Op.Disturbs (u : String) : Op → Prop
  | .deleteUser v | .userModifySndfa v _ | .userAskCheckEmailCode v _ | .userCheckEmailCode v _
  | .request (.resetPassword v _ _ _ _) | .request (.modifySndfa v _ _)
  | .request (.askForCheckEmailCode v _ _ _) | .request (.checkEmailCode v _) => v = u
  | _ => False

/-- No event may end it. -/
def Policy.undisturbed (u : String) : Policy :=
  ⟨fun _ _ _ => True, fun _ _ _ => True, fun e => ¬ e.Disturbs u⟩

theorem Event.Disturbs.cases {e : Event} (h : e.Disturbs u) :
    e = .userDeleted u ∨ (∃ enable, e = .sndfaModified u enable) ∨
      (∃ c origin, origin ≠ .recover ∧ e = .emailCodeIssued u c origin) ∨
        ∃ c, e = .emailCodeChecked u c false := by
  cases e <;> simp_all [Event.Disturbs]

theorem Op.allowed_undisturbed {op : Op} (h : ¬ op.Disturbs u) (w : World) :
    op.Allowed conf (.undisturbed u) w := by
  refine Op.allowed_of_forall w (fun _ _ _ => trivial) (fun _ _ _ => trivial) fun e he => ?_
  intro hdisturbs
  rcases hdisturbs.cases with rfl | ⟨enable, rfl⟩ | ⟨c, origin, horigin, rfl⟩ | ⟨c, rfl⟩
  all_goals
    cases op with
    | request r =>
      cases r <;>
        simp [Op.Notes, Request.Notes, Event.OfRecovery, Event.OfReset, Event.OfSndfaCheck,
          Event.OfEmailAsk, Event.OfEmailCheck] at he <;>
        simp_all [Op.Disturbs]
    | _ =>
      simp [Op.Notes, Event.OfUserEvent, Event.OfLogin, Event.OfSndfaCheck, Event.OfEmailAsk,
        Event.OfEmailCheck] at he <;>
      simp_all [Op.Disturbs]

/-- What an undisturbed move does to a row: it stays, the second factor and the verified email
stay, the code changes only by an issue, and the validation only to the last clock reading. -/
theorem Move.undisturbed {v : String} (h : Move clock (.undisturbed u) v w w')
    {row : SPasswordModel} (hrow : w.spassword u = some row) :
    ∃ row', w'.spassword u = some row' ∧ row'.sndfa = row.sndfa ∧
      row'.sndfaEmail = row.sndfaEmail ∧
      (row'.sndfaCode = row.sndfaCode ∨ ∃ c t, w'.log = .sndfaIssued u c t :: w.log) ∧
      (row'.sndfaLast = row.sndfaLast ∨
        ∃ t, w.JustRead clock t ∧ row'.sndfaLast = some (.utc t)) := by
  by_cases hv : u = v
  · subst hv
    cases h with
    | tick | noted _ _ _ _ _ | recordStored _ _ | passwordStored _ _ _ | userDropped _ _
    | passwordReset _ _ _ _ _ _ => exact ⟨row, hrow, rfl, rfl, .inl rfl, .inl rfl⟩
    | userRemoved hstores hnotes => exact absurd rfl hnotes
    | rowCreated _ _ _ hnone _ _ _ | rowRegistered _ _ _ _ hnone _ _ _ =>
      rw [hrow] at hnone
      cases hnone
    | rowTouched row₁ t hrow₁ ht hnotes =>
      obtain rfl : row = row₁ := Option.some.inj (hrow.symm.trans hrow₁)
      exact ⟨_, Function.update_self .., rfl, rfl, .inl rfl, .inl rfl⟩
    | attemptStored row₁ attempts t hrow₁ hattempts hnotes =>
      obtain rfl : row = row₁ := Option.some.inj (hrow.symm.trans hrow₁)
      exact ⟨_, Function.update_self .., rfl, rfl, .inl rfl, .inl rfl⟩
    | sndfaIssued row₁ c t tv older hrow₁ hsndfa hemail hverdict ht hnotes =>
      obtain rfl : row = row₁ := Option.some.inj (hrow.symm.trans hrow₁)
      exact ⟨_, Function.update_self .., rfl, rfl, .inr ⟨_, _, rfl⟩, .inl rfl⟩
    | sndfaAccepted row₁ c t hrow₁ hsndfa hemail hcode ht hnotes =>
      obtain rfl : row = row₁ := Option.some.inj (hrow.symm.trans hrow₁)
      exact ⟨_, Function.update_self .., rfl, rfl, .inl rfl, .inr ⟨t, ht, rfl⟩⟩
    | sndfaModified row₁ enable hrow₁ hemail hnotes => exact absurd rfl hnotes
    | blackModified row₁ enable hrow₁ hnotes =>
      obtain rfl : row = row₁ := Option.some.inj (hrow.symm.trans hrow₁)
      exact ⟨_, Function.update_self .., rfl, rfl, .inl rfl, .inl rfl⟩
    | emailCodeIssued row₁ c origin hrow₁ horigin hnotes => exact absurd ⟨rfl, horigin⟩ hnotes
    | recovered row₁ c hrow₁ hemail hissue hcheck =>
      obtain rfl : row = row₁ := Option.some.inj (hrow.symm.trans hrow₁)
      exact ⟨_, Function.update_self .., rfl, rfl, .inl rfl, .inl rfl⟩
    | emailCodeChecked row₁ c hrow₁ hstored hpresents hnotes =>
      exact absurd ⟨rfl, rfl⟩ (hnotes false)
  · exact ⟨row, (h.other hv).2.trans hrow, rfl, rfl, .inl rfl, .inl rfl⟩

/-- What undisturbed moves keep, an undisturbed run keeps. -/
theorem run_undisturbed {I : World → Prop}
    (hI : ∀ v w w', Move clock (.undisturbed u) v w w' → I w → I w') {ops : List Op}
    (hops : ∀ op ∈ ops, ¬ op.Disturbs u) (hreach : Reachable conf clock w) (hw : I w) :
    I (run conf clock w ops) := by
  induction ops generalizing w with
  | nil => exact hw
  | cons op ops ih =>
    have hmoves : Moves clock (.undisturbed u) op.userId w (step conf clock w op) :=
      step_moves (onOrEmpty_of_reachable hreach)
        (Op.allowed_undisturbed (hops op List.mem_cons_self) w)
    exact ih (fun op' hop' => hops op' (List.mem_cons_of_mem op hop')) (hreach.step op)
      (keeps_of_steps (hI op.userId) hmoves hw)

/-- The second factor of the user is on, and unless a newer code was issued since the history was
`base`, the row holds `code`. -/
def CodeHeld (u code : String) (base : List Event) (w : World) : Prop :=
  ∃ new row, w.log = new ++ base ∧ w.spassword u = some row ∧ row.sndfa = true ∧
    row.sndfaEmail = true ∧
      ((∀ c t, .sndfaIssued u c t ∉ new) → row.sndfaCode = some code)

theorem Move.codeHeld {v : String} {base : List Event}
    (h : Move clock (.undisturbed u) v w w') (hw : CodeHeld u code base w) :
    CodeHeld u code base w' := by
  obtain ⟨new, row, hlog, hrow, hsndfa, hemail, hcode⟩ := hw
  obtain ⟨added, hadded, -, -⟩ := h.log_eq
  obtain ⟨row', hrow', hsndfa', hemail', hcode', -⟩ := h.undisturbed hrow
  refine ⟨added ++ new, row', by rw [hadded, hlog, List.append_assoc], hrow', hsndfa'.trans hsndfa,
    hemail'.trans hemail, fun hnone => ?_⟩
  rcases hcode' with hsame | ⟨c, t, hissued⟩
  · exact hsame.trans (hcode fun c t hmem => hnone c t (List.mem_append_right _ hmem))
  · rw [hadded] at hissued
    obtain rfl : added = [.sndfaIssued u c t] := List.append_cancel_right hissued
    exact absurd List.mem_cons_self (hnone c t)

/-- The second factor of the user is on, and was validated at the reading `n` of the clock or
later. -/
def SignedSince (clock : ℕ → Time) (u : String) (n : ℕ) (w : World) : Prop :=
  n < w.ticks ∧ ∃ row s, w.spassword u = some row ∧ row.sndfa = true ∧ row.sndfaEmail = true ∧
    row.sndfaLast = some (.utc s) ∧ clock n ≤ s

theorem Move.signedSince {v : String} {n : ℕ} (hclock : Monotone clock)
    (h : Move clock (.undisturbed u) v w w') (hw : SignedSince clock u n w) :
    SignedSince clock u n w' := by
  obtain ⟨hn, row, s, hrow, hsndfa, hemail, hlast, hs⟩ := hw
  obtain ⟨row', hrow', hsndfa', hemail', -, hlast'⟩ := h.undisturbed hrow
  refine ⟨lt_of_lt_of_le hn h.ticks_le, row', ?_⟩
  rcases hlast' with hsame | ⟨t, ⟨k, hk, rfl⟩, hnew⟩
  · exact ⟨s, hrow', hsndfa'.trans hsndfa, hemail'.trans hemail, hsame.trans hlast, hs⟩
  · exact ⟨clock k, hrow', hsndfa'.trans hsndfa, hemail'.trans hemail, hnew, hclock (by omega)⟩

/-- The row a login leaves that mailed `code` holds it, and keeps holding it while no newer one is
issued. -/
theorem Challenge.codeHeld (hclock : Monotone clock) (hreach : Reachable conf clock w)
    {env : AuthEnv} (h : Challenge conf clock env u code w w') :
    CodeHeld u code w'.log w' := by
  obtain ⟨row, row₁, k, n, w₁, mail, handed, attempts, last, hrow, hwants, hemail, hunsigned,
    hcode, hrow₁, hrow', hticks, hlog⟩ := h
  refine ⟨[], _, rfl, hrow', ?_⟩
  cases hcode with
  | reused hfresh =>
    obtain ⟨c, t, hc, -⟩ := unspent_of_fresh hclock hreach hrow
      (Nat.le_add_right (w.ticks + k + 1) n) hunsigned hfresh
    obtain rfl : row = row₁ := Option.some.inj (hrow.symm.trans hrow₁)
    exact ⟨hwants.2, hemail, fun _ => by rw [hc, Option.getD_some]⟩
  | issued m hstale =>
    obtain rfl : Identity.withCode row env.uuid.code (clock (w.ticks + k + 1 + n + m)) = row₁ := by
      simpa using hrow₁
    exact ⟨hwants.2, hemail, fun _ => rfl⟩

/-- An accepted password on a row with a fresh validation is a login. -/
theorem authenticate_of_signed (henabled : conf.enabled = true) (hsndfa : conf.sndfa = true)
    (hreach : Reachable conf clock w) {env : AuthEnv} {password : String} {user : User}
    (hanswer : (Identity.verdict conf clock env u password).run w = .ok (some user) w')
    {row : SPasswordModel} (hrow : w.spassword u = some row) (hon : row.sndfa = true)
    (hemail : row.sndfaEmail = true)
    (hfresh : Identity.Fresh conf row.sndfaLast (clock (w'.ticks + 1))) :
    ∃ extras w'', (Identity.authenticate conf clock env u password).run w =
      .ok ⟨user, some extras⟩ w'' ∧ extras.sndfa = some true ∧ extras.sndfaEmail = some true := by
  have htracks := tracks_of_reachable hreach
  have houtcome : Identity.VerdictOutcome conf clock w u (.ok (some user) w') :=
    hanswer ▸ Identity.verdict_outcome henabled env w u password
  obtain ⟨n, rfl⟩ : ∃ n, w' = w.ticked n := by
    cases houtcome with
    | answered _ n _ => exact ⟨n, rfl⟩
  rw [Identity.authenticate, EStateM.run_bind, hanswer]
  dsimp only
  have hattempt : Identity.AttemptOutcome conf clock env (w.ticked n) u (some user)
      ((Identity.attempt conf clock env u (some user)).run (w.ticked n)) :=
    Identity.attempt_outcome henabled env (w.ticked n) u (some user)
  generalize (Identity.attempt conf clock env u (some user)).run (w.ticked n) = result at hattempt
  cases hattempt with
  | lost _ e m hlost => exact absurd (htracks.users_of_lost hlost) (htracks.user u row hrow)
  | firstAccepted _ userRecord hnone huser =>
    rw [World.ticked_spassword, hrow] at hnone
    cases hnone
  | passed _ row₁ created hrow₁ hwants htime =>
    obtain rfl : row = row₁ := Option.some.inj (hrow.symm.trans hrow₁)
    exact absurd ⟨hsndfa, hon⟩ hwants
  | signed _ row₁ created hrow₁ hwants hemail₁ hsigned htime =>
    obtain rfl : row = row₁ := Option.some.inj (hrow.symm.trans hrow₁)
    exact ⟨_, _, rfl, by simp [Identity.registeredExtras, hsndfa, hon],
      by simp [Identity.registeredExtras, hsndfa, hemail]⟩
  | unverified _ row₁ hrow₁ hwants hemail₁ =>
    obtain rfl : row = row₁ := Option.some.inj (hrow.symm.trans hrow₁)
    rw [hemail] at hemail₁
    cases hemail₁
  | noAddress _ row₁ _ _ _ _ hrow₁ _ _ hunsigned _ _ =>
    obtain rfl : row = row₁ := Option.some.inj (hrow.symm.trans hrow₁)
    exact absurd hfresh hunsigned
  | mailRaised _ row₁ _ _ _ _ _ _ hrow₁ _ _ hunsigned _ _ _ _
  | challenged _ row₁ _ _ _ _ _ _ hrow₁ _ _ hunsigned _ _ _ _ =>
    obtain rfl : row = row₁ := Option.some.inj (hrow.symm.trans hrow₁)
    exact absurd hfresh hunsigned

/-- **Second-factor completeness.** A login mails `code`. As long as nothing disturbs the user and
no newer code is issued, the code is accepted, whenever it is presented. From then on, and again
as long as nothing disturbs the user, every accepted password within a window is a login. -/
theorem second_factor_complete (henabled : conf.enabled = true) (hsndfa : conf.sndfa = true)
    (hclock : Monotone clock) (hreach : Reachable conf clock w) {env : AuthEnv} {password : String}
    (hmailed : CodeMailed u code w (step conf clock w (.authenticate u password env)))
    {ops : List Op} (hops : ∀ op ∈ ops, ¬ op.Disturbs u)
    (hissued : ∀ new, (run conf clock (step conf clock w (.authenticate u password env)) ops).log =
      new ++ (step conf clock w (.authenticate u password env)).log →
        ∀ c t, .sndfaIssued u c t ∉ new) :
    let w₂ := run conf clock (step conf clock w (.authenticate u password env)) ops
    ∃ w₃, (SPassword.checkSndfaCode clock u code).run w₂ = .ok true w₃ ∧
      ∀ later, (∀ op ∈ later, ¬ op.Disturbs u) → ∀ env' password' user w₄,
        (Identity.verdict conf clock env' u password').run (run conf clock w₃ later) =
          .ok (some user) w₄ →
        clock (w₄.ticks + 1) < clock w₂.ticks + conf.window →
        ∃ extras w₅, (Identity.authenticate conf clock env' u password').run
            (run conf clock w₃ later) = .ok ⟨user, some extras⟩ w₅ ∧
          extras.sndfa = some true ∧ extras.sndfaEmail = some true := by
  intro w₂
  have hreach₁ := hreach.step (.authenticate u password env)
  have hheld₁ : CodeHeld u code (step conf clock w (.authenticate u password env)).log
      (step conf clock w (.authenticate u password env)) := by
    rw [step_authenticate] at hmailed ⊢
    exact (challenge_of_mailed hmailed).codeHeld hclock hreach
  obtain ⟨new, row, hlog, hrow, hon, hemail, hcode⟩ :=
    run_undisturbed (fun _ _ _ hmove => hmove.codeHeld) hops hreach₁ hheld₁
  have haccept : SPassword.Acceptable row code := ⟨hon, hemail, hcode (hissued new hlog)⟩
  have hcheck : (SPassword.checkSndfaCode clock u code).run _ = _ :=
    SPassword.run_checkSndfaCode_of_match hrow haccept
  refine ⟨_, hcheck, fun later hlater env' password' user w₄ hanswer hinside => ?_⟩
  have hreach₂ : Reachable conf clock w₂ := hreach₁.run ops
  have hreach₃ := hreach₂.step (.userCheckSndfaCode u code)
  have hstep : step conf clock w₂ (.userCheckSndfaCode u code) = _ :=
    (final_bind_reads (fun _ => reads_pure _) w₂).trans (final_of_run_ok hcheck)
  rw [hstep] at hreach₃
  have hsigned := run_undisturbed (fun _ _ _ hmove => hmove.signedSince hclock) hlater hreach₃
    ⟨Nat.lt_succ_self w₂.ticks, _, _, Function.update_self .., hon, hemail, rfl, le_refl _⟩
  obtain ⟨-, row', s, hrow', hon', hemail', hlast, hs⟩ := hsigned
  refine authenticate_of_signed henabled hsndfa (hreach₃.run later) hanswer hrow' hon' hemail' ?_
  refine ⟨.utc s, hlast, ?_⟩
  show clock (w₄.ticks + 1) - conf.window < s
  linarith

/-- Two wrong passwords before the code is presented change nothing. -/
theorem second_factor_complete_guesses :
    let w := run Sample.conf Sample.ticking (.initial Sample.users) Sample.setUp
    let w₂ := run Sample.conf Sample.ticking (step Sample.conf Sample.ticking w Sample.login)
      [Sample.guess, Sample.guess]
    let w₃ := step Sample.conf Sample.ticking w₂ (.userCheckSndfaCode "alice" Sample.code.code)
    (SPassword.checkSndfaCode Sample.ticking "alice" Sample.code.code).run w₂ = .ok true w₃ ∧
      ∃ extras w₅, (Identity.authenticate Sample.conf Sample.ticking (Sample.env Sample.code)
        "alice" "secret").run w₃ =
          .ok ⟨Sample.alice.toUser "alice", some extras⟩ w₅ ∧
        extras.sndfa = some true ∧ extras.sndfaEmail = some true := by
  intro w w₂ w₃
  have hreach : Reachable Sample.conf Sample.ticking w := ⟨Sample.users, _, rfl⟩
  have hmailed : CodeMailed "alice" Sample.code.code w
      (step Sample.conf Sample.ticking w Sample.login) :=
    ⟨[_, _, _], _, _, _, rfl, List.mem_cons_self⟩
  have hops : ∀ op ∈ [Sample.guess, Sample.guess], ¬ op.Disturbs "alice" := by
    simp [Sample.guess, Op.Disturbs]
  have hissued : ∀ new, w₂.log = new ++ (step Sample.conf Sample.ticking w Sample.login).log →
      ∀ c t, .sndfaIssued "alice" c t ∉ new := by
    intro new hnew c t
    obtain rfl : [_, _] = new := List.append_cancel_right hnew
    simp
  have hcheck : (SPassword.checkSndfaCode Sample.ticking "alice" Sample.code.code).run w₂ =
      .ok true w₃ := rfl
  refine ⟨hcheck, ?_⟩
  obtain ⟨w₃', hcheck', hsession⟩ :=
    second_factor_complete rfl rfl Sample.monotone_ticking hreach hmailed hops hissued
  obtain rfl : w₃ = w₃' := (EStateM.Result.ok.inj (hcheck.symm.trans hcheck')).2
  have hanswer : (Identity.verdict Sample.conf Sample.ticking (Sample.env Sample.code) "alice"
      "secret").run w₃ =
        .ok (some (Sample.alice.toUser "alice")) w₃.tick := by
    rfl
  have hinside : Sample.ticking (w₃.tick.ticks + 1) <
      Sample.ticking w₂.ticks + Sample.conf.window := by
    decide
  exact hsession [] (by simp) (Sample.env Sample.code)
    "secret" _ w₃.tick hanswer hinside
end KeystoneSpassword
