import KeystoneSpassword.Interference
import KeystoneSpassword.Refusals

/-!
# Logins among other calls

What a login may answer when other calls run between its steps. It reads the row three times and
commits at the end, so it may refuse on a row that is no longer there and commit over one it has
not seen. Three things can still be said of its answer, all of them about the past.

* If the user's second factor was on when the login began and nobody has switched it off, a token
  means that the login has found a row whose validation is inside the window: a code was accepted
  then, the code being one that was issued to a login of the user.
* A lockout means that the login has found a row whose counter exceeds the limit, with the last
  attempt inside the blocking time. As many wrong passwords have been given, and the attempt was
  made.
* An expired password means that the login has found a row that was stamped longer ago than a
  password lasts.

`V` are the states in which the login takes its steps. The rows are those stored in these states,
the moments are clock readings taken in them, and the limits are those of the server that answers
the login.

A call may also change Keystone's users. `Call.MayChange` says whose password one of its steps may
change, and only a step of that very call is bound by it.

## Main definitions

* `FoundRow`, `ReadClock` — what a call has looked at in the states of `V`
* `SecondFactorPassed`, `LockedOutFor`, `ExpiredFor`
* `Call.post` — what a call may answer
* `Call.MayChange` — which passwords a step of a call may change

## Main results

* `behaves_authenticate` — a login keeps the database accounted for and answers as above
* `Deployment.sound_after` — so do all calls of a deployment
-/

namespace KeystoneSpassword

open StateProgram Interleaving Process Relation History

variable {conf : Conf} {clock : ℕ → Time} {u : String} {w₀ w : World} {V : World → Prop}
  {U : World → World → Prop} {row : SPasswordModel} {α : Type}

/-! ### The answers -/

/-- In one of the states of `V` since `w₀`, this was the row of the user. -/
def FoundRow (V : World → Prop) (u : String) (row : SPasswordModel) (w₀ w : World) : Prop :=
  ∃ s, V s ∧ Later w₀ s ∧ Later s w ∧ s.spassword u = some row

/-- The `n`-th reading of the clock was taken in one of the states of `V` since `w₀`. -/
def ReadClock (V : World → Prop) (w₀ w : World) (n : ℕ) : Prop :=
  ∃ s, V s ∧ Later w₀ s ∧ s.ticks = n ∧ n < w.ticks

theorem FoundRow.mono {w₁ w₂ w₃ w₄ : World} (h : FoundRow V u row w₂ w₃) (h₁ : Later w₁ w₂)
    (h₂ : Later w₃ w₄) : FoundRow V u row w₁ w₄ := by
  obtain ⟨s, hV, hs, hs', hrow⟩ := h
  exact ⟨s, hV, trans_of Later h₁ hs, trans_of Later hs' h₂, hrow⟩

theorem ReadClock.mono {w₁ w₂ w₃ w₄ : World} {n : ℕ} (h : ReadClock V w₂ w₃ n) (h₁ : Later w₁ w₂)
    (h₂ : Later w₃ w₄) : ReadClock V w₁ w₄ n := by
  obtain ⟨s, hV, hs, hn, hlt⟩ := h
  exact ⟨s, hV, trans_of Later h₁ hs, hn, hlt.trans_le h₂.ticks⟩

/-- At a reading of the clock since `w₀`, the validation in the row is inside the window. -/
def ValidatedIn (conf : Conf) (clock : ℕ → Time) (V : World → Prop) (u : String)
    (row : SPasswordModel) (w₀ w : World) : Prop :=
  ∃ s n, row.sndfaLast = some (.utc s) ∧ Validated u s w.log ∧ ReadClock V w₀ w n ∧
    clock n - conf.window < s

/-- The result says that the second factor is on and its email verified, and a row has been found
whose validation is inside the window. -/
def SecondFactorPassed (conf : Conf) (clock : ℕ → Time) (V : World → Prop) (u : String)
    (w₀ : World) (result : AuthResult) (w : World) : Prop :=
  (∃ extras, result.extras = some extras ∧ extras.sndfa = some true ∧
    extras.sndfaEmail = some true) ∧
  ∃ row, FoundRow V u row w₀ w ∧ ValidatedIn conf clock V u row w₀ w

/-- A row has been found whose counter exceeds the limit. So many wrong passwords have been given,
and at a reading of the clock the last attempt of the row is inside the blocking time. -/
def LockedOutFor (conf : Conf) (clock : ℕ → Time) (V : World → Prop) (u : String)
    (w₀ w : World) : Prop :=
  conf.enabled = true ∧ u ∉ conf.pwdUserBlacklist ∧ ∃ row, FoundRow V u row w₀ w ∧
    conf.pwdMaxTries < row.loginAttempts ∧ row.loginAttempts ≤ rejections u w.log ∧
    ∃ l accepted n, row.lastLoginAttemptTime = some (.utc l) ∧ .baseVerdict u l accepted ∈ w.log ∧
      ReadClock V w₀ w n ∧ clock n - conf.blockTime < l

/-- A row has been found that was stamped longer ago than a password lasts, at a reading of the
clock. -/
def ExpiredFor (conf : Conf) (clock : ℕ → Time) (V : World → Prop) (u : String)
    (w₀ w : World) : Prop :=
  conf.enabled = true ∧ u ∉ conf.pwdUserBlacklist ∧ ∃ row, FoundRow V u row w₀ w ∧
    ∃ t n, row.creationTime = some (.utc t) ∧ Stamped u t w.log ∧ ReadClock V w₀ w n ∧
      t < clock n - days conf.pwdExpDays

/-- What a token means. -/
def LoginReturns (conf : Conf) (clock : ℕ → Time) (V : World → Prop) (u : String) (w₀ : World)
    (result : AuthResult) (w : World) : Prop :=
  conf.enabled = true → conf.sndfa = true → OnSince u w₀ w.log →
    SecondFactorPassed conf clock V u w₀ result w

/-- What a refusal means. -/
def LoginRaises (conf : Conf) (clock : ℕ → Time) (V : World → Prop) (u : String) (w₀ : World)
    (e : PyExc) (w : World) : Prop :=
  (∀ name, e = .spasswordUnauthorized (Identity.blockedMessage name) →
    LockedOutFor conf clock V u w₀ w) ∧
  ∀ name, e = .spasswordUnauthorized (Identity.expiredMessage name) →
    ExpiredFor conf clock V u w₀ w

/-! ### The answers stay true -/

section Later

variable {w' : World}

theorem ValidatedIn.mono {w₁ w₂ w₃ w₄ : World} (h : ValidatedIn conf clock V u row w₂ w₃)
    (h₁ : Later w₁ w₂) (h₂ : Later w₃ w₄) : ValidatedIn conf clock V u row w₁ w₄ := by
  obtain ⟨s, n, hlast, hvalidated, hn, hfresh⟩ := h
  exact ⟨s, n, hlast, hvalidated.later h₂.log, hn.mono h₁ h₂, hfresh⟩

theorem LockedOutFor.later (h : LockedOutFor conf clock V u w₀ w) (hw : Later w w') :
    LockedOutFor conf clock V u w₀ w' := by
  obtain ⟨henabled, hlisted, row, hfound, htries, hcount, l, accepted, n, hlast, hmem, hn,
    hinside⟩ := h
  have hw₀ := refl_of Later w₀
  exact ⟨henabled, hlisted, row, hfound.mono hw₀ hw, htries,
    hcount.trans (Int.ofNat_le.mpr (rejections_le hw.log)), l, accepted, n, hlast, hw.mem hmem,
    hn.mono hw₀ hw, hinside⟩

theorem ExpiredFor.later (h : ExpiredFor conf clock V u w₀ w) (hw : Later w w') :
    ExpiredFor conf clock V u w₀ w' := by
  obtain ⟨henabled, hlisted, row, hfound, t, n, htime, hstamped, hn, hold⟩ := h
  have hw₀ := refl_of Later w₀
  exact ⟨henabled, hlisted, row, hfound.mono hw₀ hw, t, n, htime, hstamped.later hw.log,
    hn.mono hw₀ hw, hold⟩

theorem LoginReturns.later {result : AuthResult} (h : LoginReturns conf clock V u w₀ result w)
    (hw : Later w w') : LoginReturns conf clock V u w₀ result w' := by
  intro henabled hsndfa hon
  obtain ⟨hextras, row, hfound, hvalidated⟩ := h henabled hsndfa (hon.earlier hw.log)
  have hw₀ := refl_of Later w₀
  exact ⟨hextras, row, hfound.mono hw₀ hw, hvalidated.mono hw₀ hw⟩

theorem LoginRaises.later {e : PyExc} (h : LoginRaises conf clock V u w₀ e w) (hw : Later w w') :
    LoginRaises conf clock V u w₀ e w' :=
  ⟨fun name he => (h.1 name he).later hw, fun name he => (h.2 name he).later hw⟩

end Later

/-! ### The words of the refusals -/

namespace Identity

theorem charAt_toList (cs ds : List Char) (c : Char) (s t : String) :
    (String.ofList (cs ++ c :: ds) ++ s ++ t).toList[cs.length]? = some c := by simp

theorem blockedMessage_charAt (userName : Option String) :
    (blockedMessage userName).toList[9]? = some 't' :=
  charAt_toList ['P', 'a', 's', 's', 'w', 'o', 'r', 'd', ' '] _ 't' _ _

theorem expiredMessage_charAt (userName : Option String) :
    (expiredMessage userName).toList[9]? = some 'e' :=
  charAt_toList ['P', 'a', 's', 's', 'w', 'o', 'r', 'd', ' '] _ 'e' _ _

theorem blockedMessage_ne_expiredMessage (name name' : Option String) :
    blockedMessage name ≠ expiredMessage name' := by
  intro h
  have hchar := blockedMessage_charAt name
  rw [h, expiredMessage_charAt] at hchar
  simp at hchar

end Identity

open Identity

theorem tolerant_loginRaises : Tolerant (LoginRaises conf clock V u w₀) := fun _ _ h =>
  ⟨fun _ he => absurd he (h _), fun _ he => absurd he (h _)⟩

/-- A refusal that speaks of neither. -/
theorem loginRaises_of_message {message : String} {cs : List Char}
    (h : message.toList.take 2 = cs) (hne : cs ≠ ['P', 'a']) :
    LoginRaises conf clock V u w₀ (.spasswordUnauthorized message) w :=
  ⟨fun name he => absurd (PyExc.spasswordUnauthorized.inj he)
      (ne_of_take h (blockedMessage_take name) hne),
    fun name he => absurd (PyExc.spasswordUnauthorized.inj he)
      (ne_of_take h (expiredMessage_take name) hne)⟩

theorem loginRaises_invalid :
    LoginRaises conf clock V u w₀ (.spasswordUnauthorized invalidMessage) w :=
  loginRaises_of_message invalidMessage_take (by decide)

/-! ### The steps of a login -/

section Steps

variable [Frames U]

/-- The lockout test, on a row that was read earlier. -/
theorem behaves_lockoutTest (hw : Later w₀ w) (henabled : conf.enabled = true)
    (hlisted : u ∉ conf.pwdUserBlacklist) {ref : Option SPasswordModel}
    (href : ∀ r, ref = some r → FoundRow V u r w₀ w ∧ RowTraced u w.log r) :
    Behaves clock V U (LoginRaises conf clock V u w₀) (atomic (lockoutTest conf clock u ref))
      Whatever w := by
  refine behaves_step fun s hs hI hV => ?_
  cases ref with
  | none => exact ⟨hI, refl_of Later s, Frames.of_users rfl, trivial⟩
  | some row =>
    have hrow := (href row rfl).2.later hs.log
    by_cases htries : conf.pwdMaxTries < row.loginAttempts
    · cases hlast : row.lastLoginAttemptTime with
      | none =>
        have hrun : (lockoutTest conf clock u (some row)).run s =
            .error (.attributeError "tzinfo") s := by
          simp [lockoutTest, htries, hlast, normalizeDbDate_none]
        rw [final_of_run_error hrun, answer_of_run_error hrun]
        exact ⟨hI, refl_of Later s, Frames.of_users rfl, tolerant_loginRaises _ _ fun _ => by simp⟩
      | some date =>
        obtain ⟨l, accepted, rfl, hverdict⟩ := hrow.lastAttempt date hlast
        by_cases hblocked : clock s.ticks - conf.blockTime < l
        · have hrun : (lockoutTest conf clock u (some row)).run s =
              .error (.spasswordUnauthorized (blockedMessage row.userName))
                (s.tick.note (.blocked u (clock s.ticks))) := by
            simp [lockoutTest, htries, hlast, blockedAt, DateTime.lt_def, hblocked]
          rw [final_of_run_error hrun, answer_of_run_error hrun]
          have hlater : Later s (s.tick.note (.blocked u (clock s.ticks))) :=
            trans_of Later (later_tick s) (later_note _ _)
          refine ⟨hI.tick.noted ⟨l, accepted, hverdict⟩ fun t ht => ?_, hlater,
            Frames.of_users rfl, ⟨fun name he => ?_, fun name he => ?_⟩⟩
          · exact ⟨s.ticks, Nat.lt_succ_self _, (Option.some.inj ht).symm⟩
          · have hfound := (href row rfl).1.mono (refl_of Later w₀) (trans_of Later hs hlater)
            have hcount := hrow.attempts_le.trans (Int.ofNat_le.mpr (rejections_le hlater.log))
            exact ⟨henabled, hlisted, row, hfound, htries, hcount, l, accepted, s.ticks, hlast,
              hlater.mem hverdict, ⟨s, hV, trans_of Later hw hs, rfl, Nat.lt_succ_self _⟩, hblocked⟩
          · exact absurd (PyExc.spasswordUnauthorized.inj he)
              (blockedMessage_ne_expiredMessage _ _)
        · have hrun : (lockoutTest conf clock u (some row)).run s = .ok () s.tick := by
            simp [lockoutTest, htries, hlast, blockedAt, DateTime.lt_def, hblocked]
          rw [final_of_run_ok hrun, answer_of_run_ok hrun]
          exact ⟨hI.tick, later_tick s, Frames.of_users rfl, trivial⟩
    · have hrun : (lockoutTest conf clock u (some row)).run s = .ok () s := by
        simp [lockoutTest, htries]
      rw [final_of_run_ok hrun, answer_of_run_ok hrun]
      exact ⟨hI, refl_of Later s, Frames.of_users rfl, trivial⟩

/-- The expiry test. -/
theorem behaves_checkPassword (hw : Later w₀ w) :
    Behaves clock V U (LoginRaises conf clock V u w₀) (Stepwise.Identity.checkPassword conf clock u)
      Whatever w := by
  refine Behaves.ite (fun henabled => ?_) fun _ => behaves_pure trivial
  refine (behaves_sessionIn u).bind fun ref w₁ h₁ href => ?_
  obtain ⟨hV, hstored, htraced⟩ := href
  cases ref with
  | none => exact behaves_pure trivial
  | some row =>
    refine (behaves_ofExcept fun e he => ?_).bind fun checks _ h₂ hchecks =>
      Behaves.ite (fun hon => ?_) fun _ => behaves_pure trivial
    · rw [checksExpiry_error he]
      exact tolerant_loginRaises _ _ fun _ => by simp
    have hlisted : u ∉ conf.pwdUserBlacklist := by
      intro hmem
      rw [checksExpiry, if_pos hmem] at hchecks
      rw [← Except.ok.inj hchecks] at hon
      cases hon
    refine behaves_utcnowIn.bind ?_
    rintro _ w₃ h₃ ⟨s, hVs, hs, hlt, rfl⟩
    obtain ⟨t, htime, hstamped⟩ := (htraced row rfl).creationTime
    refine (behaves_ofExcept fun e he => ?_).bind fun created w₄ h₄ hcreated => ?_
    · rw [htime, normalizeDbDate_utc] at he
      cases he
    rw [htime, normalizeDbDate_utc] at hcreated
    obtain rfl := Except.ok.inj hcreated
    refine Behaves.ite (fun hold => ?_) fun _ => behaves_pure trivial
    refine Behaves.bind (behaves_record (fun _ _ => trivial) fun t' ht' => ?_) fun _ w₅ h₅ _ =>
      behaves_raise ⟨fun name he => ?_, fun name he => ?_⟩
    · exact ⟨s.ticks, hlt.trans_le h₄.ticks, (Option.some.inj ht').symm⟩
    · exact absurd (PyExc.spasswordUnauthorized.inj he) (blockedMessage_ne_expiredMessage _ _).symm
    · have h₀₁ := trans_of Later hw h₁
      have h₃₅ := trans_of Later h₄ h₅
      have h₁₅ := trans_of Later h₂ (trans_of Later h₃ h₃₅)
      have hread : ReadClock V w₀ w₅ s.ticks :=
        ⟨s, hVs, trans_of Later h₀₁ (trans_of Later h₂ hs), rfl, hlt.trans_le h₃₅.ticks⟩
      exact ⟨henabled, hlisted, row, ⟨w₁, hV, h₀₁, h₁₅, hstored.symm⟩, t, s.ticks, htime,
        hstamped.later h₁₅.log, hread, hold⟩

theorem behaves_toPy (a : BaseAnswer) :
    Behaves clock V U (LoginRaises conf clock V u w₀) (atomic (BaseAnswer.toPy a)) Whatever w := by
  cases a with
  | raised what => exact behaves_reads (fun _ => rfl) fun s _ _ =>
      tolerant_loginRaises (.other what) s fun _ => by simp
  | _ => exact behaves_reads (fun _ => rfl) fun _ _ _ => trivial

theorem behaves_verdict (hw : Later w₀ w) (env : AuthEnv) (password : String) :
    Behaves clock V U (LoginRaises conf clock V u w₀)
      (Stepwise.Identity.verdict conf clock env u password) Whatever w := by
  have hbase : ∀ w', Later w₀ w' → Behaves clock V U (LoginRaises conf clock V u w₀)
      (Stepwise.Identity.baseAuthenticate conf clock env u password) Whatever w' := by
    intro w' hw'
    rw [Stepwise.Identity.baseAuthenticate]
    cases env.base u password with
    | answer a => exact behaves_toPy a
    | check a => exact (behaves_checkPassword hw').bind fun _ _ _ _ => behaves_toPy a
  by_cases hon : (conf.enabled && !decide (u ∈ conf.pwdUserBlacklist)) = true
  · rw [Stepwise.Identity.verdict, if_pos hon]
    simp only [Bool.and_eq_true, Bool.not_eq_true', decide_eq_false_iff_not] at hon
    refine (behaves_sessionIn u).bind fun ref w₁ h₁ href => ?_
    obtain ⟨hV, hstored, htraced⟩ := href
    have hw₁ := trans_of Later hw h₁
    have hfound : ∀ r, ref = some r → FoundRow V u r w₀ w₁ ∧ RowTraced u w₁.log r := fun r hr =>
      ⟨⟨w₁, hV, hw₁, refl_of Later w₁, hstored.symm.trans hr⟩, htraced r hr⟩
    exact (behaves_lockoutTest hw₁ hon.1 hon.2 hfound).bind fun _ w₂ h₂ _ =>
      hbase w₂ (trans_of Later hw₁ h₂)
  · rw [Stepwise.Identity.verdict, if_neg hon]
    exact hbase w hw

/-- A stored date is compared with a reading of the clock. -/
theorem behaves_insideWindow {E : PyExc → World → Prop} {stored : Option DateTime}
    (hnaive : ∀ date, stored = some date → ∃ s, date = .utc s) :
    Behaves clock V U E (atomic (insideWindow conf clock stored))
      (fun inside w' => inside = true →
        ∃ s n, stored = some (.utc s) ∧ ReadClock V w w' n ∧ clock n - conf.window < s) w := by
  refine behaves_step fun s' hs hI hV => ?_
  cases stored with
  | none => exact ⟨hI, refl_of Later s', Frames.of_users rfl, fun h => by cases h⟩
  | some date =>
    obtain ⟨s, rfl⟩ := hnaive date rfl
    have hrun : (insideWindow conf clock (some (.utc s))).run s' =
        .ok (decide (clock s'.ticks - conf.window < s)) s'.tick := rfl
    rw [final_of_run_ok hrun, answer_of_run_ok hrun]
    exact ⟨hI.tick, later_tick s', Frames.of_users rfl, fun hinside => ⟨s, s'.ticks, rfl,
      ⟨s', hV, hs, rfl, Nat.lt_succ_self _⟩, of_decide_eq_true hinside⟩⟩

section SecondFactor

variable {E : PyExc → World → Prop} {t : Time}

theorem behaves_sndfaCodeToMail (hE : Tolerant E) (env : AuthEnv)
    (hrow : RowTraced u w.log row) (hverdict : .baseVerdict u t true ∈ w.log) :
    Behaves clock V U E (Stepwise.Identity.sndfaCodeToMail conf clock env u row) Whatever w := by
  have hnaive : ∀ date, row.sndfaTimeCode = some date → ∃ s, date = .utc s := fun date hdate => by
    obtain ⟨c, s, rfl, -⟩ := hrow.sndfaTimeCode date hdate
    exact ⟨s, rfl⟩
  refine (behaves_insideWindow hnaive).bind fun _ w₁ h₁ _ =>
    Behaves.ite (fun _ => behaves_pure trivial) fun _ => ?_
  refine (behaves_getUser hE u).bind fun user w₂ h₂ huser => ?_
  rw [← huser] at hverdict
  exact (SPassword.behaves_setUserSndfaCode hE user.id env.uuid.code
    (h₂.mem (h₁.mem hverdict))).bind fun _ _ _ _ => behaves_pure trivial

theorem behaves_userEmail (hE : Tolerant E) :
    Behaves clock V U E (atomic (userEmail u)) Whatever w := by
  have hreads : Reads (userEmail u) := by
    refine (reads_getUser u).bind fun user => ?_
    cases user.email <;> exact fun _ => rfl
  refine behaves_reads hreads fun s _ _ => ?_
  have hanswer : (∃ address, answer (userEmail u) s = .ok address) ∨
      ∃ e, answer (userEmail u) s = .error e ∧ ∀ message, e ≠ .spasswordUnauthorized message := by
    cases huser : s.users u with
    | none => exact .inr ⟨.userNotFound u, by simp [answer, userEmail, run_getUser_none s huser],
        fun _ => by simp⟩
    | some userRecord =>
      cases hemail : userRecord.email with
      | none => exact .inr ⟨.keyError "email",
          by simp [answer, userEmail, run_getUser_some s huser, hemail], fun _ => by simp⟩
      | some address => exact .inl ⟨address,
          by simp [answer, userEmail, run_getUser_some s huser, hemail]⟩
  rcases hanswer with ⟨address, h⟩ | ⟨e, h, he⟩
  · rw [h]
    trivial
  · rw [h]
    exact hE e s he

/-- What lets a login through, or the message of its refusal. -/
def Passes (conf : Conf) (clock : ℕ → Time) (V : World → Prop) (u : String)
    (row : SPasswordModel) (w : World) : Option String → World → Prop
  | none, w' => conf.sndfa = true → row.sndfa = true →
    row.sndfaEmail = true ∧ ValidatedIn conf clock V u row w w'
  | some message, _ => message = expectingMessage ∨ message = notVerifiedMessage

theorem behaves_secondFactor (hE : Tolerant E) (env : AuthEnv) (hrow : RowTraced u w.log row)
    (hverdict : .baseVerdict u t true ∈ w.log) :
    Behaves clock V U E (Stepwise.Identity.secondFactor conf clock env u row)
      (Passes conf clock V u row w) w := by
  refine Behaves.ite (fun _ => Behaves.ite (fun hemail => ?_) fun _ => behaves_pure (.inr rfl))
    fun hoff => behaves_pure fun hsndfa hon => absurd (by simp [hsndfa, hon]) hoff
  have hnaive : ∀ date, row.sndfaLast = some date → ∃ s, date = .utc s := fun date hdate => by
    obtain ⟨s, rfl, -⟩ := hrow.sndfaLast date hdate
    exact ⟨s, rfl⟩
  refine (behaves_insideWindow hnaive).bind fun inside w₁ h₁ hinside =>
    Behaves.ite (fun hon => behaves_pure fun _ _ => ⟨hemail, ?_⟩) fun _ => ?_
  · obtain ⟨s, n, hlast, hn, hfresh⟩ := hinside hon
    obtain ⟨s', hs, hvalidated⟩ := hrow.sndfaLast _ hlast
    obtain rfl : s = s' := congrArg DateTime.wall hs
    exact ⟨s, n, hlast, hvalidated.later h₁.log, hn, hfresh⟩
  · refine (behaves_sndfaCodeToMail hE env (hrow.later h₁.log) (h₁.mem hverdict)).bind
      fun code w₂ _ _ => ?_
    refine (behaves_userEmail hE).bind fun address w₃ _ _ => ?_
    exact Behaves.bind (behaves_sendEmail hE fun _ _ _ => trivial) fun _ _ _ _ =>
      behaves_pure (.inl rfl)

end SecondFactor

/-! ### The attempt -/

/-- The columns that an attempt assigns. -/
theorem behaves_commitAttempt {E : PyExc → World → Prop} {row : SPasswordModel} {attempts : ℤ}
    {t : Time} {accepted : Bool} {noted : Py Unit} {new : List Event} (hE : Tolerant E)
    (hrow : RowTraced u w.log row) (hverdict : .baseVerdict u t accepted ∈ w.log)
    (hnonneg : 0 ≤ attempts) (hle : attempts ≤ rejections u w.log) (hnoted : Notes noted new)
    (htraced : ∀ log, w.log <:+ log → Justified Event.Traced log →
      Justified Event.Traced (new ++ log))
    (hread : ReadBefore clock w.ticks new) :
    Behaves clock V U E (commitUpdate u row
      { row with loginAttempts := attempts, lastLoginAttemptTime := some (.utc t) } noted)
      Whatever w := by
  refine Behaves.mono (behaves_commitUpdate hE hnoted (fun log hlog => ?_) htraced hread
    (.inl rfl)) fun _ _ _ _ => trivial
  have hlater := hlog.trans (List.suffix_append new log)
  exact (hrow.later hlater).attempted hnonneg
    (hle.trans (Int.ofNat_le.mpr (rejections_le hlater))) (hlater.mem hverdict)

/-- The attempt on a row that was read before the base driver's answer was noted. -/
theorem behaves_registeredAttempt (hw : Later w₀ w) (env : AuthEnv) (res : Option User) {t : Time}
    (hfound : FoundRow V u row w₀ w) (hrow : RowTraced u w.log row)
    (hverdict : .baseVerdict u t res.isSome ∈ w.log)
    (hcount : res = none → row.loginAttempts + 1 ≤ rejections u w.log)
    (hon : ∀ log, w.log <:+ log → OnSince u w₀ log → row.sndfa = true) :
    Behaves clock V U (LoginRaises conf clock V u w₀)
      (Stepwise.Identity.registeredAttempt conf clock env u row res (.utc t))
      (LoginReturns conf clock V u w₀) w := by
  refine (behaves_ofExcept fun e he => ?_).bind fun created w₁ h₁ _ => ?_
  · obtain ⟨t', htime, -⟩ := hrow.creationTime
    rw [htime, normalizeDbDate_utc] at he
    cases he
  have hrow₁ := hrow.later h₁.log
  cases res with
  | none =>
    have hnonneg := hrow.attempts_nonneg
    have hle := (hcount rfl).trans (Int.ofNat_le.mpr (rejections_le h₁.log))
    exact (behaves_commitAttempt tolerant_loginRaises hrow₁ (h₁.mem hverdict) (by omega) hle
      notes_pure (fun _ _ h => h) (readBefore_nil _)).bind fun _ _ _ _ =>
        behaves_raise loginRaises_invalid
  | some user =>
    have hpass : Behaves clock V U (LoginRaises conf clock V u w₀)
        (Stepwise.Identity.secondFactor conf clock env u row) (Passes conf clock V u row w₁) w₁ :=
      behaves_secondFactor tolerant_loginRaises env hrow₁ (h₁.mem hverdict)
    refine hpass.bind fun refusal w₂ h₂ hrefusal => ?_
    have hrow₂ := hrow₁.later h₂.log
    have hverdict₂ := h₂.mem (h₁.mem hverdict)
    cases refusal with
    | some message =>
      refine Behaves.bind (behaves_commitAttempt tolerant_loginRaises hrow₂ hverdict₂ (le_refl _)
        (Int.natCast_nonneg _) notes_pure (fun _ _ h => h) (readBefore_nil _)) fun _ _ _ _ =>
          behaves_raise ?_
      rcases hrefusal with rfl | rfl
      · exact loginRaises_of_message expectingMessage_take (by decide)
      · exact loginRaises_of_message notVerifiedMessage_take (by decide)
    | none =>
      refine Behaves.bind (behaves_commitAttempt tolerant_loginRaises hrow₂ hverdict₂ (le_refl _)
        (Int.natCast_nonneg _) (notes_record _) (fun log hlog h => ⟨⟨t, hlog.mem hverdict₂⟩, h⟩)
        (readBefore_of_undated rfl _)) fun _ w₃ h₃ _ => behaves_pure fun _ hsndfa hsince => ?_
      have hlater : Later w w₃ := trans_of Later h₁ (trans_of Later h₂ h₃)
      have hswitched : row.sndfa = true := hon w₃.log hlater.log hsince
      obtain ⟨hemail, hvalidated⟩ := hrefusal hsndfa hswitched
      refine ⟨⟨_, rfl, ?_, ?_⟩, row, hfound.mono (refl_of Later w₀) hlater,
        hvalidated.mono (trans_of Later hw h₁) h₃⟩
      · simp [registeredExtras, hsndfa, hswitched]
      · simp [registeredExtras, hsndfa, hemail]

/-- The attempt of a user who had no row when it was read. -/
theorem behaves_firstAttempt {res : Option User} {t : Time} {n : ℕ} (htime : t = clock n)
    (hn : n < w.ticks) (hverdict : .baseVerdict u t res.isSome ∈ w.log)
    (hon : ∀ log, w.log <:+ log → ¬ OnSince u w₀ log) :
    Behaves clock V U (LoginRaises conf clock V u w₀)
      (Stepwise.Identity.firstAttempt conf u res (.utc t)) (LoginReturns conf clock V u w₀) w := by
  refine (behaves_getUser tolerant_loginRaises u).bind fun user w₁ h₁ huser => ?_
  subst huser
  have hrow : ∀ log, w₁.log <:+ log → ∀ new, .rowRegistered user.id t ∈ new →
      RowTraced user.id (new ++ log) (firstRow user (.utc t) res) := fun log hlog new hmem =>
    rowTraced_firstRow user res (List.mem_append_right _ (hlog.mem (h₁.mem hverdict)))
      (List.mem_append_left _ hmem)
  have hregistered : ∀ log, w₁.log <:+ log → ∃ accepted, .baseVerdict user.id t accepted ∈ log :=
    fun log hlog => ⟨_, hlog.mem (h₁.mem hverdict)⟩
  have hread : ReadBefore clock w₁.ticks [.rowRegistered user.id t] :=
    readBefore_of_dated (congrArg some htime) (hn.trans_le h₁.ticks)
  cases res with
  | none =>
    exact Behaves.bind (behaves_insert tolerant_loginRaises rfl (notes_record _)
      (fun log hlog => hrow log hlog [_] List.mem_cons_self)
      (fun log hlog h => ⟨hregistered log hlog, h⟩) hread) fun _ _ _ _ =>
        behaves_raise loginRaises_invalid
  | some user' =>
    have hnoted : ∀ s : World, (do
        record (.rowRegistered user.id t)
        record (.token user.id (firstExtras conf user.id (.utc t))) : Py Unit).run s =
          .ok () { s with log := [.token user.id (firstExtras conf user.id (.utc t)),
            .rowRegistered user.id t] ++ s.log } := fun _ => rfl
    have hinsert : Behaves clock V U (LoginRaises conf clock V user.id w₀) (atomic do
        sessionInsert (firstRow user (.utc t) (some user'))
        record (.rowRegistered user.id t)
        record (.token user.id (firstExtras conf user.id (.utc t)))) Whatever w₁ := by
      refine behaves_insert tolerant_loginRaises rfl hnoted
        (fun log hlog => hrow log hlog _ (List.mem_cons_of_mem _ List.mem_cons_self))
        (fun log hlog h => ⟨⟨t, ?_⟩, hregistered log hlog, h⟩) fun e he t' ht' => ?_
      · exact List.mem_cons_of_mem _ (hlog.mem (h₁.mem hverdict))
      · rcases List.mem_cons.mp he with rfl | he
        · cases ht'
        · exact hread e he t' ht'
    refine Behaves.bind (p := atomic _) (A := Whatever) ?_ fun _ w₂ h₂ _ =>
      behaves_pure fun _ _ hsince => absurd hsince (hon w₂.log (h₁.log.trans h₂.log))
    rw [bind_assoc]
    exact hinsert

/-- A wrong password that was noted is one more. -/
theorem rejections_of_noted {log log' : List Event} {t : Time}
    (h : NotedSince log (.baseVerdict u t false) log') :
    rejections u log + 1 ≤ rejections u log' := by
  obtain ⟨older, hlog, hlog'⟩ := h
  have hcons : rejections u (.baseVerdict u t false :: older) = rejections u older + 1 := by
    simp [rejections, isFailure]
  have hle := rejections_le (u := u) hlog
  have hle' := rejections_le (u := u) hlog'
  omega

/-- The bookkeeping of a login, once the base driver has answered. -/
theorem behaves_attempt (hw : Later w₀ w) (env : AuthEnv) (res : Option User) :
    Behaves clock V U (LoginRaises conf clock V u w₀)
      (Stepwise.Identity.attempt conf clock env u res) (LoginReturns conf clock V u w₀) w := by
  refine Behaves.ite (fun _ => ?_) fun hoff => ?_
  · refine (behaves_sessionIn u).bind fun ref w₁ h₁ href => ?_
    obtain ⟨hV, href⟩ := href
    have hnoted : Behaves clock V U (LoginRaises conf clock V u w₀) (atomic do
        let now ← utcnow clock
        record (.baseVerdict u now.wall res.isSome)
        return now) (fun now w' => ∃ n, n < w'.ticks ∧ now = .utc (clock n) ∧
          NotedSince w₁.log (.baseVerdict u (clock n) res.isSome) w'.log) w₁ := by
      refine behaves_atomic fun s hs hI => ?_
      refine ⟨hI.tick.noted trivial fun t ht => ?_,
        trans_of Later (later_tick s) (later_note _ _), Frames.of_users rfl, s.ticks,
        Nat.lt_succ_self _, rfl, s.log, hs.log, List.suffix_refl _⟩
      exact ⟨s.ticks, Nat.lt_succ_self _, (Option.some.inj ht).symm⟩
    refine hnoted.bind ?_
    rintro _ w₂ h₂ ⟨n, hn, rfl, hverdict⟩
    have hswitched : ∀ log, w₂.log <:+ log → OnSince u w₀ log → SwitchedOn u w₁ :=
      fun log hlog hon => (trans_of Later hw h₁).switchedOn u (hon.earlier (h₂.log.trans hlog))
    cases ref with
    | none =>
      refine behaves_firstAttempt rfl hn hverdict.mem fun log hlog hon => ?_
      obtain ⟨row, hrow, -⟩ := hswitched log hlog hon
      rw [← href.1] at hrow
      cases hrow
    | some row =>
      have hrow := href.2 row rfl
      have hfound : FoundRow V u row w₀ w₂ := ⟨w₁, hV, trans_of Later hw h₁, h₂, href.1.symm⟩
      refine behaves_registeredAttempt (trans_of Later hw (trans_of Later h₁ h₂)) env res hfound
        (hrow.later h₂.log) hverdict.mem (fun hres => ?_) fun log hlog hon => ?_
      · subst hres
        have hcount := rejections_of_noted hverdict
        have hattempts := hrow.attempts_le
        omega
      · obtain ⟨row', hrow', hsndfa⟩ := hswitched log hlog hon
        rw [← href.1] at hrow'
        rw [Option.some.inj hrow']
        exact hsndfa
  · cases res with
    | some user => exact behaves_pure fun henabled => absurd henabled hoff
    | none => exact behaves_raise loginRaises_invalid

/-- **A login keeps the database accounted for**, and what it answers is true. -/
theorem behaves_authenticate (hw : Later w₀ w) (env : AuthEnv) (password : String) :
    Behaves clock V U (LoginRaises conf clock V u w₀)
      (Stepwise.Identity.authenticate conf clock env u password)
      (LoginReturns conf clock V u w₀) w :=
  (behaves_verdict hw env password).bind fun res _ h _ =>
    behaves_attempt (trans_of Later hw h) env res

end Steps

/-! ### The calls of a deployment -/

/-- What a call may answer that was made in the state `origin` and has taken its steps in states of
`V`. -/
def Call.post (clock : ℕ → Time) (V : World → Prop) (call : Call) (origin : World) :
    Except PyExc (Option AuthResult) → World → Prop :=
  match call.op with
  | .authenticate u _ _ => fun
    | .ok (some result) => LoginReturns call.conf clock V u origin result
    | .ok none => fun _ => True
    | .error e => LoginRaises call.conf clock V u origin e
  | _ => fun _ _ => True

theorem Call.post_later (call : Call) (origin : World)
    (a : Except PyExc (Option AuthResult)) (w w' : World) (hw : Later w w')
    (h : call.post clock V origin a w) : call.post clock V origin a w' := by
  rcases call with ⟨conf, op⟩
  cases op with
  | authenticate u password env =>
    rcases a with e | result
    · exact LoginRaises.later h hw
    · cases result with
      | none => trivial
      | some result => exact LoginReturns.later h hw
  | _ => trivial

theorem Behaves.unanswered {p : Steps α} (h : Behaves clock V U Whatever p Whatever w) :
    Process.Sound (Accounted clock) Later V U (fun _ _ => True)
      (KeystoneSpassword.unanswered p) w :=
  Process.Sound.mono (h.bind fun _ _ _ _ => behaves_pure (A := Whatever) trivial)
    fun _ _ _ => trivial

/-- The call is a user event of the user. -/
def Op.ChangesRecord (u : String) : Op → Prop
  | .createUser v _ | .updateUser v _ | .deleteUser v => v = u
  | _ => False

/-- Which passwords a step of the call may change: that of the user whose record the call changes,
and that of the user of a reset, to the one it has drawn, once its code has been noted as
matched. -/
def Call.MayChange (call : Call) (s s' : World) : Prop :=
  ∀ u, passwordOf s' u ≠ passwordOf s u → call.op.ChangesRecord u ∨
    ∃ code newPassword fault server,
      call.op = .request (.resetPassword u code newPassword fault server) ∧
        .emailCodeChecked u code true ∈ s.log ∧ passwordOf s' u = some newPassword.password

instance (call : Call) : Frames call.MayChange where
  of_users {s s'} husers u hne := absurd (show passwordOf s' u = passwordOf s u by
    rw [passwordOf, husers, passwordOf]) hne

/-- A step that changes the record of one user changes no other password. -/
theorem eq_of_passwordOf_ne {s s' : World} {record : Option UserRecord} {v : String}
    (husers : s'.users = Function.update s.users u record)
    (hne : passwordOf s' v ≠ passwordOf s v) : u = v := by
  by_contra hv
  refine hne ?_
  rw [passwordOf, husers, Function.update_of_ne (Ne.symm hv), passwordOf]

/-- Every call keeps the database accounted for, changes the passwords it may change, and what it
answers is true. -/
theorem Call.sound (call : Call) (w : World) :
    (call.process clock).Sound (Accounted clock) Later V call.MayChange (call.post clock V w)
      w := by
  rcases call with ⟨conf, op⟩
  cases op with
  | authenticate u password env =>
    refine Process.Sound.mono ((behaves_authenticate (refl_of Later w) env password).bind
      (B := fun a w' => ∃ result, a = some result ∧ LoginReturns conf clock V u w result w')
      fun result _ _ h => behaves_pure ⟨result, rfl, h⟩) fun a w' h => ?_
    rcases a with e | result
    · exact h
    · obtain ⟨result', rfl, h⟩ := h
      exact h
  | createUser u userRecord =>
    exact (IdentityApi.behaves_createUser u userRecord fun s s' husers v hne =>
      .inl (eq_of_passwordOf_ne husers hne)).unanswered
  | updateUser u userRecord =>
    exact (IdentityApi.behaves_updateUser u _ fun s s' old _ husers v hne =>
      .inl (eq_of_passwordOf_ne husers hne)).unanswered
  | deleteUser u =>
    exact (IdentityApi.behaves_deleteUser u fun s s' husers v hne =>
      .inl (eq_of_passwordOf_ne husers hne)).unanswered
  | userModifySndfa u enable =>
    exact (SPassword.behaves_modifySndfa tolerant_whatever u enable).unanswered
  | userGetSndfa u => exact (behaves_readsAny (reads_getSndfa u)).unanswered
  | userAskCheckEmailCode u uuid =>
    exact (SPasswordManager.behaves_userAskCheckEmailCode .manager u uuid).unanswered
  | userCheckEmailCode u code =>
    exact ((SPassword.behaves_checkEmailCode tolerant_whatever u code).mono
      fun _ _ _ _ => trivial).unanswered
  | alreadyUserCheckEmail u => exact (behaves_readsAny (reads_alreadyEmailChecked u)).unanswered
  | userCheckSndfaCode u code =>
    exact (SPassword.behaves_checkSndfaCode tolerant_whatever u code).unanswered
  | userModifyBlack u enable =>
    exact (SPassword.behaves_modifyBlack tolerant_whatever u enable).unanswered
  | userGetBlack u => exact (behaves_readsAny (reads_getBlack u)).unanswered
  | userGetPwdExpiration u => exact (behaves_readsAny (reads_getPwdExpiration u)).unanswered
  | request r =>
    refine (behaves_request r ?_).unanswered
    rintro u code newPassword fault server rfl s s' old hchecked husers v hne
    obtain rfl := eq_of_passwordOf_ne husers hne
    refine .inr ⟨code, newPassword, fault, server, rfl, hchecked, ?_⟩
    rw [passwordOf, husers, Function.update_self]
    rfl

/-- The deployment that starts on these users and takes these turns. -/
def Deployment.after (clock : ℕ → Time) (users : String → Option UserRecord)
    (turns : List (Turn Call)) : Deployment :=
  Machine.run (Deployment.turn clock) ⟨.initial users, []⟩ turns

/-- The `k`-th call of this deployment takes one of its steps in this state. -/
def Deployment.ActsIn (clock : ℕ → Time) (users : String → Option UserRecord)
    (turns : List (Turn Call)) (k : ℕ) : World → Prop :=
  Pool.ActsIn (Call.process clock) ⟨.initial users, []⟩ turns k

/-- **In every deployment** the database is accounted for, the calls in progress change the
passwords they may change, and every answer that has been given is true, of the states in which the
call has taken its steps. -/
theorem Deployment.sound_after (clock : ℕ → Time) (users : String → Option UserRecord)
    {turns : List (Turn Call)} {V : ℕ → World → Prop}
    (hV : ∀ k s, Deployment.ActsIn clock users turns k s → V k s) :
    (Deployment.after clock users turns).Sound (Accounted clock) Later V Call.MayChange
      (fun k => Call.post clock (V k)) := by
  have hinit : Pool.Sound (Accounted clock) Later V Call.MayChange
      (fun k => Call.post clock (V k)) (⟨.initial users, []⟩ : Deployment) :=
    ⟨accounted_initial clock users, fun k e he => by cases he⟩
  exact hinit.run (fun _ => Call.post_later) (fun _ call w _ => call.sound w) hV

theorem Deployment.Reachable.accounted {d : Deployment} (h : d.Reachable clock) :
    Accounted clock d.state := by
  obtain ⟨users, turns, rfl⟩ := h
  exact (Deployment.sound_after clock users (V := fun _ _ => True) fun _ _ _ => trivial).state

/-- A turn leaves the state alone, or it is a step of a call that does what the call may do. -/
theorem Deployment.Reachable.turn_cases {d : Deployment} (h : d.Reachable clock) (t : Turn Call) :
    (Deployment.turn clock d t).state = d.state ∨
      ∃ k call, t = .act k ∧ (d.entries.map Entry.call)[k]? = some call ∧
        call.MayChange d.state (Deployment.turn clock d t).state := by
  obtain ⟨users, turns, hd⟩ := h
  have hsound : d.Sound (Accounted clock) Later (fun _ _ => True) Call.MayChange
      (fun _ => Call.post clock fun _ => True) := by
    rw [hd]
    exact Deployment.sound_after clock users fun _ _ _ => trivial
  cases t with
  | start call => exact .inl rfl
  | act k =>
    rw [Deployment.turn, Pool.turn]
    split
    · rename_i call origin next rest hk
      refine .inr ⟨k, call, rfl, ?_, hsound.act hk trivial⟩
      rw [List.getElem?_map, hk]
      rfl
    all_goals exact .inl rfl

end KeystoneSpassword
