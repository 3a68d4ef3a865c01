import KeystoneSpassword.Outcomes

/-!
# The refusal of an unverified email

`authenticate` refuses a correct password with the message `notVerifiedMessage` when the row asks
for a second factor and the email is not verified. This file says that it raises that message for
no other reason: the other refusals begin with other words, and no other exception is a refusal.

## Main definitions

* `UnverifiedRefusal`, `WaitsUnverified`

## Main results

* `unverifiedRefusal_iff`
-/

namespace KeystoneSpassword

open StateProgram

variable {conf : Conf} {clock : ℕ → Time} {w : World} {u password : String}

/-- The login is refused because the email is not verified. -/
def UnverifiedRefusal (conf : Conf) (clock : ℕ → Time) (w : World) (u password : String)
    (env : AuthEnv) : Prop :=
  ∃ w', (Identity.authenticate conf clock env u password).run w =
    .error (.spasswordUnauthorized Identity.notVerifiedMessage) w'

/-- The extension is on, the row asks for a second factor, and its email is not verified. -/
def WaitsUnverified (conf : Conf) (w : World) (u : String) : Prop :=
  conf.enabled = true ∧ ∃ row, w.spassword u = some row ∧ row.creationTime ≠ none ∧
    Identity.WantsSndfa conf row ∧ row.sndfaEmail = false

/-- The password is correct, and neither the lockout test nor the expiry test refuses it. -/
def PasswordAccepted (conf : Conf) (clock : ℕ → Time) (w : World) (u password : String)
    (env : AuthEnv) : Prop :=
  ∃ user w', (Identity.verdict conf clock env u password).run w = .ok (some user) w'

namespace Identity

/-! ### The words of the refusals -/

theorem take_toList (c d : Char) (cs : List Char) (s : String) :
    (String.ofList (c :: d :: cs) ++ s).toList.take 2 = [c, d] := by simp

theorem take_toList_append (c d : Char) (cs : List Char) (s t : String) :
    (String.ofList (c :: d :: cs) ++ s ++ t).toList.take 2 = [c, d] := by simp

theorem ne_of_take {s t : String} {cs ds : List Char} (hs : s.toList.take 2 = cs)
    (ht : t.toList.take 2 = ds) (hne : cs ≠ ds) : s ≠ t := by
  rintro rfl
  exact hne (hs.symm.trans ht)

theorem notVerifiedMessage_take : notVerifiedMessage.toList.take 2 = ['E', 'm'] := by
  unfold notVerifiedMessage
  exact take_toList 'E' 'm' _ _

theorem expectingMessage_take : expectingMessage.toList.take 2 = ['E', 'x'] := by
  unfold expectingMessage
  exact take_toList 'E' 'x' _ _

theorem invalidMessage_take : invalidMessage.toList.take 2 = ['I', 'n'] := by
  have htake : (invalidMessage ++ "").toList.take 2 = ['I', 'n'] := take_toList 'I' 'n' _ _
  rwa [String.append_empty] at htake

theorem blockedMessage_take (userName : Option String) :
    (blockedMessage userName).toList.take 2 = ['P', 'a'] :=
  take_toList_append 'P' 'a' _ _ _

theorem expiredMessage_take (userName : Option String) :
    (expiredMessage userName).toList.take 2 = ['P', 'a'] :=
  take_toList_append 'P' 'a' _ _ _

/-! ### What can be raised -/

/-- The exception is the refusal only if `C` holds. -/
def Blames (C : Prop) (e : PyExc) : Prop := e = .spasswordUnauthorized notVerifiedMessage → C

/-- The program raises the refusal only if `C` holds. -/
abbrev Blaming {α : Type} (C : Prop) (m : Py α) : Prop :=
  Ensures (fun _ => True) (fun _ => True) (Blames C) m

section Programs

variable {C : Prop}

theorem blames_of_message {message : String} {cs : List Char} (h : message.toList.take 2 = cs)
    (hne : cs ≠ ['E', 'm']) : Blames C (.spasswordUnauthorized message) := fun he =>
  absurd (PyExc.spasswordUnauthorized.inj he) (ne_of_take h notVerifiedMessage_take hne)

/-- A program that never raises. -/
theorem blaming_of_ok {α : Type} {m : Py α} (h : ∀ w, ∃ a w', m.run w = .ok a w') :
    Blaming C m := by
  intro w _
  obtain ⟨a, w', hrun⟩ := h w
  rw [hrun]
  exact ⟨trivial, trivial⟩

theorem blaming_ofExcept {α : Type} {x : Except PyExc α} (h : ∀ e, x = .error e → Blames C e) :
    Blaming C (ofExcept x) := by
  cases x with
  | ok a => exact ensures_pure trivial
  | error e => exact ensures_throw (h e rfl)

theorem blaming_normalizeDbDate (stored : Option DateTime) :
    Blaming C (ofExcept (normalizeDbDate stored)) := by
  refine blaming_ofExcept fun e he => ?_
  cases stored with
  | none =>
    cases he
    exact fun h => by cases h
  | some date =>
    rw [normalizeDbDate_some] at he
    cases he

theorem blaming_getUser (v : String) : Blaming C (getUser v) := by
  intro w _
  cases huser : w.users v with
  | none =>
    rw [run_getUser_none w huser]
    exact ⟨trivial, fun h => by cases h⟩
  | some userRecord =>
    rw [run_getUser_some w huser]
    exact ⟨trivial, trivial⟩

theorem pyEval_error {s : String} {e : PyExc} (h : pyEval s = .error e) : e = .other "eval" := by
  rw [pyEval] at h
  split_ifs at h
  cases h
  rfl

theorem checksExpiry_error {row : SPasswordModel} {e : PyExc}
    (h : checksExpiry conf u row = .error e) : e = .other "eval" := by
  simp only [checksExpiry, SPasswordModel.extra_mem_keys, if_true] at h
  split_ifs at h
  cases hlookup : row.extra.lookup "black" with
  | none =>
    rw [hlookup] at h
    cases h
  | some black =>
    rw [hlookup] at h
    cases heval : pyEval black with
    | ok b =>
      simp [heval, Except.map] at h
    | error e' =>
      obtain rfl : e' = e := by simpa [heval, Except.map] using h
      exact pyEval_error heval

theorem blaming_lockoutTest (row : Option SPasswordModel) :
    Blaming C (lockoutTest conf clock u row) := by
  cases row with
  | none => exact ensures_pure trivial
  | some row =>
    refine Ensures.ite (fun _ => ?_) fun _ => ensures_pure trivial
    refine (blaming_normalizeDbDate _).bind fun last _ => ?_
    refine (blaming_of_ok fun w => ⟨_, _, run_utcnow w clock⟩).bind fun now _ => ?_
    refine Ensures.ite (fun _ => ?_) fun _ => ensures_pure trivial
    exact (blaming_of_ok fun w => ⟨_, _, run_record w _⟩).bind fun _ _ =>
      ensures_throw (blames_of_message (blockedMessage_take _) (by decide))

theorem blaming_checkPassword : Blaming C (checkPassword conf clock u) := by
  refine Ensures.ite (fun _ => ?_) fun _ => ensures_pure trivial
  refine (blaming_of_ok fun w => ⟨_, _, run_getSpasswordSession w u⟩).bind fun row _ => ?_
  cases row with
  | none => exact ensures_pure trivial
  | some row =>
    refine (blaming_ofExcept fun e he => ?_).bind fun checks _ => ?_
    · rw [checksExpiry_error he]
      exact fun h => by cases h
    · refine Ensures.ite (fun _ => ?_) fun _ => ensures_pure trivial
      refine (blaming_of_ok fun w => ⟨_, _, run_utcnow w clock⟩).bind fun now _ => ?_
      refine (blaming_normalizeDbDate _).bind fun created _ => ?_
      refine Ensures.ite (fun _ => ?_) fun _ => ensures_pure trivial
      exact (blaming_of_ok fun w => ⟨_, _, run_record w _⟩).bind fun _ _ =>
        ensures_throw (blames_of_message (expiredMessage_take _) (by decide))

theorem blaming_toPy (a : BaseAnswer) : Blaming C (BaseAnswer.toPy a) := by
  cases a with
  | user user => exact ensures_pure trivial
  | assertionError => exact ensures_pure trivial
  | raised what => exact ensures_throw fun h => by cases h

theorem blaming_verdict (env : AuthEnv) : Blaming C (verdict conf clock env u password) := by
  have hbase : Blaming C (baseAuthenticate conf clock env u password) := by
    rw [baseAuthenticate]
    cases env.base u password with
    | answer a => exact blaming_toPy a
    | check a => exact blaming_checkPassword.bind fun _ _ => blaming_toPy a
  refine Ensures.ite (fun _ => ?_) fun _ => hbase
  refine (blaming_of_ok fun w => ⟨_, _, run_getSpasswordSession w u⟩).bind fun row _ => ?_
  exact (blaming_lockoutTest row).bind fun _ _ => hbase

theorem blaming_sessionInsert (row : SPasswordModel) : Blaming C (sessionInsert row) := by
  intro w _
  cases hrow : w.spassword row.userId with
  | none =>
    rw [run_sessionInsert w hrow]
    exact ⟨trivial, trivial⟩
  | some row' =>
    have hrun : (sessionInsert row).run w = .error .integrityError w := by
      simp [sessionInsert, hrow]
    rw [hrun]
    exact ⟨trivial, fun h => by cases h⟩

theorem blaming_insideWindow (stored : Option DateTime) :
    Blaming C (insideWindow conf clock stored) := by
  refine blaming_of_ok fun w => ?_
  by_cases hfresh : Fresh conf stored (clock w.ticks)
  · exact ⟨_, _, run_insideWindow_of_fresh hfresh⟩
  · obtain ⟨n, hn⟩ := run_insideWindow_of_not_fresh hfresh
    exact ⟨_, _, hn⟩

theorem blaming_sndfaCodeToMail (env : AuthEnv) (row : SPasswordModel) :
    Blaming C (sndfaCodeToMail conf clock env u row) := by
  refine (blaming_insideWindow _).bind fun fresh _ => ?_
  refine Ensures.ite (fun _ => ensures_pure trivial) fun _ => ?_
  refine (blaming_getUser u).bind fun user _ => ?_
  refine (blaming_of_ok fun w => ?_).bind fun _ _ => ensures_pure trivial
  cases hrow : w.spassword user.id with
  | none => exact ⟨(), w, by simp [SPassword.setUserSndfaCode, hrow]⟩
  | some row =>
    rcases Classical.em (row.sndfa = true ∧ row.sndfaEmail = true) with hon | hon
    · exact ⟨(), _, by simp [SPassword.setUserSndfaCode, hrow, hon.1, hon.2]; rfl⟩
    · exact ⟨(), w, by simp [SPassword.setUserSndfaCode, hrow, hon]⟩

theorem blaming_userEmail : Blaming C (userEmail u) := by
  refine (blaming_getUser u).bind fun user _ => ?_
  cases user.email with
  | none => exact ensures_throw fun h => by cases h
  | some email => exact ensures_pure trivial

theorem blaming_sendEmail (server : SmtpServer) (mail : Mail) :
    Blaming C (SendMail.sendEmail conf server u mail) := by
  refine (blaming_of_ok fun w => ⟨_, _, run_record w _⟩).bind fun _ _ => ?_
  refine blaming_ofExcept fun e he => ?_
  obtain ⟨what, rfl⟩ := SendMail.delivery_error he
  exact fun h => by cases h

/-- The second factor answers with the refusal only on a row that waits unverified. -/
theorem ensures_secondFactor_refusal (env : AuthEnv) (row : SPasswordModel) :
    Ensures (fun _ => True) (fun refusal => refusal = some notVerifiedMessage →
      WantsSndfa conf row ∧ row.sndfaEmail = false) (Blames C)
      (secondFactor conf clock env u row) := by
  refine Ensures.ite (fun hwants => ?_) fun _ => ensures_pure fun h => by cases h
  have hwants : WantsSndfa conf row := by simpa [WantsSndfa] using hwants
  refine Ensures.ite (fun _ => ?_) fun hemail => ?_
  · refine (blaming_insideWindow _).bind fun signed _ => ?_
    refine Ensures.ite (fun _ => ensures_pure fun h => by cases h) fun _ => ?_
    refine (blaming_sndfaCodeToMail env row).bind fun code _ => ?_
    refine blaming_userEmail.bind fun address _ => ?_
    refine (blaming_sendEmail env.server _).bind fun _ _ => ensures_pure fun h => ?_
    exact absurd (Option.some.inj h)
      (ne_of_take expectingMessage_take notVerifiedMessage_take (by decide))
  · exact ensures_pure fun _ => ⟨hwants, Bool.eq_false_iff.mpr hemail⟩

theorem blaming_registeredAttempt (env : AuthEnv) (row : SPasswordModel) (res : Option User)
    (now : DateTime) :
    Blaming (res.isSome ∧ row.creationTime ≠ none ∧ WantsSndfa conf row ∧ row.sndfaEmail = false)
      (registeredAttempt conf clock env u row res now) := by
  rw [registeredAttempt]
  cases htime : row.creationTime with
  | none =>
    refine Ensures.bind (Q := fun _ => False) ?_ fun _ h => h.elim
    rw [normalizeDbDate_none]
    intro w _
    exact ⟨trivial, fun h => by cases h⟩
  | some created =>
    refine (blaming_normalizeDbDate _).bind fun _ _ => ?_
    cases res with
    | none =>
      exact (blaming_of_ok fun w => ⟨_, _, run_sessionUpdate w u _⟩).bind fun _ _ =>
        ensures_throw (blames_of_message invalidMessage_take (by decide))
    | some user =>
      refine (ensures_secondFactor_refusal env row).bind fun refusal hrefusal => ?_
      refine (blaming_of_ok fun w => ⟨_, _, run_sessionUpdate w u _⟩).bind fun _ _ => ?_
      cases refusal with
      | none =>
        exact (blaming_of_ok fun w => ⟨_, _, run_record w _⟩).bind fun _ _ => ensures_pure trivial
      | some message =>
        refine ensures_throw fun he => ⟨rfl, by simp, hrefusal ?_⟩
        rw [PyExc.spasswordUnauthorized.inj he]

theorem blaming_firstAttempt (res : Option User) (now : DateTime) :
    Blaming C (firstAttempt conf u res now) := by
  refine (blaming_getUser u).bind fun user _ => (blaming_sessionInsert _).bind fun _ _ => ?_
  refine (blaming_of_ok fun w => ⟨_, _, run_record w _⟩).bind fun _ _ => ?_
  cases res with
  | none => exact ensures_throw (blames_of_message invalidMessage_take (by decide))
  | some user =>
    exact (blaming_of_ok fun w => ⟨_, _, run_record w _⟩).bind fun _ _ => ensures_pure trivial

end Programs

/-- The first part of a login writes no row. -/
theorem verdict_keeps (env : AuthEnv) (res : Option User) (w₁ : World)
    (hres : (verdict conf clock env u password).run w = .ok res w₁) :
    w₁.spassword = w.spassword := by
  cases henabled : conf.enabled with
  | true =>
    have houtcome : VerdictOutcome conf clock w u ((verdict conf clock env u password).run w) :=
      verdict_outcome henabled env w u password
    rw [hres] at houtcome
    cases houtcome with
    | answered _ n _ => rfl
  | false =>
    rw [run_verdict_of_disabled henabled] at hres
    rcases BaseAnswer.run_toPy (env.base u password).own w with ⟨e, h⟩ | ⟨res', h⟩
    · rw [h] at hres
      cases hres
    · rw [h] at hres
      cases hres
      rfl

theorem blaming_attempt_of_disabled {C : Prop} (hoff : conf.enabled = false) (env : AuthEnv)
    (res : Option User) : Blaming C (attempt conf clock env u res) := by
  refine Ensures.ite (fun henabled => by rw [hoff] at henabled; cases henabled) fun _ => ?_
  cases res with
  | none => exact ensures_throw (blames_of_message invalidMessage_take (by decide))
  | some user => exact ensures_pure trivial

/-- A row that waits unverified is what a refused login has read. -/
theorem waits_of_refusal (env : AuthEnv) (res : Option User) {w' : World}
    (hrun : (attempt conf clock env u res).run w =
      .error (.spasswordUnauthorized notVerifiedMessage) w') :
    res.isSome ∧ WaitsUnverified conf w u := by
  cases henabled : conf.enabled with
  | false =>
    exact ((blaming_attempt_of_disabled (C := False) henabled env res).raises trivial hrun rfl).elim
  | true =>
    rw [run_attempt henabled] at hrun
    cases hrow : w.spassword u with
    | none =>
      rw [hrow] at hrun
      exact ((blaming_firstAttempt (C := False) res _).raises trivial hrun rfl).elim
    | some row =>
      rw [hrow] at hrun
      obtain ⟨hsome, htime, hwants, hemail⟩ :=
        (blaming_registeredAttempt env row res _).raises trivial hrun rfl
      exact ⟨hsome, henabled, row, hrow, htime, hwants, hemail⟩

end Identity

open Identity in
/-- **The refusal of an unverified email.** A login is refused for it if and only if its password is
accepted while the row asks for a second factor and its email is not verified. -/
theorem unverifiedRefusal_iff (env : AuthEnv) :
    UnverifiedRefusal conf clock w u password env ↔
      PasswordAccepted conf clock w u password env ∧ WaitsUnverified conf w u := by
  constructor
  · rintro ⟨w', hrun⟩
    rw [authenticate, EStateM.run_bind] at hrun
    have hsame : ∀ res w₁, (verdict conf clock env u password).run w = .ok res w₁ →
        w₁.spassword = w.spassword := verdict_keeps env
    cases hres : (verdict conf clock env u password).run w with
    | error e w₁ =>
      rw [hres] at hrun
      cases hrun
      exact ((blaming_verdict (C := False) env).raises trivial hres rfl).elim
    | ok res w₁ =>
      rw [hres] at hrun
      obtain ⟨hsome, henabled, row, hrow, hrest⟩ := waits_of_refusal env res hrun
      obtain ⟨user, rfl⟩ := Option.isSome_iff_exists.mp hsome
      rw [hsame _ _ hres] at hrow
      exact ⟨⟨user, w₁, hres⟩, henabled, row, hrow, hrest⟩
  · rintro ⟨⟨user, w₁, hres⟩, henabled, row, hrow, htime, hwants, hemail⟩
    obtain ⟨created, hcreated⟩ := Option.ne_none_iff_exists'.mp htime
    have hrow₁ : w₁.spassword u = some row := by rw [verdict_keeps env _ _ hres, hrow]
    have hsecond : (secondFactor conf clock env u row).run (afterVerdict clock w₁ u true) =
        .ok (some notVerifiedMessage) (afterVerdict clock w₁ u true) :=
      run_secondFactor_of_unverified hwants hemail
    refine ⟨clearAttempts (afterVerdict clock w₁ u true) u (clock w₁.ticks), ?_⟩
    rw [authenticate, EStateM.run_bind, hres]
    dsimp only
    rw [run_attempt henabled, hrow₁, recordAttempt, registeredAttempt]
    simp only [hcreated, normalizeDbDate_some, EStateM.run_bind, run_ofExcept_ok,
      Option.isSome_some, hsecond, run_sessionUpdate, run_throw]
    rfl

end KeystoneSpassword
