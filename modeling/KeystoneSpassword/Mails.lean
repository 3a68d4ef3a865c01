import KeystoneSpassword.Invariants

/-!
# What is mailed

Four calls send a mail: a login that waits for the second factor, a recovery, a reset, and a
request for a check code. `Op.Mails` says for each of them what the mail carries, and `step_posts`
that no call mails anything else.

## Main definitions

* `GrowsBy` — the history grows by events with a property
* `Op.Mails`, `Op.Posts` — the mails of a call

## Main results

* `Identity.authenticate_log` — the one mail of a login, with what had to be the case
* `step_posts` — a call mails what it is to mail
-/

namespace KeystoneSpassword

open StateProgram Relation

variable {conf : Conf} {clock : ℕ → Time} {w w' : World} {u : String}

/-! ### Growing histories -/

/-- The history grows by events in `Q`. -/
def GrowsBy (Q : Event → Prop) (w w' : World) : Prop :=
  ∃ new, w'.log = new ++ w.log ∧ ∀ e ∈ new, Q e

instance (Q : Event → Prop) : IsPreorder World (GrowsBy Q) where
  refl _ := ⟨[], rfl, by simp⟩
  trans _ _ _ h₁ h₂ := by
    obtain ⟨new₁, hlog₁, hnew₁⟩ := h₁
    obtain ⟨new₂, hlog₂, hnew₂⟩ := h₂
    refine ⟨new₂ ++ new₁, by rw [hlog₂, hlog₁, List.append_assoc], fun e he => ?_⟩
    rcases List.mem_append.mp he with he | he
    · exact hnew₂ e he
    · exact hnew₁ e he

theorem GrowsBy.mono {Q Q' : Event → Prop} (h : GrowsBy Q w w') (hQ : ∀ e, Q e → Q' e) :
    GrowsBy Q' w w' := by
  obtain ⟨new, hlog, hnew⟩ := h
  exact ⟨new, hlog, fun e he => hQ e (hnew e he)⟩

/-- Moves whose policy admits only such events. -/
theorem GrowsBy.of_moves {stores : World → String → Option UserRecord → Prop}
    {presents : World → String → String → Prop} {Q : Event → Prop}
    (h : Moves clock ⟨stores, presents, Q⟩ u w w') : GrowsBy Q w w' := by
  obtain ⟨new, hlog, hnew⟩ := h.log_eq
  exact ⟨new, hlog, fun e he => (hnew e he).2⟩

theorem growsBy_record {Q : Event → Prop} {e : Event} (h : Q e) :
    Within (GrowsBy Q) (record e) := fun _ => ⟨[e], rfl, by simpa using h⟩

theorem growsBy_sendEmail {Q : Event → Prop} (server : SmtpServer) {mail : Mail}
    (h : ∀ handed, Q (.mailed u mail handed)) :
    Within (GrowsBy Q) (SendMail.sendEmail conf server u mail) :=
  (growsBy_record (h _)).bind fun _ => (reads_ofExcept _).within

/-! ### The mails of a call -/

/-- What a call may mail, and to whom. -/
def Op.Mails (conf : Conf) : Op → String → MailContent → Prop
  | .authenticate u _ _, v, content =>
    v = u ∧ ∃ code, content = .sndfaCode code (Identity.sndfaLink conf u code)
  | .request (.recoverPassword u uuid _), v, content =>
    v = u ∧ content = .resetPassword uuid.code
      (SPasswordResource.codeLink conf "reset_password" u uuid.code)
  | .request (.resetPassword u _ newPassword _ _), v, content =>
    v = u ∧ content = .newPassword newPassword.password
  | .request (.askForCheckEmailCode u uuid _ _), v, content =>
    v = u ∧ content = .checkEmail uuid.code
      (SPasswordResource.codeLink conf "checkemail" u uuid.code)
  | _, _, _ => False

/-- The event is no mail, or a mail of the call. -/
def Op.Posts (conf : Conf) (op : Op) : Event → Prop
  | .mailed u mail _ => op.Mails conf u mail.content
  | _ => True

/-- The event is no mail. -/
def Event.Silent : Event → Prop
  | .mailed _ _ _ => False
  | _ => True

theorem Op.posts_of_silent (op : Op) {e : Event} (h : e.Silent) : op.Posts conf e := by
  cases e with
  | mailed _ _ _ => exact h.elim
  | _ => trivial

/-- Parts of a handler that mail nothing. -/
theorem growsBy_of_silent (op : Op) (h : GrowsBy Event.Silent w w') :
    GrowsBy (op.Posts conf) w w' := h.mono fun _ he => op.posts_of_silent he

/-- Nothing is restricted but the events. -/
def silentPolicy : Policy := ⟨fun _ _ _ => True, fun _ _ _ => True, Event.Silent⟩

theorem silent_checkEmailCode (code : String) :
    Within (GrowsBy Event.Silent) (SPassword.checkEmailCode u code) := by
  intro w
  have hmoves : Moves (fun _ => 0) silentPolicy u w (final (SPassword.checkEmailCode u code) w) :=
    moves_checkEmailCode code (fun _ _ _ => trivial) fun _ => trivial
  exact .of_moves hmoves

theorem silent_userAskCheckEmailCode {origin : CodeOrigin} (horigin : origin ≠ .recover)
    (uuid : ShortCode) :
    Within (GrowsBy Event.Silent) (SPasswordManager.userAskCheckEmailCode origin u uuid) := by
  intro w
  have hmoves : Within (Moves (fun _ => 0) silentPolicy u)
      (SPasswordManager.userAskCheckEmailCode origin u uuid) :=
    moves_userAskCheckEmailCode horigin uuid trivial
  exact .of_moves (hmoves w)

theorem silent_updateUser (change : UserRecord → UserRecord) :
    Within (GrowsBy Event.Silent) (IdentityApi.updateUser conf clock u change) := by
  intro w
  have hmoves : Moves clock silentPolicy u w
      (final (IdentityApi.updateUser conf clock u change) w) :=
    moves_updateUser (fun old _ => .recordStored w _ trivial) trivial fun _ e he => by
      cases e <;> first | exact he.elim | trivial
  exact .of_moves hmoves

namespace SPasswordResource

/-- A reset mails the new password. -/
theorem posts_resetPassword (newPassword : NewPassword) (fault : Option PyExc)
    (server : SmtpServer) (code : String) :
    Within (GrowsBy ((Op.request (.resetPassword u code newPassword fault server)).Posts conf))
      (resetPassword conf clock newPassword fault server u code) := by
  refine (reads_getUser u).within.bind fun user =>
    Within.bind (fun w => growsBy_of_silent _ (silent_checkEmailCode code w)) fun matched =>
      Within.ite (fun _ => ?_) fun _ => within_pure _
  have hupdate : Within (GrowsBy Event.Silent)
      (updatePassword conf clock u newPassword.password fault) := by
    cases fault with
    | none => exact silent_updateUser _
    | some e => cases e <;> exact within_throw _
  refine Within.bind (fun w => growsBy_of_silent _ (hupdate w)) fun _ =>
    (growsBy_record trivial).bind fun _ => ?_
  cases user.email with
  | none => exact within_throw _
  | some address =>
    exact (growsBy_sendEmail server fun _ => ⟨rfl, rfl⟩).bind fun _ => within_pure _

/-- A request for a check code mails the code. -/
theorem posts_askForCheckEmailCode (allowed : Bool) (uuid : ShortCode) (server : SmtpServer) :
    Within (GrowsBy ((Op.request (.askForCheckEmailCode u uuid server allowed)).Posts conf))
      (askForCheckEmailCode conf allowed uuid server u) := by
  intro w
  rcases askForCheckEmailCode_cases conf w u allowed uuid server with
    ⟨e, he⟩ | ⟨userRecord, address, h⟩
  · rw [final_of_run_error he]
    exact refl_of (GrowsBy _) w
  · rw [final_congr (run_askForCheckEmailCode_of_askable h uuid server),
      final_bind_reads fun _ => reads_pure _, final_sendEmail, askedState]
    cases w.spassword u with
    | none => exact ⟨[_], rfl, by simp [Op.Posts, Op.Mails]⟩
    | some row => exact ⟨[_, _], rfl, by simp [Op.Posts, Op.Mails]⟩

/-- A recovery mails the link that resets the password. -/
theorem posts_recoverPassword (uuid : ShortCode) (server : SmtpServer) :
    Within (GrowsBy ((Op.request (.recoverPassword u uuid server)).Posts conf))
      (recoverPassword conf uuid server u) := by
  intro w
  rcases recoverPassword_cases conf w u uuid server with ⟨e, he⟩ | ⟨userRecord, address, row, h⟩
  · rw [final_of_run_error he]
    exact refl_of (GrowsBy _) w
  · rw [final_congr (run_recoverPassword_of_recoverable h uuid server),
      final_bind_reads fun _ => reads_pure _, final_sendEmail]
    exact ⟨[_, _, _], rfl, by simp [Op.Posts, Op.Mails]⟩

end SPasswordResource

/-! ### The mail of a login -/

namespace Identity

/-- Until the code of a login is ready nothing is mailed, and the row is there. -/
theorem CodeReady.silent {uuid : ShortCode} {row : SPasswordModel} {n : ℕ} {code : String}
    (h : CodeReady conf clock uuid u row ((afterVerdict clock w u true).ticked n) code w') :
    GrowsBy Event.Silent w w' := by
  cases h with
  | reused hfresh => exact ⟨[_], rfl, by simp [Event.Silent]⟩
  | issued n hstale => exact ⟨[_, _], rfl, by simp [Event.Silent]⟩

/-- The row waits for the second factor, and there is an address: what a login that mails its code
has found. -/
structure Mailable (conf : Conf) (w : World) (u : String) (address : Address) : Prop where
  verified : ∃ row, w.spassword u = some row ∧ WantsSndfa conf row ∧ row.sndfaEmail = true
  address : ∃ userRecord, w.users u = some userRecord ∧ userRecord.email = some address

/-- **The mail of a login.** A login mails nothing, or the last thing it does before its commit is
to mail the code to the user's verified email. -/
theorem authenticate_log (henabled : conf.enabled = true) (env : AuthEnv) (w : World)
    (u password : String) :
    GrowsBy Event.Silent w (final (authenticate conf clock env u password) w) ∨
      ∃ w₁ address code handed, Mailable conf w u address ∧ GrowsBy Event.Silent w w₁ ∧
        (final (authenticate conf clock env u password) w).log =
          .mailed u ⟨address, .sndfaCode code (sndfaLink conf u code)⟩ handed :: w₁.log := by
  rcases authenticate_cases henabled env w u password with
    ⟨e, w₁, herror, houtcome⟩ | ⟨res, k, -, -, houtcome⟩
  · rw [final_of_run_error herror]
    cases houtcome with
    | blocked row hrow hlocked => exact .inl ⟨[_], rfl, by simp [Event.Silent]⟩
    | expired row n hfree => exact .inl ⟨[_], rfl, by simp [Event.Silent]⟩
    | raised e n hfree => exact .inl ⟨[], rfl, by simp⟩
  · rw [final]
    generalize (authenticate conf clock env u password).run w = result at houtcome
    cases houtcome with
    | lost _ e n hlost => exact .inl ⟨[_], rfl, by simp [Event.Silent]⟩
    | firstRejected userRecord hrow huser => exact .inl ⟨[_, _], rfl, by simp [Event.Silent]⟩
    | firstAccepted user userRecord hrow huser =>
      exact .inl ⟨[_, _, _], rfl, by simp [Event.Silent]⟩
    | rejected row hrow htime => exact .inl ⟨[_], rfl, by simp [Event.Silent]⟩
    | passed user row created hrow hwants htime =>
      exact .inl ⟨[_, _], rfl, by simp [Event.Silent]⟩
    | signed user row created hrow hwants hemail hsigned htime =>
      exact .inl ⟨[_, _], rfl, by simp [Event.Silent]⟩
    | unverified user row hrow hwants hemail => exact .inl ⟨[_], rfl, by simp [Event.Silent]⟩
    | noAddress user row e n code w₁ hrow hwants hemail hunsigned hcode haddress =>
      exact .inl hcode.silent
    | mailRaised user row e n code w₁ userRecord address hrow hwants hemail hunsigned hcode huser
        haddress hmail =>
      exact .inr ⟨w₁, address, code, _,
        ⟨⟨row, hrow, hwants, hemail⟩, ⟨userRecord, huser, haddress⟩⟩, hcode.silent, rfl⟩
    | challenged user row sent n code w₁ userRecord address hrow hwants hemail hunsigned hcode
        huser haddress hmail =>
      exact .inr ⟨w₁, address, code, _,
        ⟨⟨row, hrow, hwants, hemail⟩, ⟨userRecord, huser, haddress⟩⟩, hcode.silent, rfl⟩

theorem posts_authenticate (env : AuthEnv) (w : World) (u password : String) :
    GrowsBy ((Op.authenticate u password env).Posts conf) w
      (final (authenticate conf clock env u password) w) := by
  cases henabled : conf.enabled with
  | false =>
    rw [final_authenticate_of_disabled henabled]
    exact refl_of (GrowsBy _) w
  | true =>
    rcases authenticate_log henabled env w u password with
      h | ⟨w₁, address, code, handed, -, ⟨new, hlog₁, hnew⟩, hlog⟩
    · exact growsBy_of_silent _ h
    · refine ⟨.mailed u _ handed :: new, by rw [hlog, hlog₁]; rfl, fun e he => ?_⟩
      rcases List.mem_cons.mp he with rfl | he
      · exact ⟨rfl, code, rfl⟩
      · exact Op.posts_of_silent _ (hnew e he)

end Identity

/-! ### Every call -/

/-- The calls that may be noted as mailing. -/
def Op.MayMail : Op → Prop
  | .authenticate _ _ _ | .userAskCheckEmailCode _ _ | .request (.recoverPassword _ _ _)
  | .request (.resetPassword _ _ _ _ _) | .request (.askForCheckEmailCode _ _ _ _) => True
  | _ => False

theorem Op.silent_of_notes {op : Op} (hop : ¬ op.MayMail) {e : Event} (h : op.Notes conf e) :
    e.Silent := by
  cases e with
  | mailed u mail handed =>
    refine absurd ?_ hop
    cases op with
    | authenticate _ _ _ | userAskCheckEmailCode _ _ => trivial
    | request r =>
      cases r with
      | recoverPassword _ _ _ | resetPassword _ _ _ _ _ | askForCheckEmailCode _ _ _ _ => trivial
      | _ => simp [Op.Notes, Request.Notes, Event.OfSndfaCheck, Event.OfEmailCheck] at h
    | _ => simp [Op.Notes, Event.OfUserEvent, Event.OfSndfaCheck, Event.OfEmailCheck] at h
  | _ => trivial

/-- **A call mails what it is to mail.** -/
theorem step_posts (hon : OnOrEmpty conf w) (op : Op) :
    GrowsBy (op.Posts conf) w (step conf clock w op) := by
  by_cases hop : op.MayMail
  · cases op with
    | authenticate u password env =>
      rw [step_authenticate]
      exact Identity.posts_authenticate env w u password
    | userAskCheckEmailCode u uuid =>
      have hask : Within (GrowsBy Event.Silent)
          (SPasswordManager.userAskCheckEmailCode .manager u uuid) :=
        silent_userAskCheckEmailCode (by simp) uuid
      rw [step, Op.program, final_bind_reads fun _ => reads_pure _]
      exact growsBy_of_silent _ (hask w)
    | request r =>
      rw [step_request]
      cases r with
      | recoverPassword u uuid server => exact SPasswordResource.posts_recoverPassword uuid server w
      | resetPassword u code newPassword fault server =>
        exact SPasswordResource.posts_resetPassword newPassword fault server code w
      | askForCheckEmailCode u uuid server allowed =>
        exact SPasswordResource.posts_askForCheckEmailCode allowed uuid server w
      | _ => exact hop.elim
    | _ => exact hop.elim
  · have hallowed : op.Allowed conf silentPolicy w :=
      Op.allowed_of_forall w (fun _ _ _ => trivial) (fun _ _ _ => trivial) fun _ h =>
        Op.silent_of_notes hop h
    exact growsBy_of_silent op (.of_moves (step_moves hon hallowed))

end KeystoneSpassword
