import KeystoneSpassword.Mails

/-!
# The address a verification is about

The column `sndfa_email` is in the row of the extension, the address is in Keystone's record of the
user, and nothing ties the two together: a changed address keeps the verification of the old one,
and a code that was mailed to the old address verifies the new one. This file says under which
conduct of the environment a verified email is proved, and that the mails with a second-factor code
or a reset link then go to proved addresses only.

## The conduct

* a record that Keystone stores for a user with a verified email has a proved address
* an email code that is presented and matches was mailed to the address the user has then

The extension checks neither.

## Main definitions

* `Proved` — a code was mailed to the address, and then presented and matched
* `addressPolicy` — the conduct, as a policy
* `Bound` — every verified email is proved

## Main results

* `verified_addresses_proved`
-/

namespace KeystoneSpassword

open StateProgram Relation History Machine

variable {conf : Conf} {clock : ℕ → Time} {u v : String} {w w' : World}

/-! ### Proofs of an address -/

/-- The mail carries this email code. -/
def MailContent.Carries (code : String) : MailContent → Prop
  | .checkEmail c _ | .resetPassword c _ => c = code
  | .sndfaCode _ _ | .newPassword _ => False

/-- The code was generated for the user, and mailed to the address in a mail that the server
took. -/
def MailedTo (u : String) (address : Address) (code : String) (log : List Event) : Prop :=
  (∃ origin, .emailCodeIssued u code origin ∈ log) ∧
    ∃ content : MailContent, content.Carries code ∧ .mailed u ⟨address, content⟩ true ∈ log

/-- The user has proved to own the address: a code was mailed to it, and afterwards the code was
presented and matched. -/
def Proved (u : String) (address : Address) (log : List Event) : Prop :=
  ∃ newer code older, log = newer ++ .emailCodeChecked u code true :: older ∧
    MailedTo u address code older

/-- A proof stays one. -/
theorem Proved.append {address : Address} {log : List Event} (h : Proved u address log)
    (new : List Event) : Proved u address (new ++ log) := by
  obtain ⟨newer, code, older, rfl, hmailed⟩ := h
  exact ⟨new ++ newer, code, older, (List.append_assoc ..).symm, hmailed⟩

/-- What the environment has to see to. -/
def addressPolicy : Policy where
  stores w u userRecord := EmailVerified w u → ∀ r, userRecord = some r →
    ∃ address, r.email = some address ∧ Proved u address w.log
  presents w u code := ∃ r address, w.users u = some r ∧ r.email = some address ∧
    MailedTo u address code w.log
  notes _ := True

/-! ### The verified email -/

/-- The email of a user, if the row says it is verified, is a proved address. -/
def BoundAt (w : World) (u : String) : Prop :=
  EmailVerified w u → ∃ r address, w.users u = some r ∧ r.email = some address ∧
    Proved u address w.log

/-- Every verified email is a proved address. -/
def Bound (w : World) : Prop := ∀ u, BoundAt w u

/-- Nothing that matters has changed. -/
theorem BoundAt.of_same (h : BoundAt w u) (husers : w'.users u = w.users u)
    (hemail : EmailVerified w' u → EmailVerified w u)
    (hlog : ∃ new, w'.log = new ++ w.log) : BoundAt w' u := by
  intro hverified
  obtain ⟨r, address, huser, haddress, hproved⟩ := h (hemail hverified)
  obtain ⟨new, hlog⟩ := hlog
  exact ⟨r, address, husers.trans huser, haddress, hlog ▸ hproved.append new⟩

/-- A row that is written with the verification it has. -/
theorem BoundAt.setRow {row row' : SPasswordModel} (h : BoundAt w u)
    (hrow : w.spassword u = some row) (new : List Event) (husers : w'.users = w.users)
    (htable : w'.spassword = Function.update w.spassword u (some row'))
    (hlog : w'.log = new ++ w.log) (hemail : row'.sndfaEmail = row.sndfaEmail) : BoundAt w' u := by
  refine h.of_same (by rw [husers]) ?_ ⟨new, hlog⟩
  rintro ⟨row₁, hrow₁, hverified⟩
  rw [htable, Function.update_self] at hrow₁
  cases hrow₁
  exact ⟨row, hrow, hemail.symm.trans hverified⟩

/-- A row that is not verified, or no row. -/
theorem BoundAt.of_unverified (h : ∀ row, w.spassword u = some row → row.sndfaEmail = false) :
    BoundAt w u := by
  rintro ⟨row, hrow, hemail⟩
  rw [h row hrow] at hemail
  cases hemail

/-- A move under the policy keeps the verified email of its own user a proved address. -/
theorem Move.boundAt_own (h : Move clock addressPolicy u w w') (hw : BoundAt w u) :
    BoundAt w' u := by
  cases h with
  | tick => exact hw.of_same rfl id ⟨[], rfl⟩
  | noted e huser hinert htime hnotes => exact hw.of_same rfl id ⟨[e], rfl⟩
  | recordStored userRecord hstores =>
    intro hverified
    obtain ⟨address, haddress, hproved⟩ := hstores hverified userRecord rfl
    exact ⟨userRecord, address, by simp, haddress, hproved⟩
  | passwordStored userRecord password huser =>
    intro hverified
    obtain ⟨r, address, huser', haddress, hproved⟩ := hw hverified
    rw [huser] at huser'
    cases huser'
    exact ⟨{ userRecord with password }, address, Function.update_self .., haddress, hproved⟩
  | userRemoved hstores hnotes => exact .of_unverified fun row hrow => by simp at hrow
  | userDropped hstores hrow =>
    refine .of_unverified fun row hrow' => ?_
    rw [World.setUser_spassword, hrow] at hrow'
    cases hrow'
  | rowCreated user t hid hrow huser ht hnotes =>
    refine .of_unverified fun row hrow' => ?_
    obtain rfl : SPassword.newRow user (.utc t) = row := by simpa using hrow'
    rfl
  | rowRegistered user res t hid hrow huser ht hnotes =>
    refine .of_unverified fun row hrow' => ?_
    obtain rfl : Identity.firstRow user (.utc t) res = row := by simpa using hrow'
    rfl
  | emailCodeIssued row code origin hrow horigin hnotes =>
    refine .of_unverified fun row' hrow' => ?_
    obtain rfl : SPasswordResource.withEmailCode row code.code = row' := by simpa using hrow'
    rfl
  | rowTouched row _ hrow _ _ | sndfaIssued row _ _ _ _ hrow _ _ _ _ _
  | sndfaAccepted row _ _ hrow _ _ _ _ _ | sndfaModified row _ hrow _ _
  | blackModified row _ hrow _ => exact hw.setRow hrow [_] rfl rfl rfl rfl
  | attemptStored row _ _ hrow _ _ => exact hw.setRow hrow [] rfl rfl rfl rfl
  | recovered row code hrow hemail hissue hcheck =>
    exact hw.setRow hrow [_, _] rfl rfl rfl rfl
  | emailCodeChecked row code hrow hstored hpresents hnotes =>
    by_cases hcode : row.sndfaEmailCode = some code
    · -- the code is confirmed, and the policy says that it was mailed to the present address
      intro _
      obtain ⟨r, address, huser, haddress, hmailed⟩ := hpresents hcode
      refine ⟨r, address, huser, haddress, [], code, w.log, ?_, hmailed⟩
      rw [decide_eq_true hcode]
      rfl
    · refine .of_unverified fun row' hrow' => ?_
      obtain rfl := by simpa using hrow'
      exact decide_eq_false hcode
  | passwordReset row code password hrow hcode hnotes => exact hw.of_same rfl id ⟨[_], rfl⟩

theorem Move.bound (h : Move clock addressPolicy u w w') (hw : Bound w) : Bound w' := by
  intro v
  by_cases hv : v = u
  · subst hv
    exact h.boundAt_own (hw v)
  · obtain ⟨husers, htable⟩ := h.other hv
    obtain ⟨new, hlog, -⟩ := h.log_eq
    refine (hw v).of_same husers ?_ ⟨new, hlog⟩
    rintro ⟨row, hrow, hemail⟩
    exact ⟨row, htable.symm.trans hrow, hemail⟩

/-! ### The mails -/

/-- The mail carries a second-factor code, or a link that resets the password. -/
def MailContent.Secret : MailContent → Prop
  | .sndfaCode _ _ | .resetPassword _ _ => True
  | .checkEmail _ _ | .newPassword _ => False

/-- A secret is mailed to an address only after it was proved. -/
def ProvedMail : Event → List Event → Prop
  | .mailed u mail _, older => mail.content.Secret → Proved u mail.dest older
  | _, _ => True

/-- The event mails no secret. -/
def Event.Discreet : Event → Prop
  | .mailed _ mail _ => ¬ mail.content.Secret
  | _ => True

theorem provedMail_of_discreet {e : Event} (h : e.Discreet) (older : List Event) :
    ProvedMail e older := by
  cases e with
  | mailed u mail handed => exact fun hsecret => absurd hsecret h
  | _ => trivial

theorem Event.discreet_of_silent {e : Event} (h : e.Silent) : e.Discreet := by
  cases e with
  | mailed _ _ _ => exact h.elim
  | _ => trivial

/-- The history grows by events that mail no secret. -/
def GrowsDiscreetly (w w' : World) : Prop :=
  ∃ new, w'.log = new ++ w.log ∧ ∀ e ∈ new, e.Discreet

theorem GrowsDiscreetly.provedMail (h : GrowsDiscreetly w w') (hlog : Justified ProvedMail w.log) :
    Justified ProvedMail w'.log := by
  obtain ⟨new, hnew, hdiscreet⟩ := h
  rw [hnew]
  exact (justified_append_of_forall
    (fun e he => provedMail_of_discreet (hdiscreet e he)) w.log).mpr hlog

section Programs

/-- A secret that is mailed to the verified email of a user. -/
theorem provedMail_of_verified (hw : BoundAt w u) (hverified : EmailVerified w u)
    {userRecord : UserRecord} {mail : Mail} {handed : Bool} {new : List Event}
    (huser : w.users u = some userRecord) (haddress : userRecord.email = some mail.dest) :
    ProvedMail (.mailed u mail handed) (new ++ w.log) := by
  intro _
  obtain ⟨r, address, huser', haddress', hproved⟩ := hw hverified
  rw [huser] at huser'
  cases huser'
  rw [haddress] at haddress'
  cases haddress'
  exact hproved.append new

/-- A recovery mails its link to the verified email. -/
theorem provedMail_recoverPassword (hw : BoundAt w u) (hlog : Justified ProvedMail w.log)
    (uuid : ShortCode) (server : SmtpServer) :
    Justified ProvedMail (final (SPasswordResource.recoverPassword conf uuid server u) w).log := by
  rcases SPasswordResource.recoverPassword_cases conf w u uuid server with
    ⟨e, he⟩ | ⟨userRecord, address, row, h⟩
  · rw [final_of_run_error he]
    exact hlog
  · rw [final_congr (SPasswordResource.run_recoverPassword_of_recoverable h uuid server),
      final_bind_reads fun _ => reads_pure _]
    obtain ⟨-, -, huser, haddress, hrow, hemail⟩ := h
    have hproved : ProvedMail (.mailed u
        ⟨address, .resetPassword uuid.code
          (SPasswordResource.codeLink conf "reset_password" u uuid.code)⟩
        (SendMail.delivery conf server address).1)
        ([.emailCodeChecked u uuid.code true, .emailCodeIssued u uuid.code .recover] ++ w.log) :=
      provedMail_of_verified hw ⟨row, hrow, hemail⟩ huser haddress
    rw [final_sendEmail]
    exact ⟨hproved, trivial, trivial, hlog⟩

/-- A login mails its code to the verified email. -/
theorem provedMail_authenticate (hw : BoundAt w u) (hlog : Justified ProvedMail w.log)
    (env : AuthEnv) (password : String) :
    Justified ProvedMail (final (Identity.authenticate conf clock env u password) w).log := by
  have hsilent : ∀ {w₁ : World}, GrowsBy Event.Silent w w₁ → Justified ProvedMail w₁.log :=
    fun h => GrowsDiscreetly.provedMail (h.mono fun _ => Event.discreet_of_silent) hlog
  cases henabled : conf.enabled with
  | false => rwa [final_authenticate_of_disabled henabled]
  | true =>
    rcases Identity.authenticate_log henabled env w u password with
      h | ⟨w₁, address, code, handed, hmailable, hgrows, hmailed⟩
    · exact hsilent h
    · obtain ⟨new, hnew, -⟩ := id hgrows
      obtain ⟨row, hrow, -, hemail⟩ := hmailable.verified
      obtain ⟨userRecord, huser, haddress⟩ := hmailable.address
      rw [hmailed]
      refine ⟨?_, hsilent hgrows⟩
      rw [hnew]
      exact provedMail_of_verified hw ⟨row, hrow, hemail⟩ huser haddress

end Programs

/-! ### Every call -/

/-- A call that is no login and no recovery mails no secret. -/
theorem discreet_of_posts {op : Op} (hlogin : ∀ u password env, op ≠ .authenticate u password env)
    (hrecovery : ∀ u uuid server, op ≠ .request (.recoverPassword u uuid server)) {e : Event}
    (h : op.Posts conf e) : e.Discreet := by
  cases e with
  | mailed u mail handed =>
    cases op with
    | authenticate _ _ _ => exact absurd rfl (hlogin _ _ _)
    | request r =>
      cases r with
      | recoverPassword _ _ _ => exact absurd rfl (hrecovery _ _ _)
      | resetPassword _ _ _ _ _ | askForCheckEmailCode _ _ _ _ =>
        simp [Event.Discreet, h.2, MailContent.Secret]
      | _ => exact h.elim
    | _ => exact h.elim
  | _ => trivial

/-- A call mails secrets to proved addresses only. -/
theorem provedMail_step (hon : OnOrEmpty conf w) (hw : Bound w) (hlog : Justified ProvedMail w.log)
    (op : Op) : Justified ProvedMail (step conf clock w op).log := by
  have hdiscreet (hlogin : ∀ u password env, op ≠ .authenticate u password env)
      (hrecovery : ∀ u uuid server, op ≠ .request (.recoverPassword u uuid server)) :
      Justified ProvedMail (step conf clock w op).log :=
    GrowsDiscreetly.provedMail
      ((step_posts hon op).mono fun _ => discreet_of_posts hlogin hrecovery) hlog
  cases op with
  | authenticate u password env =>
    rw [step_authenticate]
    exact provedMail_authenticate (hw u) hlog env password
  | request r =>
    cases r with
    | recoverPassword u uuid server =>
      rw [step_request]
      exact provedMail_recoverPassword (hw u) hlog uuid server
    | _ => exact hdiscreet (by simp) (by simp)
  | _ => exact hdiscreet (by simp) (by simp)

/-- **Verified addresses.** As long as Keystone gives a user with a verified email proved addresses
only, and a matching code is presented only where it was mailed to the present address, every
verified email is a proved address in every state of the run, and second-factor codes and reset
links are mailed to proved addresses only. -/
theorem verified_addresses_proved (users : String → Option UserRecord) {ops : List Op}
    (h : Along (step conf clock) (fun w op => op.Admitted addressPolicy w) (.initial users) ops) :
    Bound (run conf clock (.initial users) ops) ∧
      Justified ProvedMail (run conf clock (.initial users) ops).log := by
  have hinitial : OnOrEmpty conf (.initial users) ∧ Bound (.initial users) ∧
      Justified ProvedMail (World.initial users).log :=
    ⟨.inr fun _ => rfl, fun _ => .of_unverified fun _ hrow => (by cases hrow), trivial⟩
  have hrun : OnOrEmpty conf (run conf clock (.initial users) ops) ∧
      Bound (run conf clock (.initial users) ops) ∧
      Justified ProvedMail (run conf clock (.initial users) ops).log := by
    refine run_invariant (I := fun w => OnOrEmpty conf w ∧ Bound w ∧ Justified ProvedMail w.log)
      (fun w op hop hw => ?_) h hinitial
    obtain ⟨hon, hbound, hlog⟩ := hw
    have hmoves : Moves clock addressPolicy op.userId w (step conf clock w op) :=
      step_moves hon ⟨hop, fun _ _ => trivial⟩
    exact ⟨onOrEmpty_step clock hon op,
      keeps_of_steps (fun _ _ hmove hw => hmove.bound hw) hmoves hbound,
      provedMail_step hon hbound hlog op⟩
  exact hrun.2

/-- The address of Alice is verified by mail. -/
def Sample.verifyByMail : List Op :=
  [login, .request (.askForCheckEmailCode "alice" emailCode .up true),
    .request (.checkEmailCode "alice" emailCode.code), .userModifySndfa "alice" true]

/-- The address is verified by mail, and the second factor asked for at the next login. -/
theorem verified_addresses_proved_by_mail :
    let w := run Sample.conf Sample.ticking (.initial Sample.users)
      (Sample.verifyByMail ++ [Sample.login])
    EmailVerified w "alice" ∧ Proved "alice" (.text "alice@a.example") w.log := by
  intro w
  have hadmitted : Along (step Sample.conf Sample.ticking)
      (fun w op => op.Admitted addressPolicy w) (.initial Sample.users)
      (Sample.verifyByMail ++ [Sample.login]) := by
    refine ⟨trivial, trivial, ?_, trivial, trivial, trivial⟩
    intro row _ _
    exact ⟨Sample.alice, .text "alice@a.example", rfl, rfl, ⟨.checkemail, .tail _ (.head _)⟩,
      .checkEmail _ _, rfl, .head _⟩
  have hverified : EmailVerified w "alice" := ⟨_, rfl, rfl⟩
  obtain ⟨r, address, huser, haddress, hproved⟩ :=
    (verified_addresses_proved Sample.users hadmitted).1 "alice" hverified
  cases huser
  cases haddress
  exact ⟨hverified, hproved⟩

/-- A mail to this address. -/
def Event.goesTo (address : Address) : Event → Bool
  | .mailed _ mail _ => mail.dest == address
  | _ => false

/-- An address is verified, and then changed: the new one counts as verified without a proof, and
the next login mails a second-factor code to it. -/
theorem changed_address_verified :
    let w := run Sample.conf Sample.ticking (.initial Sample.users) (Sample.verifyByMail ++
      [.updateUser "alice" { Sample.alice with email := some (.text "mallory@b.example") }])
    EmailVerified w "alice" ∧
      (w.users "alice").bind UserRecord.email = some (.text "mallory@b.example") ∧
      ¬ Proved "alice" (.text "mallory@b.example") w.log ∧ ¬ Bound w ∧
      ∃ code link, .mailed "alice" ⟨.text "mallory@b.example", .sndfaCode code link⟩ true ∈
        (step Sample.conf Sample.ticking w Sample.login).log := by
  intro w
  have hverified : EmailVerified w "alice" := ⟨_, rfl, rfl⟩
  have hmails : w.log.any (Event.goesTo (.text "mallory@b.example")) = false := by decide
  have hunproved : ¬ Proved "alice" (.text "mallory@b.example") w.log := by
    rintro ⟨newer, code, older, hlog, -, content, -, hmem⟩
    have hmailed : Event.mailed "alice" ⟨.text "mallory@b.example", content⟩ true ∈ w.log := by
      rw [hlog]
      exact List.mem_append_right _ (List.mem_cons_of_mem _ hmem)
    rw [List.any_eq_true.mpr ⟨_, hmailed, by simp [Event.goesTo]⟩] at hmails
    cases hmails
  refine ⟨hverified, rfl, hunproved, fun hbound => hunproved ?_, _, _, .head _⟩
  obtain ⟨r, address, huser, haddress, hproved⟩ := hbound "alice" hverified
  cases huser
  cases haddress
  exact hproved

end KeystoneSpassword
