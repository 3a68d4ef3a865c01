import KeystoneSpassword.Mails

/-!
# Requests whose mail fails

A reset, a recovery and a request for a check code write first and mail last, and nothing rolls the
writes back. This file says what is left when the mail fails, for every way in which it can.

A reset changes the password. If the new one reaches nobody, the user is left with a password that
no one knows: the record has no address, no message can be made for it, or the mail server does not
take the message. The other two store a code. If its mail fails, the code that was mailed before it
is no longer accepted.

## Main definitions

* `SendMail.TakesMessage` — there is a message, and the server takes it
* `Delivered`, `PasswordKept` — the two ends of a reset that lock nobody out

## Main results

* `reset_delivered_iff` — when a reset ends in one of the two
* `failed_code_requests` — the row after a request for a code, however its mail ends
-/

namespace KeystoneSpassword

open StateProgram

variable {conf : Conf} {clock : ℕ → Time} {w w' : World} {u : String}

/-! ### The server takes the message -/

namespace SendMail

/-- There is a message to an address that `smtplib` can send to, the session gets to it, and the
server takes it. What `quit` does comes too late. -/
def TakesMessage (conf : Conf) (server : SmtpServer) (dest : Address) : Prop :=
  (server.asString = true ∧ dest.isText = true) ∧ server.connect = .ok ∧
    (conf.smtpTls = true → server.ehlo = true ∧ server.starttls = true) ∧
    (wantsLogin conf = true → server.login = .ok) ∧ server.sendmail = true

theorem delivery_fst_iff (conf : Conf) (server : SmtpServer) (dest : Address) :
    (delivery conf server dest).1 = true ↔ TakesMessage conf server dest := by
  rcases server with ⟨asString, connect, ehlo, starttls, login, sendmail, quit⟩
  by_cases hmessage : asString = true ∧ dest.writable = true
  · cases connect with
    | gaierror => simp [TakesMessage, delivery, hmessage]
    | raised => simp [TakesMessage, delivery, hmessage]
    | ok =>
      cases htls : conf.smtpTls <;> cases ehlo <;> cases starttls <;>
        cases hlogin : wantsLogin conf <;> cases login <;> cases quit <;>
          simp [TakesMessage, delivery, htls, hlogin, hmessage, and_comm]
  · have hnot : ¬ (asString = true ∧ dest.isText = true) := fun h =>
      hmessage ⟨h.1, Address.writable_of_isText h.2⟩
    have hbuild : (asString && dest.writable) = false := by
      rwa [← Bool.not_eq_true, Bool.and_eq_true]
    simp [TakesMessage, delivery, hbuild, hnot]

end SendMail

/-! ### Resets -/

/-- The password in force is the new one, and the mail server took it for the user's address. -/
def Delivered (u : String) (newPassword : NewPassword) (w w' : World) : Prop :=
  ∃ userRecord address new, w'.users u = some userRecord ∧
    userRecord.password = newPassword.password ∧ userRecord.email = some address ∧
    w'.log = new ++ w.log ∧ .mailed u ⟨address, .newPassword newPassword.password⟩ true ∈ new

/-- The password in force is the one that was in force before. -/
def PasswordKept (u : String) (w w' : World) : Prop :=
  (w'.users u).map UserRecord.password = (w.users u).map UserRecord.password

namespace SPasswordResource

section ResetState

variable {userRecord : UserRecord} {row : SPasswordModel} {code password : String}

/-- Until its mail a reset notes no mail. -/
theorem silent_resetState :
    GrowsBy Event.Silent w (resetState clock (confirmedState w u row code) u userRecord
      { row with sndfaEmail := true } code password) := by
  have hconfirmed : GrowsBy Event.Silent w (confirmedState w u row code) :=
    ⟨[_], rfl, by simp [Event.Silent]⟩
  refine trans_of (GrowsBy _) hconfirmed ?_
  have hrecord : (recordChanged (confirmedState w u row code) u userRecord
      { userRecord with password }).log = _ ∨ _ := recordChanged_log
  rcases hrecord with h | h
  · exact ⟨[_, _], congrArg (_ :: _ :: ·) h, by simp [Event.Silent]⟩
  · exact ⟨[_, _, _], congrArg (_ :: _ :: ·) h, by simp [Event.Silent]⟩

end ResetState

/-- A reset with the stored code, in a deployment where Keystone stores the password. -/
theorem final_resetPassword_of_stored (hreach : Reachable conf clock w) {userRecord : UserRecord}
    (huser : w.users u = some userRecord) {code : String}
    (hcode : SPassword.EmailCodeStored w u code) (newPassword : NewPassword)
    (server : SmtpServer) :
    ∃ w₁, GrowsBy Event.Silent w w₁ ∧
      w₁.users u = some { userRecord with password := newPassword.password } ∧
      final (resetPassword conf clock newPassword none server u code) w =
        userRecord.email.elim w₁ fun address =>
          w₁.note (.mailed u ⟨address, .newPassword newPassword.password⟩
            (SendMail.delivery conf server address).1) := by
  obtain ⟨row, hrow, hstored, hne⟩ := hcode
  have henabled : conf.enabled = true :=
    ((onOrEmpty_of_reachable hreach).row u).resolve_right (by simp [hrow])
  have hrun : (resetPassword conf clock newPassword none server u code).run w = _ :=
    run_resetPassword_of_match henabled huser
      (SPassword.run_checkEmailCode_of_match hrow hstored hne) huser (Function.update_self ..)
      newPassword server
  refine ⟨resetState clock (confirmedState w u row code) u userRecord
    { row with sndfaEmail := true } code newPassword.password, silent_resetState, by simp, ?_⟩
  rw [final_congr hrun]
  cases userRecord.email with
  | none => rfl
  | some address =>
    dsimp only
    rw [final_bind_reads fun _ => reads_pure _, final_sendEmail]
    rfl

end SPasswordResource

/-- Among the events up to a mail, only the last one is a mail. -/
theorem handed_of_mem {w₁ : World} {mail mail' : Mail} {handed : Bool} {new : List Event}
    (hsilent : GrowsBy Event.Silent w w₁)
    (hnew : (w₁.note (.mailed u mail handed)).log = new ++ w.log)
    (hmem : .mailed u mail' true ∈ new) : handed = true := by
  obtain ⟨added, hadded, hquiet⟩ := hsilent
  obtain rfl : .mailed u mail handed :: added = new :=
    List.append_cancel_right ((congrArg (_ :: ·) hadded).symm.trans hnew)
  rcases List.mem_cons.mp hmem with heq | hmem
  · cases heq
    rfl
  · exact (hquiet _ hmem).elim

/-- **When a reset with the stored code delivers the new password, or keeps the old one.** -/
theorem reset_delivered_iff (hreach : Reachable conf clock w) {userRecord : UserRecord}
    (huser : w.users u = some userRecord) {code : String}
    (hcode : SPassword.EmailCodeStored w u code) (newPassword : NewPassword)
    (fault : Option PyExc) (server : SmtpServer) :
    (Delivered u newPassword w (final (SPasswordResource.resetPassword conf clock newPassword fault
        server u code) w) ∨
      PasswordKept u w (final (SPasswordResource.resetPassword conf clock newPassword fault
        server u code) w)) ↔
      fault ≠ none ∨ (∃ address, userRecord.email = some address ∧
          SendMail.TakesMessage conf server address) ∨
        newPassword.password = userRecord.password := by
  cases fault with
  | some e =>
    obtain ⟨row, hrow, hstored, hne⟩ := hcode
    obtain ⟨e', he'⟩ : ∃ e', (SPasswordResource.resetPassword conf clock newPassword (some e) server
        u code).run w = .error e' _ := SPasswordResource.run_resetPassword_of_fault huser
      (SPassword.run_checkEmailCode_of_match hrow hstored hne) newPassword e server
    rw [final_of_run_error he']
    exact iff_of_true (.inr rfl) (.inl (by simp))
  | none =>
    obtain ⟨w₁, hsilent, huser₁, hfinal⟩ := SPasswordResource.final_resetPassword_of_stored hreach
      huser hcode newPassword server
    rw [hfinal]
    simp only [← SendMail.delivery_fst_iff]
    have hkept {w' : World} (hw' : w'.users = w₁.users) :
        PasswordKept u w w' ↔ newPassword.password = userRecord.password := by
      rw [PasswordKept, hw', huser₁, huser]
      exact Option.some_inj
    cases haddress : userRecord.email with
    | none =>
      rw [Option.elim_none, hkept rfl]
      have hundelivered : ¬ Delivered u newPassword w w₁ := by
        rintro ⟨userRecord', address, -, huser', -, haddress', -⟩
        rw [huser₁] at huser'
        cases huser'
        rw [haddress] at haddress'
        cases haddress'
      simp [hundelivered]
    | some address =>
      rw [Option.elim_some, hkept (World.note_users _ _)]
      have hdelivered : Delivered u newPassword w (w₁.note (.mailed u
          ⟨address, .newPassword newPassword.password⟩ (SendMail.delivery conf server address).1)) ↔
            (SendMail.delivery conf server address).1 = true := by
        constructor
        · rintro ⟨_, _, new, _, _, _, hnew, hmem⟩
          exact handed_of_mem hsilent hnew hmem
        · intro hhanded
          obtain ⟨added, hadded, -⟩ := hsilent
          refine ⟨_, address, .mailed u _ _ :: added, huser₁, rfl, haddress,
            congrArg (_ :: ·) hadded, ?_⟩
          rw [hhanded]
          exact List.mem_cons_self
      rw [hdelivered]
      simp

/-- A recovery, and the state in which its code is presented. -/
def Sample.recovered : World :=
  run Sample.conf ticking (.initial users) (setUp ++ [.request (.recoverPassword "alice" code .up)])

/-- A reset with the recovery's code, and a mail server on which every step succeeds. -/
theorem reset_delivered_iff_recovered :
    let w' := final (SPasswordResource.resetPassword Sample.conf Sample.ticking Sample.newPassword
      none .up "alice" Sample.code.code) Sample.recovered
    Delivered "alice" Sample.newPassword Sample.recovered w' ∨
      PasswordKept "alice" Sample.recovered w' := by
  have hreach : Reachable Sample.conf Sample.ticking Sample.recovered := ⟨Sample.users, _, rfl⟩
  have huser : Sample.recovered.users "alice" = some Sample.alice := rfl
  have hcode : SPassword.EmailCodeStored Sample.recovered "alice" Sample.code.code :=
    ⟨_, rfl, rfl, by decide⟩
  refine (reset_delivered_iff hreach huser hcode Sample.newPassword none .up).mpr ?_
  exact .inr (.inl ⟨_, rfl, ⟨rfl, rfl⟩, rfl, fun _ => ⟨rfl, rfl⟩, fun _ => rfl, rfl⟩)

/-- The host of the mail server does not resolve. The reset is answered with 200, and says itself
that the new password was not sent: it is in force, and nobody knows it. -/
theorem reset_to_unsent_password :
    let reset := SPasswordResource.resetPassword Sample.conf Sample.ticking Sample.newPassword none
      { SmtpServer.up with connect := .gaierror } "alice" Sample.code.code
    SPassword.EmailCodeStored Sample.recovered "alice" Sample.code.code ∧
      (∃ w', reset.run Sample.recovered = .ok
        ⟨.text ("Request with valid code. Password sucessfully reset." ++
          " New password was not sent by email to alice@a.example"), 200, some "text/html"⟩ w') ∧
      ((final reset Sample.recovered).users "alice").map UserRecord.password =
        some Sample.newPassword.password ∧
      ¬ Delivered "alice" Sample.newPassword Sample.recovered (final reset Sample.recovered) ∧
      ¬ PasswordKept "alice" Sample.recovered (final reset Sample.recovered) := by
  intro reset
  have hreach : Reachable Sample.conf Sample.ticking Sample.recovered := ⟨Sample.users, _, rfl⟩
  have hcode : SPassword.EmailCodeStored Sample.recovered "alice" Sample.code.code :=
    ⟨_, rfl, rfl, by decide⟩
  refine ⟨hcode, ⟨_, rfl⟩, rfl, ?_, fun h => ?_⟩
  · rintro ⟨userRecord, address, new, -, -, -, hnew, hmem⟩
    obtain ⟨w₁, hsilent, -, hfinal⟩ := SPasswordResource.final_resetPassword_of_stored hreach
      (show Sample.recovered.users "alice" = some Sample.alice from rfl) hcode Sample.newPassword
      { SmtpServer.up with connect := .gaierror }
    rw [hfinal] at hnew
    exact absurd (handed_of_mem hsilent hnew hmem) (by decide)
  · exact absurd (Option.some_inj.mp h) (by decide)

/-! ### Requests for a code -/

/-- `check_email_code` accepts the code. -/
def CodeAccepted (w : World) (u code : String) : Prop :=
  ∃ w', (SPassword.checkEmailCode u code).run w = .ok true w'

theorem codeAccepted_iff {code : String} :
    CodeAccepted w u code ↔ SPassword.EmailCodeStored w u code := by
  constructor
  · rintro ⟨w', hrun⟩
    by_contra hstored
    rw [run_checkEmailCode_false hstored] at hrun
    cases hrun
  · rintro ⟨row, hrow, hcode, hne⟩
    exact ⟨_, SPassword.run_checkEmailCode_of_match hrow hcode hne⟩

/-- After a code was stored, it is the one that is accepted. -/
theorem codeAccepted_of_row {row : SPasswordModel} {uuid : ShortCode}
    (hrow : w.spassword u = some row) (hcode : row.sndfaEmailCode = some uuid.code)
    (code : String) :
    CodeAccepted w u code ↔ code = uuid.code := by
  rw [codeAccepted_iff]
  constructor
  · rintro ⟨row', hrow', hcode', -⟩
    rw [hrow] at hrow'
    cases hrow'
    exact Option.some_inj.mp (hcode'.symm.trans hcode)
  · rintro rfl
    exact ⟨row, hrow, hcode, uuid.ne_empty⟩

/-- A request stored the new code: the rest of the row is as it was, but for the flag of the email,
and of all codes the new one is accepted. -/
structure CodeReplaced (w w' : World) (u : String) (uuid : ShortCode) (row : SPasswordModel)
    (emailChecked : Bool) : Prop where
  users : w'.users = w.users
  table : w'.spassword = Function.update w.spassword u
    (some { row with sndfaEmailCode := some uuid.code, sndfaEmail := emailChecked })
  verified : EmailVerified w' u ↔ emailChecked = true
  accepted : ∀ code, CodeAccepted w' u code ↔ code = uuid.code

theorem codeReplaced_of_table {uuid : ShortCode} {row : SPasswordModel} {emailChecked : Bool}
    (husers : w'.users = w.users) (htable : w'.spassword = Function.update w.spassword u
      (some { row with sndfaEmailCode := some uuid.code, sndfaEmail := emailChecked })) :
    CodeReplaced w w' u uuid row emailChecked := by
  have hrow : w'.spassword u =
      some { row with sndfaEmailCode := some uuid.code, sndfaEmail := emailChecked } := by
    rw [htable, Function.update_self]
  refine ⟨husers, htable, ?_, codeAccepted_of_row hrow rfl⟩
  rw [EmailVerified, hrow]
  simp

theorem PyExc.status_ne_ok (e : PyExc) : e.status ≠ 200 := by
  cases e <;> simp [status]

/-- A request that ends with its mail is answered with success when `send_email` returns `True`. -/
theorem status_mailed_iff (server : SmtpServer) (mail : Mail)
    (sentText notSentText : String) (address : Address) (w : World) :
    answerStatus ((do
      let sent ← SendMail.sendEmail conf server u mail
      return SPasswordResource.mailResponse sent sentText notSentText address :
        Py HttpResponse).run w) = 200 ↔ (SendMail.delivery conf server mail.dest).2 = .ok true := by
  rw [EStateM.run_bind, SendMail.run_sendEmail]
  cases (SendMail.delivery conf server mail.dest).2 with
  | ok sent => cases sent <;> simp [answerStatus, SPasswordResource.mailResponse]
  | error e => simp [answerStatus, PyExc.status_ne_ok]

/-- A user has one address. -/
theorem address_unique {r r' : UserRecord} {address address' : Address}
    (huser : w.users u = some r) (huser' : w.users u = some r') (haddress : r.email = some address)
    (haddress' : r'.email = some address') : address = address' := by
  obtain rfl : r = r' := Option.some.inj (huser.symm.trans huser')
  exact Option.some.inj (haddress.symm.trans haddress')

/-- How a recovery ends. -/
structure RecoveryEnds (conf : Conf) (w : World) (u : String) (uuid : ShortCode)
    (server : SmtpServer) : Prop where
  success : answerStatus ((SPasswordResource.recoverPassword conf uuid server u).run w) = 200 ↔
    ∃ userRecord address row, SPasswordResource.Recoverable conf w u userRecord address row ∧
      (SendMail.delivery conf server address).2 = .ok true
  /-- the extension is not configured, or there is no user, no address or no verified email -/
  refused : (¬ ∃ userRecord address row,
    SPasswordResource.Recoverable conf w u userRecord address row) →
      final (SPasswordResource.recoverPassword conf uuid server u) w = w
  /-- whatever becomes of the mail -/
  letThrough : ∀ userRecord address row,
    SPasswordResource.Recoverable conf w u userRecord address row →
      CodeReplaced w (final (SPasswordResource.recoverPassword conf uuid server u) w) u uuid row
        true

/-- How a request for a check code ends. -/
structure AskEnds (conf : Conf) (w : World) (u : String) (allowed : Bool) (uuid : ShortCode)
    (server : SmtpServer) : Prop where
  success :
    answerStatus ((SPasswordResource.askForCheckEmailCode conf allowed uuid server u).run w) = 200 ↔
      ∃ userRecord address, SPasswordResource.Askable w u allowed userRecord address ∧
        (SendMail.delivery conf server address).2 = .ok true
  /-- the enforcer refuses, or there is no user or no address -/
  refused : (¬ ∃ userRecord address, SPasswordResource.Askable w u allowed userRecord address) →
    final (SPasswordResource.askForCheckEmailCode conf allowed uuid server u) w = w
  /-- whatever becomes of the mail -/
  letThrough : ∀ userRecord address row,
    SPasswordResource.Askable w u allowed userRecord address → w.spassword u = some row →
      CodeReplaced w (final (SPasswordResource.askForCheckEmailCode conf allowed uuid server u) w) u
        uuid row false
  /-- without a row there is nothing to write -/
  noRow : w.spassword u = none →
    (final (SPasswordResource.askForCheckEmailCode conf allowed uuid server u) w).spassword =
      w.spassword

theorem recoveryEnds (conf : Conf) (w : World) (u : String) (uuid : ShortCode)
    (server : SmtpServer) : RecoveryEnds conf w u uuid server := by
  constructor
  · by_cases h : ∃ userRecord address row,
        SPasswordResource.Recoverable conf w u userRecord address row
    · obtain ⟨userRecord, address, row, h'⟩ := id h
      rw [SPasswordResource.run_recoverPassword_of_recoverable h', status_mailed_iff]
      refine ⟨fun hsent => ⟨userRecord, address, row, h', hsent⟩, ?_⟩
      rintro ⟨userRecord', address', row', h'', hsent⟩
      obtain rfl : address = address' :=
        address_unique h'.2.2.1 h''.2.2.1 h'.2.2.2.1 h''.2.2.2.1
      exact hsent
    · obtain ⟨e, he⟩ :=
        (SPasswordResource.recoverPassword_cases conf w u uuid server).resolve_right h
      rw [he]
      refine iff_of_false e.status_ne_ok ?_
      rintro ⟨userRecord, address, row, h', -⟩
      exact h ⟨userRecord, address, row, h'⟩
  · intro h
    obtain ⟨e, he⟩ :=
      (SPasswordResource.recoverPassword_cases conf w u uuid server).resolve_right h
    exact final_of_run_error he
  · intro userRecord address row h
    rw [final_congr (SPasswordResource.run_recoverPassword_of_recoverable h uuid server),
      final_bind_reads fun _ => reads_pure _, final_sendEmail]
    refine codeReplaced_of_table rfl ?_
    rw [← h.2.2.2.2.2]
    rfl

theorem askEnds (conf : Conf) (w : World) (u : String) (allowed : Bool) (uuid : ShortCode)
    (server : SmtpServer) : AskEnds conf w u allowed uuid server := by
  have hrefused (h : ¬ ∃ userRecord address,
      SPasswordResource.Askable w u allowed userRecord address) :
      ∃ e, (SPasswordResource.askForCheckEmailCode conf allowed uuid server u).run w = .error e w :=
    (SPasswordResource.askForCheckEmailCode_cases conf w u allowed uuid server).resolve_right h
  have hmailed {userRecord : UserRecord} {address : Address}
      (h : SPasswordResource.Askable w u allowed userRecord address) :
      ∃ mail handed, final (SPasswordResource.askForCheckEmailCode conf allowed uuid server u) w =
        (SPasswordResource.askedState w u uuid.code).note (.mailed u mail handed) := by
    refine ⟨⟨address, .checkEmail uuid.code
      (SPasswordResource.codeLink conf "checkemail" u uuid.code)⟩,
      (SendMail.delivery conf server address).1, ?_⟩
    rw [final_congr (SPasswordResource.run_askForCheckEmailCode_of_askable h uuid server),
      final_bind_reads fun _ => reads_pure _, final_sendEmail]
  constructor
  · by_cases h : ∃ userRecord address, SPasswordResource.Askable w u allowed userRecord address
    · obtain ⟨userRecord, address, h'⟩ := id h
      rw [SPasswordResource.run_askForCheckEmailCode_of_askable h', status_mailed_iff]
      refine ⟨fun hsent => ⟨userRecord, address, h', hsent⟩, ?_⟩
      rintro ⟨userRecord', address', h'', hsent⟩
      obtain rfl : address = address' := address_unique h'.2.1 h''.2.1 h'.2.2 h''.2.2
      exact hsent
    · obtain ⟨e, he⟩ := hrefused h
      rw [he]
      refine iff_of_false e.status_ne_ok ?_
      rintro ⟨userRecord, address, h', -⟩
      exact h ⟨userRecord, address, h'⟩
  · intro h
    obtain ⟨e, he⟩ := hrefused h
    exact final_of_run_error he
  · intro userRecord address row h hrow
    obtain ⟨mail, handed, hfinal⟩ := hmailed h
    rw [hfinal, SPasswordResource.askedState, hrow]
    exact codeReplaced_of_table rfl rfl
  · intro hrow
    by_cases h : ∃ userRecord address, SPasswordResource.Askable w u allowed userRecord address
    · obtain ⟨userRecord, address, h⟩ := h
      obtain ⟨mail, handed, hfinal⟩ := hmailed h
      rw [hfinal, SPasswordResource.askedState, hrow]
      rfl
    · obtain ⟨e, he⟩ := hrefused h
      rw [final_of_run_error he]

/-- **Requests for a code that do not succeed.** A request that is refused leaves everything as it
was. One that is let through leaves the row with the new code whatever becomes of its mail: after a
recovery the email is still verified, after a request for a check code it is not, and a code that
was mailed before is no longer accepted. -/
theorem failed_code_requests (conf : Conf) (w : World) (u : String) (allowed : Bool)
    (uuid : ShortCode) (server : SmtpServer) :
    RecoveryEnds conf w u uuid server ∧ AskEnds conf w u allowed uuid server :=
  ⟨recoveryEnds conf w u uuid server, askEnds conf w u allowed uuid server⟩

/-- The host of the mail server does not resolve: the request for a check code is answered with 400,
the code that verified the address is no longer accepted, and the address no longer verified. -/
theorem unmailed_code_unverifies :
    let w := run Sample.conf Sample.ticking (.initial Sample.users) Sample.setUp
    let ask := SPasswordResource.askForCheckEmailCode Sample.conf true Sample.code
      { SmtpServer.up with connect := .gaierror } "alice"
    answerStatus (ask.run w) = 400 ∧ (final ask w).spassword "alice" ≠ w.spassword "alice" ∧
      CodeAccepted w "alice" Sample.emailCode.code ∧
      ¬ CodeAccepted (final ask w) "alice" Sample.emailCode.code ∧
      EmailVerified w "alice" ∧ ¬ EmailVerified (final ask w) "alice" := by
  refine ⟨rfl, ?_, ⟨_, rfl⟩, ?_, ⟨_, rfl, rfl⟩, ?_⟩
  · intro h
    have hemail := congrArg (Option.map SPasswordModel.sndfaEmail) h
    exact absurd hemail (by decide)
  · rintro ⟨w', h⟩
    cases h
  · rintro ⟨row, hrow, hemail⟩
    cases hrow
    cases hemail

end KeystoneSpassword
