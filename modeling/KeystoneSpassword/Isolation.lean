import KeystoneSpassword.Congruence
import KeystoneSpassword.Noninterference
import KeystoneSpassword.WrongCode

/-!
# Users do not get in each other's way

A call names one user. It reads and writes the record and the row of that user and nothing else, so
what becomes of a user depends on the calls about that user only: not on who else there is, nor on
what is called for the others in between.

Two states are compared from the point of view of one user. Their clocks may be different ones, as
long as a call that starts in either reads the same times. A program that sees no further than the
user does the same in both, and then they look alike still. A call about somebody else leaves the
view of the user as it was.

## Main definitions

* `SameView` — two states look alike to a user
* `Sees` — a program sees no further than the user

## Main results

* `users_isolated`
-/

namespace KeystoneSpassword

open StateProgram Relation

variable {conf : Conf} {clock clock' : ℕ → Time} {u : String} {w w' : World}

/-! ### The view of a user -/

/-- The record, the row and the events of the user are the same. -/
structure SameView (u : String) (w w' : World) : Prop where
  user : w.users u = w'.users u
  row : w.spassword u = w'.spassword u
  events : w.log.filter (·.userId = u) = w'.log.filter (·.userId = u)

/-- The states look alike to the user, and their clocks will read the same. -/
structure SameFuture (clock clock' : ℕ → Time) (u : String) (w w' : World) : Prop extends
    SameView u w w' where
  readings : ∀ i, clock (w.ticks + i) = clock' (w'.ticks + i)

/-- From states that look alike to the user the program returns the same, under either clock, and
leaves states that look alike. -/
def Sees {α : Type} (clock clock' : ℕ → Time) (u : String) (m : (ℕ → Time) → Py α) : Prop :=
  Relates Eq (SameFuture clock clock' u) (m clock) (m clock')

section Rules

variable {α β : Type}

theorem SameFuture.tick (h : SameFuture clock clock' u w w') :
    SameFuture clock clock' u w.tick w'.tick where
  user := h.user
  row := h.row
  events := h.events
  readings i := by
    rw [World.tick_ticks, World.tick_ticks, Nat.add_assoc, Nat.add_assoc]
    exact h.readings (1 + i)

theorem SameFuture.note (h : SameFuture clock clock' u w w') (e : Event) :
    SameFuture clock clock' u (w.note e) (w'.note e) where
  user := h.user
  row := h.row
  events := by rw [World.note_log, World.note_log, List.filter_cons, List.filter_cons, h.events]
  readings := h.readings

theorem SameFuture.setRow (h : SameFuture clock clock' u w w') (row : Option SPasswordModel) :
    SameFuture clock clock' u (w.setRow u row) (w'.setRow u row) where
  user := h.user
  row := by simp
  events := h.events
  readings := h.readings

theorem SameFuture.setUser (h : SameFuture clock clock' u w w') (userRecord : Option UserRecord) :
    SameFuture clock clock' u (w.setUser u userRecord) (w'.setUser u userRecord) where
  user := by simp
  row := h.row
  events := h.events
  readings := h.readings

theorem SameFuture.recordChanged (h : SameFuture clock clock' u w w') (old new : UserRecord) :
    SameFuture clock clock' u (recordChanged w u old new) (recordChanged w' u old new) := by
  rw [KeystoneSpassword.recordChanged, KeystoneSpassword.recordChanged]
  split_ifs
  · exact (h.setUser _).note _
  · exact h.setUser _

theorem sees_pure (a : α) : Sees clock clock' u fun _ => pure a := relates_pure rfl

theorem sees_throw (e : PyExc) : Sees clock clock' u fun _ => (throw e : Py α) := relates_throw e

theorem sees_ofExcept (x : Except PyExc α) : Sees clock clock' u fun _ => ofExcept x :=
  (respects_ofExcept x).relates fun _ => rfl

theorem sees_record (e : Event) : Sees clock clock' u fun _ => record e :=
  relates_modify rfl fun _ _ h => h.note e

theorem Sees.bind {m : (ℕ → Time) → Py α} {f : (ℕ → Time) → α → Py β} (hm : Sees clock clock' u m)
    (hf : ∀ a, Sees clock clock' u fun c => f c a) :
    Sees clock clock' u fun c => m c >>= f c :=
  Relates.bind hm fun a _ hab => hab ▸ hf a

theorem Sees.ite {p : Prop} [Decidable p] {m n : (ℕ → Time) → Py α} (hm : Sees clock clock' u m)
    (hn : Sees clock clock' u n) : Sees clock clock' u fun c => if p then m c else n c :=
  Relates.ite hm hn

/-- A reading of the clock. -/
theorem sees_utcnow : Sees clock clock' u utcnow := by
  intro w w' h
  have hnow : clock w.ticks = clock' w'.ticks := h.readings 0
  rw [run_utcnow, run_utcnow, hnow]
  exact .ok rfl h.tick

theorem sees_getSpasswordSession : Sees clock clock' u fun _ => getSpasswordSession u :=
  fun _ _ h => .ok h.row h

theorem sees_sessionUpdate (assign : SPasswordModel → SPasswordModel) :
    Sees clock clock' u fun _ => sessionUpdate u assign :=
  relates_modify rfl fun _ _ h => h.row ▸ h.setRow _

theorem sees_sessionDelete : Sees clock clock' u fun _ => sessionDelete u :=
  relates_modify rfl fun _ _ h => h.setRow none

theorem sees_sessionInsert {row : SPasswordModel} (hrow : row.userId = u) :
    Sees clock clock' u fun _ => sessionInsert row := by
  subst hrow
  intro w w' h
  cases hw : w'.spassword row.userId with
  | none =>
    rw [run_sessionInsert w (h.row.trans hw), run_sessionInsert w' hw]
    exact .ok rfl (h.setRow _)
  | some row' =>
    have hraises (s : World) (hs : s.spassword row.userId = some row') :
        (sessionInsert row).run s = .error .integrityError s := by simp [sessionInsert, hs]
    rw [hraises w (h.row.trans hw), hraises w' hw]
    exact .error _ h

/-- What `get_user` returns has the id it was asked for. -/
theorem sees_getUser {f : (ℕ → Time) → User → Py α}
    (hf : ∀ user, user.id = u → Sees clock clock' u fun c => f c user) :
    Sees clock clock' u fun c => getUser u >>= f c := by
  intro w w' h
  cases hw : w'.users u with
  | none =>
    rw [EStateM.run_bind, EStateM.run_bind, run_getUser_none w (h.user.trans hw),
      run_getUser_none w' hw]
    exact .error _ h
  | some userRecord =>
    rw [EStateM.run_bind, EStateM.run_bind, run_getUser_some w (h.user.trans hw),
      run_getUser_some w' hw]
    exact hf (userRecord.toUser u) rfl w w' h

/-- A method that looks at the row first. -/
theorem sees_row {f : (ℕ → Time) → Option SPasswordModel → Py α}
    (hnone : Sees clock clock' u fun c => f c none)
    (hsome : ∀ row, Sees clock clock' u fun c => f c (some row)) :
    Sees clock clock' u fun c => getSpasswordSession u >>= f c :=
  sees_getSpasswordSession.bind fun row => by
    cases row with
    | none => exact hnone
    | some row => exact hsome row

theorem sees_setUser (userRecord : Option UserRecord) :
    Sees clock clock' u fun _ => modify fun w => w.setUser u userRecord :=
  relates_modify rfl fun _ _ h => h.setUser userRecord

end Rules

/-! ### The driver -/

section Driver

variable (u : String)

theorem sees_removeUser : Sees clock clock' u fun _ => SPassword.removeUser u :=
  sees_row ((sees_pure ()).bind fun _ => sees_record _) fun _ =>
    sees_sessionDelete.bind fun _ => sees_record _

theorem sees_stampCreationTime {user : User} (huser : user.id = u) :
    Sees clock clock' u fun c => SPassword.stampCreationTime c user := by
  subst huser
  refine sees_row (sees_utcnow.bind fun now => ?_) fun _ => sees_utcnow.bind fun now => ?_
  · have hinsert : Sees clock clock' user.id fun _ => sessionInsert (SPassword.newRow user now) :=
      sees_sessionInsert rfl
    exact hinsert.bind fun _ => sees_record _
  · exact (sees_sessionUpdate _).bind fun _ => sees_record _

theorem sees_setUserSndfaCode (newcode : String) :
    Sees clock clock' u fun c => SPassword.setUserSndfaCode c u newcode := by
  refine sees_row (sees_pure ()) fun row => Sees.ite (Sees.ite ?_ (sees_pure ())) (sees_throw _)
  exact sees_utcnow.bind fun now => (sees_sessionUpdate _).bind fun _ => sees_record _

theorem sees_modifySndfa (enable : Bool) :
    Sees clock clock' u fun _ => SPassword.modifySndfa u enable := by
  refine sees_row (sees_pure false) fun row => Sees.ite ?_ (sees_pure false)
  exact (sees_sessionUpdate _).bind fun _ => (sees_record _).bind fun _ => sees_pure true

theorem sees_getSndfa : Sees clock clock' u fun _ => SPassword.getSndfa u :=
  sees_row (sees_pure false) fun _ => sees_pure _

theorem sees_checkSndfaCode (code : String) :
    Sees clock clock' u fun c => SPassword.checkSndfaCode c u code := by
  refine sees_row (sees_pure false) fun row => Sees.ite (Sees.ite ?_ (sees_pure false))
    (sees_pure false)
  exact sees_utcnow.bind fun now => (sees_sessionUpdate _).bind fun _ =>
    (sees_record _).bind fun _ => sees_pure true

theorem sees_getBlack : Sees clock clock' u fun _ => SPassword.getBlack u := by
  refine sees_row (sees_pure false) fun row => Sees.ite ?_ (sees_pure false)
  cases row.extra.lookup "black" with
  | none => exact sees_pure false
  | some black => exact sees_ofExcept _

theorem sees_getPwdExpiration : Sees clock clock' u fun _ => SPassword.getPwdExpiration conf u :=
  sees_row (sees_pure none) fun _ => (sees_ofExcept _).bind fun _ => sees_pure _

theorem sees_modifyBlack (enable : Bool) :
    Sees clock clock' u fun _ => SPassword.modifyBlack u enable :=
  sees_row (sees_pure false) fun _ =>
    (sees_sessionUpdate _).bind fun _ => (sees_record _).bind fun _ => sees_pure true

theorem sees_setCheckEmailCode (origin : CodeOrigin) (newcode : String) :
    Sees clock clock' u fun _ => SPassword.setCheckEmailCode origin u newcode :=
  sees_row (sees_pure ()) fun _ => (sees_sessionUpdate _).bind fun _ => sees_record _

theorem sees_checkEmailCode (code : String) :
    Sees clock clock' u fun _ => SPassword.checkEmailCode u code := by
  refine sees_row (sees_pure false) fun row => Sees.ite ?_ (sees_pure false)
  exact (sees_sessionUpdate _).bind fun _ => (sees_record _).bind fun _ => sees_pure _

theorem sees_alreadyEmailChecked : Sees clock clock' u fun _ => SPassword.alreadyEmailChecked u :=
  sees_row (sees_pure false) fun _ => Sees.ite (sees_pure _) (sees_throw _)

end Driver

/-! ### Keystone's users and their events -/

section Manager

variable (u : String)

theorem sees_userUpdatedCallback :
    Sees clock clock' u fun c => SPasswordManager.userUpdatedCallback conf c u :=
  sees_getUser fun _ huser => Sees.ite (sees_stampCreationTime u huser) (sees_pure ())

theorem sees_createUser (userRecord : UserRecord) :
    Sees clock clock' u fun c => IdentityApi.createUser conf c u userRecord :=
  (sees_setUser _).bind fun _ => (sees_record _).bind fun _ => sees_userUpdatedCallback u

theorem sees_updateUser (change : UserRecord → UserRecord) :
    Sees clock clock' u fun c => IdentityApi.updateUser conf c u change := by
  intro w w' h
  cases hw : w'.users u with
  | none =>
    have hraises (c : ℕ → Time) (s : World) (hs : s.users u = none) :
        (IdentityApi.updateUser conf c u change).run s = .error (.userNotFound u) s := by
      simp [IdentityApi.updateUser, hs]
    rw [hraises clock w (h.user.trans hw), hraises clock' w' hw]
    exact .error _ h
  | some old =>
    rw [run_updateUser (h.user.trans hw), run_updateUser hw]
    exact sees_userUpdatedCallback u _ _ (h.recordChanged old (change old))

theorem sees_deleteUser : Sees clock clock' u fun _ => IdentityApi.deleteUser conf u :=
  (sees_setUser none).bind fun _ => Sees.ite (sees_removeUser u) (sees_pure ())

theorem sees_userAskCheckEmailCode (origin : CodeOrigin) (uuid : ShortCode) :
    Sees clock clock' u fun _ => SPasswordManager.userAskCheckEmailCode origin u uuid :=
  (sees_alreadyEmailChecked u).bind fun _ => (sees_setCheckEmailCode u origin _).bind fun _ =>
    sees_pure _

end Manager

/-! ### A login -/

section Login

variable (u : String)

theorem sees_lockoutTest (row : Option SPasswordModel) :
    Sees clock clock' u fun c => Identity.lockoutTest conf c u row := by
  cases row with
  | none => exact sees_pure ()
  | some row =>
    refine Sees.ite ((sees_ofExcept _).bind fun last => sees_utcnow.bind fun now => ?_)
      (sees_pure ())
    exact Sees.ite ((sees_record _).bind fun _ => sees_throw _) (sees_pure ())

theorem sees_checkPassword : Sees clock clock' u fun c => Identity.checkPassword conf c u := by
  refine Sees.ite (sees_row (sees_pure ()) fun row => ?_) (sees_pure ())
  refine (sees_ofExcept _).bind fun checks => Sees.ite ?_ (sees_pure ())
  refine sees_utcnow.bind fun now => (sees_ofExcept _).bind fun creationTime => ?_
  exact Sees.ite ((sees_record _).bind fun _ => sees_throw _) (sees_pure ())

theorem sees_toPy (a : BaseAnswer) : Sees clock clock' u fun _ => Identity.BaseAnswer.toPy a :=
  (respects_toPy a).relates fun _ => rfl

theorem sees_verdict (env : AuthEnv) (password : String) :
    Sees clock clock' u fun c => Identity.verdict conf c env u password := by
  have hbase : Sees clock clock' u fun c => Identity.baseAuthenticate conf c env u password := by
    unfold Identity.baseAuthenticate
    cases env.base u password with
    | answer a => exact sees_toPy u a
    | check a => exact (sees_checkPassword u).bind fun _ => sees_toPy u a
  refine Sees.ite (sees_getSpasswordSession.bind fun row => ?_) hbase
  exact (sees_lockoutTest u row).bind fun _ => hbase

theorem sees_insideWindow (stored : Option DateTime) :
    Sees clock clock' u fun c => Identity.insideWindow conf c stored := by
  cases stored with
  | none => exact sees_pure false
  | some date =>
    exact (sees_ofExcept _).bind fun _ => sees_utcnow.bind fun _ => sees_pure _

theorem sees_sndfaCodeToMail (env : AuthEnv) (row : SPasswordModel) :
    Sees clock clock' u fun c => Identity.sndfaCodeToMail conf c env u row := by
  refine (sees_insideWindow u _).bind fun fresh => Sees.ite (sees_pure _) ?_
  exact sees_getUser fun user huser => huser ▸
    (sees_setUserSndfaCode user.id _).bind fun _ => sees_pure _

theorem sees_userEmail : Sees clock clock' u fun _ => Identity.userEmail u := by
  refine sees_getUser fun user _ => ?_
  cases user.email with
  | none => exact sees_throw _
  | some email => exact sees_pure email

theorem sees_sendEmail (server : SmtpServer) (mail : Mail) :
    Sees clock clock' u fun _ => SendMail.sendEmail conf server u mail :=
  (sees_record _).bind fun _ => sees_ofExcept _

theorem sees_secondFactor (env : AuthEnv) (row : SPasswordModel) :
    Sees clock clock' u fun c => Identity.secondFactor conf c env u row := by
  refine Sees.ite (Sees.ite ?_ (sees_pure _)) (sees_pure none)
  refine (sees_insideWindow u _).bind fun signed => Sees.ite (sees_pure none) ?_
  refine (sees_sndfaCodeToMail u env row).bind fun code => (sees_userEmail u).bind fun address => ?_
  exact (sees_sendEmail u _ _).bind fun _ => sees_pure _

theorem sees_registeredAttempt (env : AuthEnv) (row : SPasswordModel) (res : Option User)
    (now : DateTime) :
    Sees clock clock' u fun c => Identity.registeredAttempt conf c env u row res now := by
  refine (sees_ofExcept _).bind fun creationTime => ?_
  cases res with
  | none => exact (sees_sessionUpdate _).bind fun _ => sees_throw _
  | some user =>
    refine (sees_secondFactor u env row).bind fun refusal => (sees_sessionUpdate _).bind fun _ => ?_
    cases refusal with
    | some message => exact sees_throw _
    | none => exact (sees_record _).bind fun _ => sees_pure _

theorem sees_firstAttempt (res : Option User) (now : DateTime) :
    Sees clock clock' u fun _ => Identity.firstAttempt conf u res now := by
  refine sees_getUser fun user huser => ?_
  have hinsert : Sees clock clock' u fun _ => sessionInsert (Identity.firstRow user now res) :=
    sees_sessionInsert huser
  refine hinsert.bind fun _ => (sees_record _).bind fun _ => ?_
  cases res with
  | none => exact sees_throw _
  | some user => exact (sees_record _).bind fun _ => sees_pure _

theorem sees_attempt (env : AuthEnv) (res : Option User) :
    Sees clock clock' u fun c => Identity.attempt conf c env u res := by
  refine Sees.ite (sees_getSpasswordSession.bind fun row => ?_) ?_
  · refine sees_utcnow.bind fun now => (sees_record _).bind fun _ => ?_
    cases row with
    | none => exact sees_firstAttempt u res now
    | some row => exact sees_registeredAttempt u env row res now
  · cases res with
    | none => exact sees_throw _
    | some user => exact sees_pure _

theorem sees_authenticate (env : AuthEnv) (password : String) :
    Sees clock clock' u fun c => Identity.authenticate conf c env u password :=
  (sees_verdict u env password).bind fun res => sees_attempt u env res

end Login

/-! ### The requests -/

section Requests

variable (u : String)

theorem sees_checkSpasswordConfigured :
    Sees clock clock' u fun _ => SPasswordResource.checkSpasswordConfigured conf :=
  Sees.ite (sees_throw _) (sees_pure ())

theorem sees_enforceCall (allowed : Bool) :
    Sees clock clock' u fun _ => SPasswordResource.enforceCall allowed :=
  Sees.ite (sees_pure ()) (sees_throw _)

theorem sees_checkUserHasEmailDefined (user : User) :
    Sees clock clock' u fun _ => SPasswordResource.checkUserHasEmailDefined user := by
  unfold SPasswordResource.checkUserHasEmailDefined
  cases user.email with
  | none => exact sees_throw _
  | some email => exact sees_pure email

theorem sees_checkUserHasEmailValidated {user : User} (huser : user.id = u) :
    Sees clock clock' u fun _ => SPasswordResource.checkUserHasEmailValidated user :=
  huser ▸ (sees_alreadyEmailChecked user.id).bind fun _ => Sees.ite (sees_pure ()) (sees_throw _)

theorem sees_resetPassword (newPassword : NewPassword) (fault : Option PyExc) (server : SmtpServer)
    (code : String) : Sees clock clock' u fun c =>
      SPasswordResource.resetPassword conf c newPassword fault server u code := by
  have hupdate : Sees clock clock' u fun c =>
      SPasswordResource.updatePassword conf c u newPassword.password fault := by
    cases fault with
    | none => exact sees_updateUser u _
    | some e => cases e <;> exact sees_throw _
  refine sees_getUser fun user _ => (sees_checkEmailCode u code).bind fun matched => ?_
  refine Sees.ite (hupdate.bind fun _ => (sees_record _).bind fun _ => ?_) (sees_pure _)
  cases user.email with
  | none => exact sees_throw _
  | some address => exact (sees_sendEmail u server _).bind fun _ => sees_pure _

/-- Every handler sees no further than the user the request names. -/
theorem sees_request (r : Request) :
    Sees clock clock' r.userId fun c => r.program conf c := by
  cases r with
  | recoverPassword u uuid server =>
    refine (sees_checkSpasswordConfigured u).bind fun _ => sees_getUser fun user huser => ?_
    refine (sees_checkUserHasEmailDefined u user).bind fun address =>
      (sees_checkUserHasEmailValidated u huser).bind fun _ => ?_
    refine (sees_userAskCheckEmailCode u .recover uuid).bind fun code =>
      (sees_checkEmailCode u code).bind fun _ => ?_
    exact (sees_sendEmail u server _).bind fun _ => sees_pure _
  | resetPassword u code newPassword fault server =>
    exact sees_resetPassword u newPassword fault server code
  | modifySndfa u enable allowed =>
    refine (sees_checkSpasswordConfigured u).bind fun _ => (sees_enforceCall u allowed).bind
      fun _ => sees_getUser fun user huser => ?_
    refine (sees_checkUserHasEmailDefined u user).bind fun address =>
      (sees_checkUserHasEmailValidated u huser).bind fun _ => ?_
    cases enable.getD (.bool false) with
    | bool b => exact (sees_modifySndfa u b).bind fun _ => sees_pure _
    | _ => exact sees_throw _
  | getSndfa u allowed =>
    refine (sees_enforceCall u allowed).bind fun _ => sees_getUser fun user _ => ?_
    exact (sees_alreadyEmailChecked u).bind fun _ => (sees_getSndfa u).bind fun _ => sees_pure _
  | checkSndfaCode u code =>
    refine (sees_checkSpasswordConfigured u).bind fun _ => sees_getUser fun user huser => ?_
    refine (sees_checkUserHasEmailValidated u huser).bind fun _ => ?_
    exact (sees_checkSndfaCode u code).bind fun _ => Sees.ite (sees_pure _) (sees_pure _)
  | askForCheckEmailCode u uuid server allowed =>
    refine (sees_enforceCall u allowed).bind fun _ => sees_getUser fun user _ => ?_
    refine (sees_checkUserHasEmailDefined u user).bind fun address =>
      (sees_userAskCheckEmailCode u .checkemail uuid).bind fun code => ?_
    exact (sees_sendEmail u server _).bind fun _ => sees_pure _
  | checkEmailCode u code =>
    refine sees_getUser fun user _ => (sees_checkUserHasEmailDefined u user).bind fun _ => ?_
    exact (sees_checkEmailCode u code).bind fun _ => Sees.ite (sees_pure _) (sees_pure _)
  | modifyBlack u enable allowed =>
    refine (sees_checkSpasswordConfigured u).bind fun _ => (sees_enforceCall u allowed).bind
      fun _ => sees_getUser fun user _ => ?_
    cases enable.getD (.bool false) with
    | bool b => exact (sees_modifyBlack u b).bind fun _ => sees_pure _
    | _ => exact sees_throw _
  | getBlack u allowed =>
    refine (sees_enforceCall u allowed).bind fun _ => sees_getUser fun user _ => ?_
    exact (sees_getBlack u).bind fun _ => (sees_getPwdExpiration u).bind fun _ => sees_pure _

end Requests

/-! ### A call -/

theorem sees_call (op : Op) : Sees clock clock' op.userId fun c => op.program conf c := by
  cases op with
  | createUser u userRecord => exact sees_createUser u userRecord
  | updateUser u userRecord => exact sees_updateUser u _
  | deleteUser u => exact sees_deleteUser u
  | authenticate u password env =>
    exact (sees_authenticate u env password).bind fun _ => sees_pure ()
  | userModifySndfa u enable => exact (sees_modifySndfa u enable).bind fun _ => sees_pure ()
  | userGetSndfa u => exact (sees_getSndfa u).bind fun _ => sees_pure ()
  | userAskCheckEmailCode u uuid =>
    exact (sees_userAskCheckEmailCode u .manager uuid).bind fun _ => sees_pure ()
  | userCheckEmailCode u code => exact (sees_checkEmailCode u code).bind fun _ => sees_pure ()
  | alreadyUserCheckEmail u => exact (sees_alreadyEmailChecked u).bind fun _ => sees_pure ()
  | userCheckSndfaCode u code => exact (sees_checkSndfaCode u code).bind fun _ => sees_pure ()
  | userModifyBlack u enable => exact (sees_modifyBlack u enable).bind fun _ => sees_pure ()
  | userGetBlack u => exact (sees_getBlack u).bind fun _ => sees_pure ()
  | userGetPwdExpiration u => exact (sees_getPwdExpiration u).bind fun _ => sees_pure ()
  | request r => exact (sees_request r).bind fun _ => sees_pure ()

/-! ### Runs -/

theorem SameView.symm (h : SameView u w w') : SameView u w' w :=
  ⟨h.user.symm, h.row.symm, h.events.symm⟩

theorem SameView.trans {w'' : World} (h : SameView u w w') (h' : SameView u w' w'') :
    SameView u w w'' :=
  ⟨h.user.trans h'.user, h.row.trans h'.row, h.events.trans h'.events⟩

/-- Under readings of its own a call reads the same times wherever it starts. -/
theorem SameView.future (h : SameView u w w') (readings : ℕ → Time) :
    SameFuture (clockFrom w readings) (clockFrom w' readings) u w w' where
  toSameView := h
  readings i := (clockFrom_add w readings i).trans (clockFrom_add w' readings i).symm

section Sees

variable {α : Type} {m : (ℕ → Time) → Py α}

theorem Sees.final (hm : Sees clock clock' u m) (h : SameFuture clock clock' u w w') :
    SameFuture clock clock' u (final (m clock) w) (final (m clock') w') := by
  have halike := hm w w' h
  rw [StateProgram.final, StateProgram.final]
  generalize (m clock).run w = x at halike
  generalize (m clock').run w' = y at halike
  cases halike with
  | ok _ h' => exact h'
  | error _ h' => exact h'

theorem Sees.answer_eq (hm : Sees clock clock' u m) (h : SameFuture clock clock' u w w') :
    answer ((m clock).run w) = answer ((m clock').run w') := by
  have halike := hm w w' h
  generalize (m clock).run w = x at halike
  generalize (m clock').run w' = y at halike
  cases halike with
  | ok hab _ => exact congrArg Except.ok hab
  | error e _ => rfl

end Sees

/-- A call about the user does the same to both views. -/
theorem SameView.stepAt (h : SameView u w w') {call : TimedOp} (hcall : call.op.userId = u) :
    SameView u (stepAt conf w call) (stepAt conf w' call) := by
  subst hcall
  exact ((sees_call call.op).final (h.future call.readings)).toSameView

/-- Moves on one user leave the view of the others as it was. -/
theorem Moves.sameView {policy : Policy} (h : Moves clock policy v w w') (hne : u ≠ v) :
    SameView u w' w := by
  have hother : w'.users u = w.users u ∧ w'.spassword u = w.spassword u := by
    induction h with
    | refl => exact ⟨rfl, rfl⟩
    | tail _ hmove ih =>
      obtain ⟨huser, hrow⟩ := hmove.other hne
      exact ⟨huser.trans ih.1, hrow.trans ih.2⟩
  refine ⟨hother.1, hother.2, ?_⟩
  obtain ⟨new, hlog, hnew⟩ := h.log_eq
  have hforeign : new.filter (·.userId = u) = [] := by
    refine List.filter_eq_nil_iff.mpr fun e he => ?_
    rw [(hnew e he).1]
    simpa using hne.symm
  rw [hlog, List.filter_append, hforeign, List.nil_append]

theorem sameView_of_other (hon : OnOrEmpty conf w) {call : TimedOp} (hcall : u ≠ call.op.userId) :
    SameView u (stepAt conf w call) w := by
  have hmoves : Moves (clockFrom w call.readings) .any call.op.userId w (stepAt conf w call) :=
    step_moves hon (Op.allowed_any conf w call.op)
  exact hmoves.sameView hcall

theorem sameView_initial {users users' : String → Option UserRecord} (h : users u = users' u) :
    SameView u (.initial users) (.initial users') := ⟨h, rfl, rfl⟩

/-- The calls about other users can be left out. -/
theorem sameView_of_erased (hon : OnOrEmpty conf w) (hon' : OnOrEmpty conf w')
    (h : SameView u w w') (calls : List TimedOp) :
    SameView u (Machine.run (stepAt conf) w calls)
      (Machine.run (stepAt conf) w' (calls.filter (·.op.userId = u))) := by
  induction calls generalizing w w' with
  | nil => exact h
  | cons call calls ih =>
    have hon₁ : OnOrEmpty conf (KeystoneSpassword.stepAt conf w call) := onOrEmpty_step _ hon _
    by_cases hcall : call.op.userId = u
    · rw [List.filter_cons_of_pos (by simpa using hcall)]
      exact ih hon₁ (onOrEmpty_step _ hon' _) (h.stepAt hcall)
    · rw [List.filter_cons_of_neg (by simpa using hcall)]
      exact ih hon₁ hon' ((sameView_of_other hon (Ne.symm hcall)).trans h)

/-- **Users do not get in each other's way.** Two runs, with any other users in them, make the same
calls about `u` and any calls about the others in between. Afterwards `u` has the same record, the
same row and the same history in both, and every login and every request is answered the same. -/
theorem users_isolated {users users' : String → Option UserRecord} (husers : users u = users' u)
    {calls calls' : List TimedOp}
    (hcalls : calls.filter (·.op.userId = u) = calls'.filter (·.op.userId = u)) :
    let w := Machine.run (stepAt conf) (.initial users) calls
    let w' := Machine.run (stepAt conf) (.initial users') calls'
    SameView u w w' ∧ ∀ readings,
      (∀ password env,
        answer ((Identity.authenticate conf (clockFrom w readings) env u password).run w) =
          answer ((Identity.authenticate conf (clockFrom w' readings) env u password).run w')) ∧
      ∀ r : Request, r.userId = u →
        answer ((r.program conf (clockFrom w readings)).run w) =
          answer ((r.program conf (clockFrom w' readings)).run w') := by
  intro w w'
  have hon (users : String → Option UserRecord) : OnOrEmpty conf (.initial users) :=
    .inr fun _ => rfl
  have hview : SameView u w w' := by
    have h := sameView_of_erased (hon users) (hon users') (sameView_initial husers) calls
    have h' : SameView u w' _ :=
      sameView_of_erased (hon users') (hon users') (sameView_initial rfl) calls'
    rw [hcalls] at h
    exact h.trans h'.symm
  refine ⟨hview, fun readings => ⟨fun password env => ?_, fun r hr => ?_⟩⟩
  · exact (sees_authenticate u env password).answer_eq (hview.future readings)
  · subst hr
    exact (sees_request r).answer_eq (hview.future readings)

/-- `alice` logs in, once alone and once while `bob` is created and guessed at. -/
theorem users_isolated_guessed :
    let users' : String → Option UserRecord := fun u =>
      if u = "carol" then some Sample.alice else Sample.users u
    let calls : List TimedOp := [⟨Sample.login, Sample.ticking⟩, ⟨Sample.guess, Sample.hourly⟩]
    let calls' : List TimedOp := [⟨Sample.login, Sample.ticking⟩,
      ⟨.createUser "bob" Sample.alice, Sample.hourly⟩, ⟨Sample.guess, Sample.hourly⟩,
      ⟨.authenticate "bob" "guess" (Sample.env Sample.code), Sample.ticking⟩]
    SameView "alice" (Machine.run (stepAt Sample.conf) (.initial Sample.users) calls)
      (Machine.run (stepAt Sample.conf) (.initial users') calls') := by
  intro users' calls calls'
  have husers : Sample.users "alice" = users' "alice" := by simp [users']
  have hcalls : calls.filter (·.op.userId = "alice") = calls'.filter (·.op.userId = "alice") := rfl
  exact (users_isolated husers hcalls).1

end KeystoneSpassword
