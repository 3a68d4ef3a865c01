import KeystoneSpassword.Addresses

/-!
# What authorises a reset

`_recover_password` mails a code with which `_reset_password` sets a new password. The code is kept
in the column of the codes that verify an email, it is compared by the same method, and a reset does
not spend it. So a reset also goes through with a code that was stored to verify an email, and with
a code that has been used before. This file says that nothing else goes wrong.

## Calls

The column holds a code and nothing of where it comes from, so all of this is about the calls of a
run. `Machine.Since` looks back from a call: one before it was of some kind, and none in between
ends what that one has begun. A code that is stored goes back to the call that has stored it, by
`since_of_run`, and that call is the latest one to issue a code for the user.

## Main definitions

* `Op.Recovers`, `Op.AsksCode` — the calls that issue a code for a user
* `Op.ChangesPassword` — a reset after which the user has another password
* `ResetsAuthorised` — every such reset is authorised by a recovery of its own

## Main results

* `changesPassword_iff` — when a reset changes the password, read off the state before it
* `resets_authorised_iff`
-/

namespace KeystoneSpassword

open StateProgram Machine

variable {conf : Conf} {clock : ℕ → Time} {u v code : String} {w w' : World}

/-! ### The calls that issue a code -/

/-- A recovery of the user that is let through, and that stores this code. -/
def Op.Recovers (conf : Conf) (u code : String) (w : World) : Op → Prop
  | .request (.recoverPassword v uuid _) => v = u ∧ uuid.code = code ∧
    ∃ userRecord address row, SPasswordResource.Recoverable conf w u userRecord address row
  | _ => False

/-- A call that asks for a code to verify the email of the user, and is let through. -/
def Op.AsksCode (u : String) (w : World) : Op → Prop
  | .request (.askForCheckEmailCode v _ _ allowed) =>
    v = u ∧ ∃ userRecord address, SPasswordResource.Askable w u allowed userRecord address
  | .userAskCheckEmailCode v _ => v = u
  | _ => False

/-- The call issues a code for the user. -/
def Op.IssuesCode (conf : Conf) (u : String) (w : World) (op : Op) : Prop :=
  (∃ code, op.Recovers conf u code w) ∨ op.AsksCode u w

theorem Op.Recovers.not_asksCode {op : Op} (h : op.Recovers conf u code w) :
    ¬ op.AsksCode u w := by
  unfold Op.Recovers at h
  split at h
  · exact id
  · exact h.elim

/-- Nobody issues a code for the user. -/
def issuesNoCode (u : String) : Policy where
  stores _ _ _ := True
  presents _ _ _ := True
  notes
    | .emailCodeIssued v _ _ => v ≠ u
    | _ => True

/-- Unless somebody issues a code, the stored one was there before. -/
theorem Move.emailCodeStored (h : Move clock (issuesNoCode u) v w w')
    (hstored : SPassword.EmailCodeStored w' u code) : SPassword.EmailCodeStored w u code := by
  by_cases hv : u = v
  · subst hv
    obtain ⟨row', hrow', hcode, hne⟩ := hstored
    cases h with
    | userRemoved => simp at hrow'
    | rowCreated user t hid hrow huser ht hnotes =>
      obtain rfl : SPassword.newRow user (.utc t) = row' := by simpa using hrow'
      cases hcode
    | rowRegistered user res t hid hrow huser ht hnotes =>
      obtain rfl : Identity.firstRow user (.utc t) res = row' := by simpa using hrow'
      cases hcode
    | rowTouched row _ hrow _ _ | attemptStored row _ _ hrow _ _
    | sndfaIssued row _ _ _ _ hrow _ _ _ _ _ | sndfaAccepted row _ _ hrow _ _ _ _ _
    | sndfaModified row _ hrow _ _ | blackModified row _ hrow _
    | emailCodeChecked row _ hrow _ _ _ =>
      obtain rfl := by simpa using hrow'
      exact ⟨row, hrow, hcode, hne⟩
    | emailCodeIssued row code origin hrow horigin hnotes => exact absurd rfl hnotes
    | recovered row code hrow hemail hissue hcheck => exact absurd rfl hissue
    | _ => exact ⟨row', hrow', hcode, hne⟩
  · obtain ⟨row, hrow, hrest⟩ := hstored
    exact ⟨row, ((h.other hv).2).symm.trans hrow, hrest⟩

/-- A call that issues no code for the user notes none, or changes nothing. -/
theorem step_eq_or_notes_of_not_issuesCode {op : Op} (h : ¬ op.IssuesCode conf u w) :
    step conf clock w op = w ∨ ∀ e, op.Notes conf e → (issuesNoCode u).notes e := by
  by_cases hnotes : ∃ c origin, op.Notes conf (.emailCodeIssued u c origin)
  · left
    obtain ⟨c, origin, hnotes⟩ := hnotes
    rcases Op.issues_of_notes hnotes with
      ⟨-, uuid, server, rfl⟩ | ⟨uuid, rfl⟩ | ⟨uuid, server, allowed, rfl⟩
    · rw [step_request]
      rcases SPasswordResource.recoverPassword_cases conf w u uuid server with ⟨e, he⟩ | hlet
      · exact final_of_run_error he
      · exact absurd (.inl ⟨uuid.code, rfl, rfl, hlet⟩) h
    · exact absurd (.inr rfl) h
    · rw [step_request]
      rcases SPasswordResource.askForCheckEmailCode_cases conf w u allowed uuid server with
        ⟨e, he⟩ | hlet
      · exact final_of_run_error he
      · exact absurd (.inr ⟨rfl, hlet⟩) h
  · right
    intro e he
    cases e with
    | emailCodeIssued v c origin =>
      show v ≠ u
      rintro rfl
      exact hnotes ⟨c, origin, he⟩
    | _ => trivial

/-- A recovery that is let through leaves its own code. -/
theorem code_of_recovers {userRecord : UserRecord} {address : Address} {row : SPasswordModel}
    (h : SPasswordResource.Recoverable conf w u userRecord address row) (uuid : ShortCode)
    (server : SmtpServer) (hstored : SPassword.EmailCodeStored
      (step conf clock w (.request (.recoverPassword u uuid server))) u code) :
    uuid.code = code := by
  obtain ⟨row', hrow', hcode, -⟩ := hstored
  rw [step_request, Request.program, final_congr
    (SPasswordResource.run_recoverPassword_of_recoverable h uuid server),
    final_bind_reads fun _ => reads_pure _, final_sendEmail] at hrow'
  obtain rfl : { row with sndfaEmailCode := some uuid.code } = row' := by
    simpa [SPasswordResource.recoveredState] using hrow'
  exact Option.some.inj hcode

/-- Where a stored code comes from, one call back. -/
theorem emailCodeStored_step (hreach : Reachable conf clock w) (op : Op)
    (h : SPassword.EmailCodeStored (step conf clock w op) u code) :
    (op.Recovers conf u code w ∨ op.AsksCode u w) ∨
      ¬ op.IssuesCode conf u w ∧ SPassword.EmailCodeStored w u code := by
  by_cases hissues : op.IssuesCode conf u w
  · left
    rcases hissues with ⟨c, hrecovers⟩ | hasks
    · left
      unfold Op.Recovers at hrecovers ⊢
      split at hrecovers
      · obtain ⟨rfl, -, userRecord, address, row, hlet⟩ := hrecovers
        exact ⟨rfl, code_of_recovers hlet _ _ h, userRecord, address, row, hlet⟩
      · exact hrecovers.elim
    · exact .inr hasks
  · refine .inr ⟨hissues, ?_⟩
    rcases step_eq_or_notes_of_not_issuesCode hissues with hstep | hnotes
    · rwa [hstep] at h
    · have hmoves : Moves clock (issuesNoCode u) op.userId w (step conf clock w op) :=
        step_moves (onOrEmpty_of_reachable hreach) (Op.allowed_of_forall w (fun _ _ _ => trivial)
          (fun _ _ _ => trivial) hnotes)
      exact keeps_of_steps
        (I := fun s => SPassword.EmailCodeStored s u code → SPassword.EmailCodeStored w u code)
        (fun s s' hmove hs hstored => hs (hmove.emailCodeStored hstored)) hmoves id h

/-! ### The resets -/

/-- The call resets the password of the user. -/
def Op.Resets (u : String) : Op → Prop
  | .request (.resetPassword v _ _ _ _) => v = u
  | _ => False

/-- The call is a reset, and after it the user has another password. -/
def Op.ChangesPassword (conf : Conf) (clock : ℕ → Time) (u : String) (w : World) (op : Op) : Prop :=
  op.Resets u ∧ passwordOf (step conf clock w op) u ≠ passwordOf w u

/-- A reset with the stored code, which Keystone carries out, to another password. -/
def Op.GoesThrough (u : String) (w : World) : Op → Prop
  | .request (.resetPassword v code newPassword fault _) => v = u ∧ fault = none ∧
    SPassword.EmailCodeStored w u code ∧ passwordOf w u ≠ some newPassword.password
  | _ => False

/-- The password a reset leaves: the drawn one if the code is stored and Keystone carries it out,
and otherwise the one that was there. -/
theorem passwordOf_resetPassword (hreach : Reachable conf clock w) (newPassword : NewPassword)
    (fault : Option PyExc) (server : SmtpServer) :
    (fault = none ∧ SPassword.EmailCodeStored w u code ∧
      passwordOf (step conf clock w (.request (.resetPassword u code newPassword fault server))) u =
        some newPassword.password) ∨
    (¬ (fault = none ∧ SPassword.EmailCodeStored w u code) ∧
      passwordOf (step conf clock w (.request (.resetPassword u code newPassword fault server))) u =
        passwordOf w u) := by
  have houtcome : SPasswordResource.ResetOutcome clock w u code newPassword.password fault
      (step conf clock w (.request (.resetPassword u code newPassword fault server))) := by
    rw [step_request]
    exact SPasswordResource.resetPassword_outcome ((onOrEmpty_of_reachable hreach).row u) code
      newPassword fault server
  generalize step conf clock w (.request (.resetPassword u code newPassword fault server)) = w'
    at houtcome
  cases houtcome with
  | nobody huser =>
    refine .inr ⟨fun h => ?_, rfl⟩
    obtain ⟨-, row, hrow, -⟩ := h
    exact (tracks_of_reachable hreach).user u row hrow huser
  | refused userRecord huser hcode =>
    refine .inr ⟨fun h => hcode h.2, ?_⟩
    rcases SPassword.run_checkEmailCode_of_mismatch hcode with h | ⟨row, -, -, h⟩ <;>
      rw [final_of_run_ok h]
    rfl
  | faulted userRecord row huser hrow hcode hne hfault =>
    exact .inr ⟨fun h => hfault h.1, rfl⟩
  | reset userRecord row huser hrow hcode hne hfault =>
    exact .inl ⟨hfault, ⟨row, hrow, hcode, hne⟩, by simp [passwordOf]⟩
  | mailed userRecord row mail handed huser hrow hcode hne hfault =>
    exact .inl ⟨hfault, ⟨row, hrow, hcode, hne⟩, by simp [passwordOf]⟩

/-- Whether a reset changes the password, read off the state before it. -/
theorem changesPassword_iff (hreach : Reachable conf clock w) (op : Op) :
    op.ChangesPassword conf clock u w ↔ op.GoesThrough u w := by
  unfold Op.ChangesPassword Op.Resets Op.GoesThrough
  split
  · rename_i v code newPassword fault server
    refine and_congr_right ?_
    rintro rfl
    rcases passwordOf_resetPassword hreach newPassword fault server with
      ⟨hfault, hstored, hpassword⟩ | ⟨hnot, hpassword⟩
    · rw [hpassword, and_iff_right hfault, and_iff_right hstored]
      exact ne_comm
    · rw [hpassword]
      exact iff_of_false (fun h => h rfl) fun h => hnot ⟨h.1, h.2.1⟩
  · exact iff_of_false (fun h => h.1) id

theorem Op.Recovers.not_goesThrough {op : Op} (h : op.Recovers conf u code w) :
    ¬ op.GoesThrough u w := by
  unfold Op.Recovers at h
  split at h
  · exact id
  · exact h.elim

/-! ### The authorisation -/

section Authorised

variable (conf : Conf) (clock : ℕ → Time) (users : String → Option UserRecord)

/-- Every reset that changes the password of a user is authorised: a recovery of that user has
issued this very code, and between the two no code was issued for the user, and no reset has
changed the password of the user. -/
def ResetsAuthorised (ops : List Op) : Prop :=
  ∀ before u code newPassword fault server after,
    ops = before ++ .request (.resetPassword u code newPassword fault server) :: after →
    (Op.request (.resetPassword u code newPassword fault server)).ChangesPassword conf clock u
      (run conf clock (.initial users) before) →
    Since (step conf clock) (fun w op => op.Recovers conf u code w)
      (fun w op => op.IssuesCode conf u w ∨ op.ChangesPassword conf clock u w)
      (.initial users) before

/-- No reset goes through on a code that was asked for to verify the email, and none on a code on
which one has gone through before. -/
def CodesSpentOnce (ops : List Op) : Prop :=
  ∀ before op after u, ops = before ++ op :: after →
    op.GoesThrough u (run conf clock (.initial users) before) →
    ¬ Since (step conf clock) (fun w op => op.AsksCode u w) (fun w op => op.IssuesCode conf u w)
        (.initial users) before ∧
      ¬ Since (step conf clock) (fun w op => op.GoesThrough u w)
        (fun w op => op.IssuesCode conf u w) (.initial users) before

end Authorised

/-- A code that is stored goes back to the latest call that has issued one for the user. -/
theorem issued_of_emailCodeStored (users : String → Option UserRecord) {ops : List Op}
    (h : SPassword.EmailCodeStored (run conf clock (.initial users) ops) u code) :
    Since (step conf clock) (fun w op => op.Recovers conf u code w ∨ op.AsksCode u w)
      (fun w op => op.IssuesCode conf u w) (.initial users) ops := by
  refine since_of_run (I := Reachable conf clock)
    (J := fun w => SPassword.EmailCodeStored w u code) (fun _ op hw => hw.step op)
    (fun w op hw hstored => emailCodeStored_step hw op hstored) ⟨users, [], rfl⟩ ?_ h
  rintro ⟨row, hrow, -⟩
  cases hrow

/-- Which resets have changed the password, by the states before them. -/
theorem since_changesPassword_iff (users : String → Option UserRecord) (ops : List Op) :
    Since (step conf clock) (fun w op => op.Recovers conf u code w)
        (fun w op => op.IssuesCode conf u w ∨ op.ChangesPassword conf clock u w)
        (.initial users) ops ↔
      Since (step conf clock) (fun w op => op.Recovers conf u code w)
        (fun w op => op.IssuesCode conf u w ∨ op.GoesThrough u w) (.initial users) ops :=
  since_congr_right (I := Reachable conf clock) (fun _ op hw => hw.step op)
    (fun _ op hw => or_congr_right (changesPassword_iff hw op)) ⟨users, [], rfl⟩ ops

/-- **The authorisation of a reset.** In a run every change of a password by a reset is authorised
by an unused recovery, whose code is the last one issued for the user, if and only if no code that
was asked for to verify an email, and no code a second time, resets a password. -/
theorem resets_authorised_iff (users : String → Option UserRecord) (ops : List Op) :
    ResetsAuthorised conf clock users ops ↔ CodesSpentOnce conf clock users ops := by
  have hreach : ∀ before, Reachable conf clock (run conf clock (.initial users) before) :=
    fun before => ⟨users, before, rfl⟩
  constructor
  · intro h before op after u hops hthrough
    obtain ⟨code, newPassword, fault, server, rfl⟩ : ∃ code newPassword fault server,
        op = .request (.resetPassword u code newPassword fault server) := by
      unfold Op.GoesThrough at hthrough
      split at hthrough
      · obtain ⟨rfl, -⟩ := hthrough
        exact ⟨_, _, _, _, rfl⟩
      · exact hthrough.elim
    have hsince := h before u code newPassword fault server after hops
      ((changesPassword_iff (hreach before) _).mpr hthrough)
    refine ⟨hsince.not_since (fun _ _ hr => ⟨.inl ⟨code, hr⟩, hr.not_asksCode⟩)
      fun _ _ hasks => .inl (.inr hasks), ?_⟩
    exact ((since_changesPassword_iff users before).mp hsince).not_since
      (fun _ _ hr => ⟨.inl ⟨code, hr⟩, hr.not_goesThrough⟩) fun _ _ hgoes => .inr hgoes
  · intro h before u code newPassword fault server after hops hchanges
    have hthrough := (changesPassword_iff (hreach before) _).mp hchanges
    obtain ⟨hasked, hused⟩ := h before _ after u hops hthrough
    obtain ⟨-, -, hstored, -⟩ := hthrough
    have hissued := (since_or before).mp (issued_of_emailCodeStored users hstored)
    exact (since_changesPassword_iff users before).mpr
      ((hissued.resolve_right hasked).or_right hused)

/-- A code that was asked for to verify an email resets the password. A code that a recovery has
issued resets it twice. -/
theorem unauthorised_resets :
    let reset (code : ShortCode) (newPassword : NewPassword) : Op :=
      .request (.resetPassword "alice" code.code newPassword none .up)
    let asked : List Op :=
      [Sample.login, .request (.askForCheckEmailCode "alice" Sample.emailCode .up true)]
    let recovered : List Op := Sample.setUp ++ [.request (.recoverPassword "alice" Sample.code .up)]
    ¬ ResetsAuthorised Sample.conf Sample.ticking Sample.users
        (asked ++ [reset Sample.emailCode Sample.newPassword]) ∧
      ¬ ResetsAuthorised Sample.conf Sample.ticking Sample.users
        (recovered ++ [reset Sample.code Sample.newPassword] ++
          [reset Sample.code ⟨"89ab-cdef-01", rfl⟩]) := by
  intro reset asked recovered
  constructor
  · intro h
    refine not_since_of_forall ?_
      (h asked "alice" _ Sample.newPassword none .up [] rfl ⟨rfl, by decide⟩)
    simp [asked, Sample.login, Op.Recovers]
  · intro h
    have hfirst : (reset Sample.code Sample.newPassword).ChangesPassword Sample.conf Sample.ticking
        "alice" (run Sample.conf Sample.ticking (.initial Sample.users) recovered) :=
      ⟨rfl, by decide⟩
    have hsecond := h (recovered ++ [reset Sample.code Sample.newPassword]) "alice" _ _ none .up []
      rfl ⟨rfl, by decide⟩
    rcases (since_snoc recovered _).mp hsecond with hrecovers | ⟨hunused, -⟩
    · exact hrecovers
    · exact hunused (.inr hfirst)

end KeystoneSpassword
