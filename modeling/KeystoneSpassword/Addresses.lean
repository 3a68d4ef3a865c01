import KeystoneSpassword.Invariants

/-!
# Who has an email code has an address

A login that waits for the second factor reads `email` from the dict of the user, and would lose the
attempt to a `KeyError` if the key were missing. It never is. The second factor asks for a verified
email, an email is verified with a stored code, and both handlers that have one stored test the
key first. An update of the user merges, so it does not take the key away, and a deletion takes
the row along.

The manager's own method stores a code without a test, so a run is one in which the method is
called as the handlers call it. Keystone draws the id of a user it creates, so the id is new.

## Main definitions

* `HasAddress`, `Addressed` — a row with an email code belongs to a user with an address
* `Op.AsCalled` — what the callers of two of the methods see to

## Main results

* `addressed_of_run`
-/

namespace KeystoneSpassword

open StateProgram Relation

variable {conf : Conf} {clock : ℕ → Time} {u v : String} {w w' : World}

/-- The user has a record with the key `email`. -/
def HasAddress (w : World) (u : String) : Prop := (w.users u).bind UserRecord.email ≠ none

instance (w : World) (u : String) : Decidable (HasAddress w u) :=
  inferInstanceAs (Decidable ((w.users u).bind UserRecord.email ≠ none))

theorem HasAddress.exists (h : HasAddress w u) :
    ∃ userRecord, w.users u = some userRecord ∧ userRecord.email ≠ none := by
  cases huser : w.users u with
  | none => exact absurd (by simp [huser]) h
  | some userRecord => exact ⟨userRecord, rfl, by simpa [HasAddress, huser] using h⟩

theorem hasAddress_of_record {userRecord : UserRecord} (huser : w.users u = some userRecord)
    (h : userRecord.email ≠ none) : HasAddress w u := by
  rwa [HasAddress, huser, Option.bind_some]

/-- The row has no email code, and so far nobody has verified the email. -/
def Codeless (w : World) (u : String) : Prop :=
  ∀ row, w.spassword u = some row → row.sndfaEmail = false ∧ truthy row.sndfaEmailCode = false

theorem codeless_of_row {row : SPasswordModel} (hrow : w.spassword u = some row)
    (h : row.sndfaEmail = false ∧ truthy row.sndfaEmailCode = false) : Codeless w u := by
  intro row' hrow'
  obtain rfl : row = row' := Option.some.inj (hrow.symm.trans hrow')
  exact h

/-- Every row with an email code, or a verified email, belongs to a user with an address. -/
def Addressed (w : World) : Prop := ∀ u, HasAddress w u ∨ Codeless w u

/-- What the callers see to: Keystone creates a user under a new id, and a code is asked for after
the key `email` has been found in the dict of the user. -/
def Op.AsCalled (w : World) : Op → Prop
  | .createUser u _ => w.users u = none
  | .userAskCheckEmailCode u _ => HasAddress w u
  | _ => True

/-! ### An address stays -/

/-- Keystone takes no address away. -/
def keepsAddress : Policy where
  stores w v stored := HasAddress w v → ∃ userRecord, stored = some userRecord ∧
    userRecord.email ≠ none
  presents _ _ _ := True
  notes _ := True

theorem Move.hasAddress (h : Move clock keepsAddress u w w') (hw : HasAddress w u) :
    HasAddress w' u := by
  cases h with
  | recordStored userRecord hstores =>
    obtain ⟨_, hstored, hemail⟩ := hstores hw
    cases hstored
    exact hasAddress_of_record (Function.update_self ..) hemail
  | passwordStored userRecord password huser =>
    obtain ⟨_, huser', hemail⟩ := hw.exists
    obtain rfl : userRecord = _ := Option.some.inj (huser.symm.trans huser')
    exact hasAddress_of_record (Function.update_self ..) hemail
  | userRemoved hstores _ | userDropped hstores _ =>
    obtain ⟨_, hstored, -⟩ := hstores hw
    cases hstored
  | _ => exact hw

/-- A call that deletes nobody leaves the user an address. -/
theorem step_hasAddress (henabled : conf.enabled = true) {op : Op} (hop : op.AsCalled w)
    (hdelete : op ≠ .deleteUser op.userId) (hw : HasAddress w op.userId) :
    HasAddress (step conf clock w op) op.userId := by
  suffices hadmitted : op.Admitted keepsAddress w from
    keeps_of_steps (I := fun w => HasAddress w op.userId) (fun s s' hmove hs => hmove.hasAddress hs)
      (step_moves (.inl henabled) ⟨hadmitted, fun _ _ => trivial⟩) hw
  cases op with
  | createUser u userRecord =>
    intro hsome
    rw [HasAddress, show w.users u = none from hop] at hsome
    exact absurd rfl hsome
  | updateUser u userRecord =>
    intro old huser hsome
    obtain ⟨_, huser', hemail⟩ := hsome.exists
    obtain rfl : old = _ := Option.some.inj (huser.symm.trans huser')
    exact ⟨_, rfl, UserRecord.merge_email_ne_none hemail userRecord⟩
  | deleteUser u => exact absurd rfl hdelete
  | request r => cases r <;> simp [Op.Admitted, keepsAddress]
  | _ => simp [Op.Admitted, keepsAddress]

/-! ### No code without an address -/

/-- No code is stored but by a recovery, which asks for a verified email. -/
def storesNoCode : Policy where
  stores _ _ _ := True
  presents _ _ _ := True
  notes
    | .emailCodeIssued _ _ origin => origin = .recover
    | _ => True

theorem Move.codeless (h : Move clock storesNoCode u w w') (hw : Codeless w u) :
    Codeless w' u := by
  cases h with
  | userRemoved => exact fun row hsome => by simp at hsome
  | rowCreated user t hid hrow huser ht hnotes
  | rowRegistered user res t hid hrow huser ht hnotes =>
    exact codeless_of_row (Function.update_self ..) ⟨rfl, rfl⟩
  | rowTouched row t hrow ht hnotes | blackModified row enable hrow hnotes
  | attemptStored row attempts t hrow hattempts hnotes =>
    exact codeless_of_row (Function.update_self ..) (hw row hrow)
  | sndfaIssued row code t tv older hrow hsndfa hemail hverdict ht hnotes
  | sndfaAccepted row code t hrow hsndfa hemail hcode ht hnotes
  | sndfaModified row enable hrow hemail hnotes
  | recovered row code hrow hemail hissue hcheck =>
    rw [(hw row hrow).1] at hemail
    cases hemail
  | emailCodeIssued row code origin hrow horigin hnotes => exact absurd hnotes horigin
  | emailCodeChecked row code hrow hstored hpresents hnotes =>
    rw [(hw row hrow).2] at hstored
    cases hstored
  | _ => exact hw

/-- A request for a check code finds out that there is no address. -/
theorem step_askForCheckEmailCode_of_no_address (uuid : ShortCode) (server : SmtpServer)
    (allowed : Bool) (h : ¬ HasAddress w u) :
    step conf clock w (.request (.askForCheckEmailCode u uuid server allowed)) = w := by
  rw [step_request]
  rcases SPasswordResource.askForCheckEmailCode_cases conf w u allowed uuid server with
    ⟨e, he⟩ | ⟨userRecord, address, -, huser, haddress⟩
  · exact final_of_run_error he
  · exact absurd (hasAddress_of_record huser (by simp [haddress])) h

/-- Which calls store a code: a recovery, and the two that ask for one. -/
theorem Op.issues_of_notes {op : Op} {c : String} {origin : CodeOrigin}
    (h : op.Notes conf (.emailCodeIssued v c origin)) :
    (origin = .recover ∧ ∃ uuid server, op = .request (.recoverPassword v uuid server)) ∨
      (∃ uuid, op = .userAskCheckEmailCode v uuid) ∨
      ∃ uuid server allowed, op = .request (.askForCheckEmailCode v uuid server allowed) := by
  cases op with
  | userAskCheckEmailCode u uuid =>
    obtain ⟨rfl, -⟩ : v = u ∧ _ := h
    exact .inr (.inl ⟨uuid, rfl⟩)
  | request r =>
    cases r with
    | recoverPassword u uuid server =>
      obtain ⟨rfl, horigin⟩ : v = u ∧ origin = .recover := h
      exact .inl ⟨horigin, uuid, server, rfl⟩
    | askForCheckEmailCode u uuid server allowed =>
      obtain ⟨rfl, -⟩ : v = u ∧ _ := h
      exact .inr (.inr ⟨uuid, server, allowed, rfl⟩)
    | _ => simp [Op.Notes, Request.Notes, Event.OfReset, Event.OfSndfaCheck,
        Event.OfEmailCheck] at h
  | _ => simp [Op.Notes, Event.OfUserEvent, Event.OfLogin, Event.OfEmailCheck,
      Event.OfSndfaCheck] at h

/-- A call gives no code to a user without an address. -/
theorem step_codeless (henabled : conf.enabled = true) {op : Op} (hop : op.AsCalled w)
    (haddress : ¬ HasAddress w op.userId) (hw : Codeless w op.userId) :
    Codeless (step conf clock w op) op.userId := by
  by_cases hask : ∃ uuid server allowed,
      op = .request (.askForCheckEmailCode op.userId uuid server allowed)
  · obtain ⟨uuid, server, allowed, hop'⟩ := hask
    have hstep : step conf clock w op = w := by
      rw [hop']
      exact step_askForCheckEmailCode_of_no_address uuid server allowed haddress
    rwa [hstep]
  · have hnotes : ∀ e, op.Notes conf e → storesNoCode.notes e := by
      intro e he
      cases e with
      | emailCodeIssued v c origin =>
        rcases Op.issues_of_notes he with
          ⟨horigin, -⟩ | ⟨uuid, rfl⟩ | ⟨uuid, server, allowed, rfl⟩
        · exact horigin
        · exact absurd hop haddress
        · exact absurd ⟨uuid, server, allowed, rfl⟩ hask
      | _ => trivial
    exact keeps_of_steps (I := fun w => Codeless w op.userId)
      (fun s s' hmove hs => hmove.codeless hs)
      (step_moves (.inl henabled) (Op.allowed_of_forall w (fun _ _ _ => trivial)
        (fun _ _ _ => trivial) hnotes)) hw

/-! ### Runs -/

theorem Addressed.step (henabled : conf.enabled = true) (h : Addressed w) {op : Op}
    (hop : op.AsCalled w) : Addressed (KeystoneSpassword.step conf clock w op) := by
  intro v
  by_cases hv : v = op.userId
  · subst hv
    by_cases hdelete : op = .deleteUser op.userId
    · right
      intro row hrow
      rw [hdelete, KeystoneSpassword.step, Op.program, final_deleteUser henabled] at hrow
      simp [Op.userId] at hrow
    · rcases h op.userId with haddress | hcodeless
      · exact .inl (step_hasAddress henabled hop hdelete haddress)
      · by_cases haddress : HasAddress w op.userId
        · exact .inl (step_hasAddress henabled hop hdelete haddress)
        · exact .inr (step_codeless henabled hop haddress hcodeless)
  · obtain ⟨husers, hspassword⟩ : (KeystoneSpassword.step conf clock w op).users v = w.users v ∧
        (KeystoneSpassword.step conf clock w op).spassword v = w.spassword v :=
      keeps_of_steps (I := fun s => s.users v = w.users v ∧ s.spassword v = w.spassword v)
        (fun s s' hmove hs => ⟨(hmove.other hv).1.trans hs.1, (hmove.other hv).2.trans hs.2⟩)
        (step_moves (.inl henabled) (Op.allowed_any conf w op)) ⟨rfl, rfl⟩
    rw [HasAddress, Codeless, husers, hspassword]
    exact h v

/-- Nobody has a row yet. -/
theorem addressed_initial (users : String → Option UserRecord) : Addressed (.initial users) :=
  fun _ => .inr fun row hrow => by cases hrow

/-- **Who has an email code has an address.** -/
theorem addressed_of_run (henabled : conf.enabled = true) (users : String → Option UserRecord)
    {ops : List Op}
    (h : Machine.Along (step conf clock) (fun w op => op.AsCalled w) (.initial users) ops) :
    Addressed (run conf clock (.initial users) ops) :=
  Machine.run_invariant (I := Addressed) (fun _ _ hop hw => hw.step henabled hop) h
    (addressed_initial users)

end KeystoneSpassword
