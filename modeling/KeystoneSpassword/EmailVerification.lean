import KeystoneSpassword.Refusals
import KeystoneSpassword.Invariants

/-!
# The second factor and the verified email

The column `sndfa_email` is set by a matching code, and cleared whenever a code is issued or
compared without a match. `modify_sndfa` asks for it, in both directions. So a second factor that is
on can outlive the verification it was switched on under, and this file says by which events.

## Main definitions

* `Unconfirmed` — the email has become unverified, and nothing has settled it since

## Main results

* `second_factor_email_verified`
-/

namespace KeystoneSpassword

open StateProgram Relation History

variable {conf : Conf} {clock : ℕ → Time} {policy : Policy} {u v : String} {w w' : World}

/-! ### Events that matter to the email -/

/-- The event makes the email of the user unverified: a code is issued, or compared without a
match. -/
def Event.Unverifies (u : String) : Event → Prop
  | .emailCodeIssued v _ _ => v = u
  | .emailCodeChecked v _ matched => v = u ∧ matched = false
  | _ => False

/-- The event confirms the email of the user, or switches the second factor on. -/
def Event.Restores (u : String) : Event → Prop
  | .emailCodeChecked v _ matched => v = u ∧ matched = true
  | .sndfaModified v enable => v = u ∧ enable = true
  | _ => False

/-- The email has become unverified, and since then no code has matched and the second factor has
not been switched on. -/
def Unconfirmed (u : String) (log : List Event) : Prop :=
  ∃ newer e older, log = newer ++ e :: older ∧ e.Unverifies u ∧ ∀ e' ∈ newer, ¬ e'.Restores u

/-- The email is called into question by the last event, or it was before and the last event has
not settled it. -/
theorem unconfirmed_cons {e : Event} {log : List Event} :
    Unconfirmed u (e :: log) ↔ e.Unverifies u ∨ ¬ e.Restores u ∧ Unconfirmed u log := by
  constructor
  · rintro ⟨newer, e', older, heq, hunverifies, hnewer⟩
    cases newer with
    | nil =>
      obtain ⟨rfl, -⟩ := List.cons.inj heq
      exact .inl hunverifies
    | cons e₁ newer =>
      obtain ⟨rfl, rfl⟩ := List.cons.inj heq
      refine .inr ⟨hnewer e List.mem_cons_self, newer, e', older, rfl, hunverifies, ?_⟩
      exact fun e₂ h₂ => hnewer e₂ (List.mem_cons_of_mem e h₂)
  · rintro (hunverifies | ⟨hrestores, newer, e', older, rfl, hunverifies, hnewer⟩)
    · exact ⟨[], e, log, rfl, hunverifies, by simp⟩
    · refine ⟨e :: newer, e', older, rfl, hunverifies, fun e₂ h₂ => ?_⟩
      rcases List.mem_cons.mp h₂ with rfl | h₂
      · exact hrestores
      · exact hnewer e₂ h₂

/-- The second factor is switched only while the email is verified. -/
def SwitchedVerified (e : Event) (older : List Event) : Prop :=
  ∀ u enable, e = .sndfaModified u enable → register (emailFlag u) older = some true

/-- A flag that holds was written. -/
theorem eq_some_true_of_getD {flag : Option Bool} (h : flag.getD false = true) :
    flag = some true := by
  rcases Option.getD_eq_iff.mp h with hflag | ⟨-, hflag⟩
  · exact hflag
  · cases hflag

theorem Move.switchedVerified (h : Move clock policy u w w') (hw : Tracks w)
    (hlog : Justified SwitchedVerified w.log) : Justified SwitchedVerified w'.log := by
  cases h with
  | tick | recordStored _ _ | passwordStored _ _ _ | userDropped _ _ | attemptStored _ _ _ _ _ _ =>
    exact hlog
  | noted e huser hinert htime hnotes =>
    refine ⟨fun v enable he => ?_, hlog⟩
    rw [he] at hinert
    exact hinert.elim
  | recovered row code hrow hemail hissue hcheck =>
    exact ⟨(fun v enable he => by cases he), (fun v enable he => by cases he), hlog⟩
  | userRemoved _ _ | blackModified _ _ _ _ | emailCodeIssued _ _ _ _ _ _
  | emailCodeChecked _ _ _ _ _ _ | rowCreated _ _ _ _ _ _ _ | rowTouched _ _ _ _ _
  | rowRegistered _ _ _ _ _ _ _ _ | sndfaIssued _ _ _ _ _ _ _ _ _ _ _
  | sndfaAccepted _ _ _ _ _ _ _ _ _ | passwordReset _ _ _ _ _ _ =>
    exact ⟨(fun v enable he => by cases he), hlog⟩
  | sndfaModified row enable hrow hemail hnotes =>
    refine ⟨fun v enable' he => ?_, hlog⟩
    cases he
    exact eq_some_true_of_getD ((hw.follows u row hrow).sndfaEmail.symm.trans hemail)

theorem switchedVerified_of_reachable (h : Reachable conf clock w) :
    Justified SwitchedVerified w.log := by
  have hboth : Tracks w ∧ Justified SwitchedVerified w.log := by
    refine Reachable.of_moves (I := fun w => Tracks w ∧ Justified SwitchedVerified w.log)
      (fun users => ⟨tracks_initial users, trivial⟩) ?_ h
    exact fun _ _ _ hmove hw => ⟨hmove.tracks hw.1, hmove.switchedVerified hw.1 hw.2⟩
  exact hboth.2

/-- Whatever clears the one flag clears the other. -/
theorem emailFlag_ne_of_sndfaFlag {e : Event} (h : sndfaFlag u e = none) :
    emailFlag u e ≠ some none := by
  cases e <;> simp_all [sndfaFlag, emailFlag]

theorem sndfaFlag_eq_some {e : Event} {enable : Bool} (h : sndfaFlag u e = some (some enable)) :
    e = .sndfaModified u enable := by
  cases e <;> simp_all [sndfaFlag]

theorem unverifies_of_emailFlag {e : Event} (h : emailFlag u e = some (some false)) :
    e.Unverifies u := by
  cases e <;> simp_all [emailFlag, Event.Unverifies]

/-- The last word on the second factor, and what it says about the email. -/
theorem exists_switched {log : List Event} (hlog : Justified SwitchedVerified log)
    (h : register (sndfaFlag u) log = some true) :
    ∃ newer older, log = newer ++ .sndfaModified u true :: older ∧
      (∀ e ∈ newer, sndfaFlag u e = none) ∧ register (emailFlag u) older = some true := by
  obtain ⟨newer, e, older, rfl, he, hnewer⟩ := register_eq_some_iff.mp h
  obtain rfl := sndfaFlag_eq_some he
  exact ⟨newer, older, rfl, hnewer, hlog.at rfl u true rfl⟩

/-- A second factor that is on while the email is not verified. -/
theorem unconfirmed_of_flags {log : List Event} (hlog : Justified SwitchedVerified log)
    (hon : register (sndfaFlag u) log = some true)
    (hemail : register (emailFlag u) log ≠ some true) : Unconfirmed u log := by
  obtain ⟨newer, older, rfl, hnewer, holder⟩ := exists_switched hlog hon
  have hset : register (emailFlag u) (newer ++ .sndfaModified u true :: older) ≠ none := by
    refine register_append_ne_none (fun e he => emailFlag_ne_of_sndfaFlag (hnewer e he)) ?_
    rw [register_cons_of_none rfl, holder]
    simp
  obtain ⟨flag, hflag⟩ := Option.ne_none_iff_exists'.mp hset
  obtain rfl : flag = false := by
    rw [hflag] at hemail
    simpa using hemail
  obtain ⟨newer', e, older', heq, he, hnewer'⟩ := register_eq_some_iff.mp hflag
  refine ⟨newer', e, older', heq, unverifies_of_emailFlag he, ?_⟩
  intro e' he' hrestores
  cases e' with
  | emailCodeChecked v code matched =>
    obtain ⟨rfl, rfl⟩ := hrestores
    simpa [emailFlag] using hnewer' _ he'
  | sndfaModified v enable =>
    obtain ⟨rfl, rfl⟩ := hrestores
    -- it was switched on after the email had become unverified, which the guard excludes
    obtain ⟨later, between, rfl⟩ := List.append_of_mem he'
    have hcut : newer ++ .sndfaModified v true :: older =
        later ++ .sndfaModified v true :: (between ++ e :: older') := by
      rw [heq, List.append_assoc]
      rfl
    have hverified : register (emailFlag v) (between ++ e :: older') = some true :=
      hlog.at hcut v true rfl
    rw [register_append_of_none (fun e₁ h₁ => hnewer' e₁ (by simp [h₁])),
      register_cons_of_write he] at hverified
    cases hverified
  | _ => exact hrestores

/-- **A second factor that is on has a verified email**, in every reachable state, unless the email
has become unverified and nothing has settled it since. Then a login with the correct password is
not refused for it, and the second factor can be switched off. -/
theorem second_factor_email_verified (hreach : Reachable conf clock w) {row : SPasswordModel}
    (hrow : w.spassword u = some row) (hon : row.sndfa = true)
    (hconfirmed : ¬ Unconfirmed u w.log) :
    row.sndfaEmail = true ∧
      (∀ password env, ¬ UnverifiedRefusal conf clock w u password env) ∧
      (SPassword.modifySndfa u false).run w = .ok true
        ((w.setRow u (some { row with sndfa := false })).note (.sndfaModified u false)) := by
  have hfollows : RowFollows u w.log row := (tracks_of_reachable hreach).follows u row hrow
  have hswitched : register (sndfaFlag u) w.log = some true :=
    eq_some_true_of_getD (hfollows.sndfa.symm.trans hon)
  have hemail : row.sndfaEmail = true := by
    by_contra hunverified
    refine hconfirmed (unconfirmed_of_flags (switchedVerified_of_reachable hreach) hswitched ?_)
    intro hregister
    exact hunverified (by rw [hfollows.sndfaEmail, hregister]; rfl)
  refine ⟨hemail, fun password env hrefused => ?_, ?_⟩
  · obtain ⟨-, -, row', hrow', -, -, hunverified⟩ := (unverifiedRefusal_iff env).mp hrefused
    rw [hrow] at hrow'
    cases hrow'
    rw [hemail] at hunverified
    cases hunverified
  · simp [SPassword.modifySndfa, hrow, hemail]

/-- After the address is verified and the second factor switched on. -/
theorem second_factor_email_verified_set_up :
    let w := run Sample.conf Sample.ticking (.initial Sample.users) Sample.setUp
    (∃ row, w.spassword "alice" = some row ∧ row.sndfa = true ∧ row.sndfaEmail = true) ∧
      ∀ password env, ¬ UnverifiedRefusal Sample.conf Sample.ticking w "alice" password env := by
  intro w
  have hreach : Reachable Sample.conf Sample.ticking w := (reachable_initial Sample.users).run _
  have hconfirmed : ¬ Unconfirmed "alice" w.log := by
    show ¬ Unconfirmed "alice" (.sndfaModified "alice" true :: _)
    rw [unconfirmed_cons]
    simp [Event.Unverifies, Event.Restores]
  obtain ⟨hemail, hlogin, -⟩ := second_factor_email_verified hreach rfl rfl hconfirmed
  exact ⟨⟨_, rfl, rfl, hemail⟩, hlogin⟩

/-- A new code for a user with the second factor on: the email is no longer verified, the correct
password is refused for it, and the second factor cannot be switched off. -/
theorem asked_code_locks_second_factor :
    let w := run Sample.conf Sample.ticking (.initial Sample.users)
      (Sample.setUp ++ [.userAskCheckEmailCode "alice" Sample.code])
    (∃ row, w.spassword "alice" = some row ∧ row.sndfa = true ∧ row.sndfaEmail = false) ∧
      UnverifiedRefusal Sample.conf Sample.ticking w "alice" "secret" (Sample.env Sample.code) ∧
      (SPassword.modifySndfa "alice" false).run w = .ok false w :=
  ⟨⟨_, rfl, rfl, rfl⟩, ⟨_, rfl⟩, rfl⟩

end KeystoneSpassword
