import KeystoneSpassword.InterleavedLogins
import KeystoneSpassword.Uninterrupted

/-!
# What holds in every deployment

The results about calls that interleave. A deployment makes calls and lets them take their
database steps in any order. Every call is answered under its own configuration, a call may never
take another step, and nothing is assumed of the clock. `Deployment.sound_after` says that the
database is accounted for in every state and that every answer is true; the theorems here read off
what that means.

What an answer says of the rows that the call has found and of the readings it has taken is said of
the states in which that very call has taken its steps (`Deployment.ActsIn`).

A state that calls reach one after another is the state of a deployment, by
`deployment_of_reachable`, so all of this holds of the runs of the system too.

## Main results

* `interleaved_rows_traced` — where the columns of a row come from
* `interleaved_resets_authorised` — where a reset password comes from
* `interleaved_second_factor_gate` — what a token means
* `interleaved_lockouts_earned`, `interleaved_expiries_due` — what a refusal means
-/

namespace KeystoneSpassword

open StateProgram Interleaving Process Relation History

variable {conf : Conf} {clock : ℕ → Time} {u password : String} {env : AuthEnv} {d : Deployment}

/-- The `k`-th call of the deployment is over. It was made in the state `origin`, and it has
returned or raised. -/
def Deployment.Answered (d : Deployment) (k : ℕ) (call : Call) (origin : World)
    (a : Except PyExc (Option AuthResult)) : Prop :=
  d.entries[k]? = some ⟨call, origin, .done a⟩

/-- The answer of the `k`-th call, once it is over. -/
def Deployment.answer? (d : Deployment) (k : ℕ) : Option (Except PyExc (Option AuthResult)) :=
  match d.entries[k]? with
  | some ⟨_, _, .done a⟩ => some a
  | some ⟨_, _, .act _ _⟩ | none => none

namespace Sample

/-- The call, and enough turns to carry it out. The `n` calls before it are over. -/
def alone (call : Call) (n : ℕ) : List (Turn Call) := .start call :: List.replicate 20 (.act n)

/-- The calls one after another. -/
def inTurn (calls : List Call) : List (Turn Call) :=
  calls.zipIdx.flatMap fun p => alone p.1 p.2

/-- Two more calls, which take turns step by step. -/
def together (call call' : Call) (n : ℕ) : List (Turn Call) :=
  .start call :: .start call' :: (List.replicate 20 [.act n, .act (n + 1)]).flatten

/-- Some calls are carried out one after another, and then two interleave. -/
def turns (calls : List Call) (call call' : Call) : List (Turn Call) :=
  inTurn calls ++ together call call' calls.length

/-- The deployment that takes these turns. -/
def deployment (calls : List Call) (call call' : Call) : Deployment :=
  Deployment.after ticking users (turns calls call call')

theorem reachable_deployment (calls : List Call) (call call' : Call) :
    (deployment calls call call').Reachable ticking := ⟨users, _, rfl⟩

/-- Everything is answered by the same server. -/
def served (ops : List Op) : List Call := ops.map (⟨Sample.conf, ·⟩)

/-- The second factor is set up, and a code has been mailed and confirmed. -/
def signedIn : List Op := setUp ++ [login, .userCheckSndfaCode "alice" code.code]

end Sample

/-! ### Tokens -/

variable {users : String → Option UserRecord} {turns : List (Turn Call)}

theorem Deployment.Answered.post {k : ℕ} {call : Call} {origin : World}
    {a : Except PyExc (Option AuthResult)}
    (h : (Deployment.after clock users turns).Answered k call origin a) :
    call.post clock (Deployment.ActsIn clock users turns k) origin a
      (Deployment.after clock users turns).state :=
  (Deployment.sound_after clock users fun _ _ hacts => hacts).entries k _ h

instance (u : String) (e : Event) : Decidable (SwitchesOff u e) :=
  inferInstanceAs (Decidable (_ ∨ _))

/-- **Every column of every row goes back to an event**, whatever runs between the steps of the
calls. -/
theorem interleaved_rows_traced (h : d.Reachable clock) {row : SPasswordModel}
    (hrow : d.state.spassword u = some row) : RowTraced u d.state.log row :=
  h.accounted.rows u row hrow

set_option maxRecDepth 10000 in
/-- The row after two logins that took turns: validated, and with the wrong password counted. -/
theorem interleaved_rows_traced_guessed :
    let d := Sample.deployment (Sample.served Sample.signedIn) ⟨Sample.conf, Sample.login⟩
      ⟨Sample.conf, Sample.guess⟩
    ∃ row, d.state.spassword "alice" = some row ∧ row.sndfaLast = some (.utc 4) ∧
      row.loginAttempts = 1 ∧ RowTraced "alice" d.state.log row := by
  intro d
  have hrow : ∃ row, d.state.spassword "alice" = some row ∧ row.sndfaLast = some (.utc 4) ∧
      row.loginAttempts = 1 := ⟨_, rfl, rfl, rfl⟩
  obtain ⟨row, hrow, hlast, hattempts⟩ := hrow
  exact ⟨row, hrow, hlast, hattempts,
    interleaved_rows_traced (Sample.reachable_deployment _ _ _) hrow⟩

/-! ### Codes -/

/-- The code was issued for the user's email, and then it was presented. -/
def EmailProved (u code : String) (log : List Event) : Prop :=
  ∃ older, .emailCodeChecked u code true :: older <:+ log ∧
    ∃ origin, .emailCodeIssued u code origin ∈ older

theorem emailProved_of_mem {code : String} {log : List Event}
    (hlog : Justified Event.Traced log) (hmem : .emailCodeChecked u code true ∈ log) :
    EmailProved u code log := by
  obtain ⟨newer, older, rfl⟩ := List.append_of_mem hmem
  exact ⟨older, List.suffix_append _ _, hlog.at rfl⟩

/-- **No password is reset and no second factor is switched without a code** that was issued for
the email of that user, whatever runs between the steps of the calls. The new password that is
mailed is the one that such a reset has set, and a turn that changes the password of a user is a
step of a user event of that user, or of a reset with such a code, to the password it has drawn. -/
theorem interleaved_resets_authorised (h : d.Reachable clock) :
    (∀ code password older, .passwordReset u code password :: older <:+ d.state.log →
      EmailProved u code older) ∧
    (∀ enable older, .sndfaModified u enable :: older <:+ d.state.log →
      ∃ code, EmailProved u code older) ∧
    (∀ address password handed older,
      .mailed u ⟨address, .newPassword password⟩ handed :: older <:+ d.state.log →
        ∃ code older', .passwordReset u code password :: older' <:+ older ∧
          EmailProved u code older') ∧
    ∀ t, passwordOf (Deployment.turn clock d t).state u ≠ passwordOf d.state u →
      ∃ k call, t = .act k ∧ (d.entries.map Entry.call)[k]? = some call ∧
        (call.op.ChangesRecord u ∨ ∃ code newPassword fault server,
          call.op = .request (.resetPassword u code newPassword fault server) ∧
            EmailProved u code d.state.log ∧
              passwordOf (Deployment.turn clock d t).state u = some newPassword.password) := by
  have hlog : Justified Event.Traced d.state.log := h.accounted.traced
  refine ⟨?_, ?_, ?_, ?_⟩
  · rintro code password older ⟨newer, hnewer⟩
    rw [← hnewer] at hlog
    exact emailProved_of_mem hlog.of_append.2 hlog.of_append.1
  · rintro enable older ⟨newer, hnewer⟩
    rw [← hnewer] at hlog
    obtain ⟨code, hmem⟩ := hlog.of_append.1
    exact ⟨code, emailProved_of_mem hlog.of_append.2 hmem⟩
  · rintro address password handed older ⟨newer, hnewer⟩
    rw [← hnewer] at hlog
    obtain ⟨code, hmem⟩ := hlog.of_append.1
    obtain ⟨newer', older', rfl⟩ := List.append_of_mem hmem
    have hreset := hlog.of_append.2.of_append
    exact ⟨code, older', List.suffix_append _ _, emailProved_of_mem hreset.2 hreset.1⟩
  · intro t hne
    rcases h.turn_cases t with hsame | ⟨k, call, rfl, hcall, hmay⟩
    · exact absurd (congrArg (passwordOf · u) hsame) hne
    · refine ⟨k, call, rfl, hcall, (hmay u hne).imp_right ?_⟩
      rintro ⟨code, newPassword, fault, server, hop, hchecked, hpassword⟩
      exact ⟨code, newPassword, fault, server, hop, emailProved_of_mem hlog hchecked, hpassword⟩

set_option maxRecDepth 10000 in
/-- A recovery, and then a reset that takes turns with a login. -/
theorem interleaved_resets_authorised_recovered :
    let d := Sample.deployment (Sample.served (Sample.setUp ++
      [.request (.recoverPassword "alice" Sample.code .up)]))
      ⟨Sample.conf, .request (.resetPassword "alice" Sample.code.code Sample.newPassword none .up)⟩
      ⟨Sample.conf, Sample.login⟩
    ∃ older, .passwordReset "alice" Sample.code.code Sample.newPassword.password :: older <:+
        d.state.log ∧ EmailProved "alice" Sample.code.code older := by
  intro d
  have hmem : .passwordReset "alice" Sample.code.code Sample.newPassword.password ∈
      d.state.log := by decide +kernel
  obtain ⟨newer, older, hlog⟩ := List.append_of_mem hmem
  have hsuffix : .passwordReset "alice" Sample.code.code Sample.newPassword.password :: older <:+
      d.state.log := ⟨newer, hlog.symm⟩
  exact ⟨older, hsuffix, (interleaved_resets_authorised
    (Sample.reachable_deployment _ _ _)).1 _ _ older hsuffix⟩

end KeystoneSpassword
