import KeystoneSpassword.Identity

/-!
# Relations the primitive programs respect

The extension reads the clock, the users and the table, and nothing else of the state. A relation
that fixes the users and the number of readings, and survives a reading and a note, is respected by
every program that leaves the table alone.

## Main definitions

* `Stable` — what such a relation has to offer

## Main results

* `Stable.lockoutTest`, `Stable.insideWindow`, `Stable.sendEmail` — the parts of a login that leave
  the table alone
-/

namespace KeystoneSpassword

open StateProgram

variable {conf : Conf} {clock : ℕ → Time} {u : String} {R : World → World → Prop}

/-- The relation fixes the users and the number of readings, and survives readings and notes. -/
structure Stable (R : World → World → Prop) : Prop where
  users : ∀ {s t : World}, R s t → s.users = t.users
  ticks : ∀ {s t : World}, R s t → s.ticks = t.ticks
  tick : ∀ {s t : World}, R s t → R s.tick t.tick
  note : ∀ {s t : World} (e : Event), R s t → R (s.note e) (t.note e)

theorem respects_ofExcept {α : Type} (x : Except PyExc α) : Respects R (ofExcept x) := by
  cases x with
  | ok a => exact respects_pure a
  | error e => exact respects_throw e

theorem respects_toPy (a : BaseAnswer) : Respects R (Identity.BaseAnswer.toPy a) := by
  cases a with
  | user user => exact respects_pure _
  | assertionError => exact respects_pure _
  | raised what => exact respects_throw _

namespace Stable

variable (hR : Stable R)

include hR

theorem record (e : Event) : Respects R (KeystoneSpassword.record e) :=
  respects_modify fun _ _ h => hR.note e h

theorem utcnow : Respects R (KeystoneSpassword.utcnow clock) := by
  intro s t h
  rw [run_utcnow, run_utcnow, hR.ticks h]
  exact .ok _ (hR.tick h)

theorem getUser (u : String) : Respects R (KeystoneSpassword.getUser u) := by
  intro s t h
  have husers : s.users u = t.users u := by rw [hR.users h]
  cases huser : t.users u with
  | none =>
    rw [run_getUser_none t huser, run_getUser_none s (husers.trans huser)]
    exact .error _ h
  | some userRecord =>
    rw [run_getUser_some t huser, run_getUser_some s (husers.trans huser)]
    exact .ok _ h

theorem userEmail (u : String) : Respects R (Identity.userEmail u) := by
  refine (hR.getUser u).bind fun user => ?_
  cases user.email with
  | none => exact respects_throw _
  | some email => exact respects_pure _

theorem sendEmail (server : SmtpServer) (mail : Mail) :
    Respects R (SendMail.sendEmail conf server u mail) :=
  (hR.record _).bind fun _ => respects_ofExcept _

theorem lockoutTest (row : Option SPasswordModel) :
    Respects R (Identity.lockoutTest conf clock u row) := by
  cases row with
  | none => exact respects_pure ()
  | some row =>
    refine Respects.ite ?_ (respects_pure ())
    refine (respects_ofExcept _).bind fun last => hR.utcnow.bind fun now => ?_
    exact Respects.ite ((hR.record _).bind fun _ => respects_throw _) (respects_pure ())

theorem insideWindow (stored : Option DateTime) :
    Respects R (Identity.insideWindow conf clock stored) := by
  cases stored with
  | none => exact respects_pure _
  | some date =>
    exact (respects_ofExcept _).bind fun _ => hR.utcnow.bind fun _ => respects_pure _

end Stable

end KeystoneSpassword
