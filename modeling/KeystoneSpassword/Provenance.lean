import KeystoneSpassword.Lockout
import KeystoneSpassword.Stepwise

/-!
# Where the data comes from

What stays true of the database when calls interfere. Most of what holds of runs does not: a
counter can lose an increment, a row can outlive its user, a code can be replaced between its
issue and its use, a flag can be answered and not written. What does hold is about the past. Each
commit writes columns that were computed from a row read earlier, so every value in a row, and
every event, goes back to an event that made it possible, and that event never goes away.

## Column by column

A commit writes the columns that were changed and leaves the others as somebody else may have
stored them, so a stored row can be one that no call has ever seen. `RowTraced` is therefore a
conjunction of facts about single columns, each of which no further event can undo. Such a fact is
true of a row that was read a while ago if it was true then, and `RowTraced.flush` needs no more
than that.

## What does not go back

The second factor of a row that is switched on stays on until somebody switches it off or the row
goes: no commit of another column can undo it. This is the one fact about the present that a call
may rely on, and it is part of `Later`.

## Main definitions

* `RowTraced`, `Event.Traced` — what the history says of a row and of an event
* `Later` — how the others move the state
* `Accounted` — the invariant of a deployment

## Main results

* `RowTraced.flush` — a commit keeps a row traced
* `Accounted.committed`, `Later.committed` — a commit is a step that others may take
-/

namespace KeystoneSpassword

open StateProgram Relation History

variable {clock : ℕ → Time} {u : String}

/-! ### Facts about the past -/

/-- `creation_time` was set to `t`. -/
def Stamped (u : String) (t : Time) (log : List Event) : Prop :=
  .rowCreated u t ∈ log ∨ .rowTouched u t ∈ log ∨ .rowRegistered u t ∈ log

/-- The code was issued to the user, after a password of the user had been accepted. -/
def IssuedToLogin (u code : String) (log : List Event) : Prop :=
  ∃ t older, .sndfaIssued u code t :: older <:+ log ∧ ∃ tv, .baseVerdict u tv true ∈ older

/-- At `s`, a code was accepted that a row of the user held, and that had been issued to a login of
the user. -/
def Validated (u : String) (s : Time) (log : List Event) : Prop :=
  ∃ code row older, .sndfaAccepted u code s row :: older <:+ log ∧ row.sndfaCode = some code ∧
    IssuedToLogin u code older

/-- The wrong passwords of the user, all of them. -/
def rejections (u : String) (log : List Event) : ℕ := log.countP (isFailure u)

section Suffix

variable {log log' : List Event}

theorem Stamped.later {t : Time} (h : Stamped u t log) (hlog : log <:+ log') :
    Stamped u t log' := h.imp hlog.mem (Or.imp hlog.mem hlog.mem)

theorem IssuedToLogin.later {code : String} (h : IssuedToLogin u code log)
    (hlog : log <:+ log') : IssuedToLogin u code log' := by
  obtain ⟨t, older, hsuffix, htv⟩ := h
  exact ⟨t, older, hsuffix.trans hlog, htv⟩

theorem Validated.later {s : Time} (h : Validated u s log) (hlog : log <:+ log') :
    Validated u s log' := by
  obtain ⟨code, row, older, hsuffix, hrest⟩ := h
  exact ⟨code, row, older, hsuffix.trans hlog, hrest⟩

theorem rejections_le (hlog : log <:+ log') : rejections u log ≤ rejections u log' :=
  hlog.sublist.countP_le

end Suffix

/-- What the history before an event says. -/
def Event.Traced : Event → List Event → Prop
  | .rowRegistered u t, older => ∃ accepted, .baseVerdict u t accepted ∈ older
  | .blocked u _, older => ∃ t accepted, .baseVerdict u t accepted ∈ older
  | .token u _, older => ∃ t, .baseVerdict u t true ∈ older
  | .sndfaIssued u _ _, older => ∃ t, .baseVerdict u t true ∈ older
  | .sndfaAccepted u c _ row, older => row.sndfaCode = some c ∧ IssuedToLogin u c older
  | .sndfaModified u _, older => ∃ c, .emailCodeChecked u c true ∈ older
  | .emailCodeChecked u c true, older => ∃ origin, .emailCodeIssued u c origin ∈ older
  | .passwordReset u c _, older => .emailCodeChecked u c true ∈ older
  | .mailed u ⟨_, .newPassword password⟩ _, older => ∃ c, .passwordReset u c password ∈ older
  | _, _ => True

/-! ### Facts about a row -/

/-- What the history says of a row of the user, column by column. -/
structure RowTraced (u : String) (log : List Event) (row : SPasswordModel) : Prop where
  userId : row.userId = u
  creationTime : ∃ t, row.creationTime = some (.utc t) ∧ Stamped u t log
  attempts_nonneg : 0 ≤ row.loginAttempts
  attempts_le : row.loginAttempts ≤ rejections u log
  lastAttempt : ∀ date, row.lastLoginAttemptTime = some date →
    ∃ t accepted, date = .utc t ∧ .baseVerdict u t accepted ∈ log
  extra : row.extra = [] ∨ ∃ b, row.extra = [("black", pyStr b)] ∧ .blackModified u b ∈ log
  sndfa : row.sndfa = true → .sndfaModified u true ∈ log
  sndfaLast : ∀ date, row.sndfaLast = some date → ∃ s, date = .utc s ∧ Validated u s log
  sndfaCode : ∀ c, row.sndfaCode = some c → IssuedToLogin u c log
  sndfaTimeCode : ∀ date, row.sndfaTimeCode = some date →
    ∃ c t, date = .utc t ∧ .sndfaIssued u c t ∈ log
  sndfaEmail : row.sndfaEmail = true → ∃ c, .emailCodeChecked u c true ∈ log
  emailCode : ∀ c, row.sndfaEmailCode = some c → ∃ origin, .emailCodeIssued u c origin ∈ log

section Row

variable {log log' : List Event} {row loaded assigned stored : SPasswordModel}

/-- What the history says of a row, it keeps saying. -/
theorem RowTraced.later (h : RowTraced u log row) (hlog : log <:+ log') :
    RowTraced u log' row where
  userId := h.userId
  creationTime := h.creationTime.imp fun _ ht => ⟨ht.1, ht.2.later hlog⟩
  attempts_nonneg := h.attempts_nonneg
  attempts_le := h.attempts_le.trans (Int.ofNat_le.mpr (rejections_le hlog))
  lastAttempt date hdate := by
    obtain ⟨t, accepted, heq, hmem⟩ := h.lastAttempt date hdate
    exact ⟨t, accepted, heq, hlog.mem hmem⟩
  extra := h.extra.imp_right fun ⟨b, heq, hmem⟩ => ⟨b, heq, hlog.mem hmem⟩
  sndfa hsndfa := hlog.mem (h.sndfa hsndfa)
  sndfaLast date hdate := (h.sndfaLast date hdate).imp fun _ hs => ⟨hs.1, hs.2.later hlog⟩
  sndfaCode c hc := (h.sndfaCode c hc).later hlog
  sndfaTimeCode date hdate := by
    obtain ⟨c, t, heq, hmem⟩ := h.sndfaTimeCode date hdate
    exact ⟨c, t, heq, hlog.mem hmem⟩
  sndfaEmail hemail := (h.sndfaEmail hemail).imp fun _ hmem => hlog.mem hmem
  emailCode c hc := (h.emailCode c hc).imp fun _ hmem => hlog.mem hmem

/-- What holds of the assigned value and of the stored one holds of what is stored then. -/
theorem flushColumn_of {α : Type} [DecidableEq α] (P : α → Prop) {loaded assigned stored : α}
    (hassigned : P assigned) (hstored : P stored) : P (flushColumn loaded assigned stored) := by
  rw [flushColumn]
  split
  · exact hstored
  · exact hassigned

/-- **A commit keeps a row traced**, whatever others have stored in the meantime. -/
theorem RowTraced.flush (hassigned : RowTraced u log assigned) (hstored : RowTraced u log stored) :
    RowTraced u log (loaded.flush assigned stored) where
  userId := flushColumn_of (· = u) hassigned.userId hstored.userId
  creationTime := flushColumn_of (fun date : Option DateTime =>
    ∃ t, date = some (.utc t) ∧ Stamped u t log) hassigned.creationTime hstored.creationTime
  attempts_nonneg := flushColumn_of (0 ≤ ·) hassigned.attempts_nonneg hstored.attempts_nonneg
  attempts_le := flushColumn_of (· ≤ (rejections u log : ℤ)) hassigned.attempts_le
    hstored.attempts_le
  lastAttempt := flushColumn_of (fun last : Option DateTime => ∀ date, last = some date →
    ∃ t accepted, date = .utc t ∧ Event.baseVerdict u t accepted ∈ log)
    hassigned.lastAttempt hstored.lastAttempt
  extra := flushColumn_of (fun extra : List (String × String) => extra = [] ∨
    ∃ b, extra = [("black", pyStr b)] ∧ Event.blackModified u b ∈ log) hassigned.extra hstored.extra
  sndfa := flushColumn_of (fun sndfa : Bool => sndfa = true → Event.sndfaModified u true ∈ log)
    hassigned.sndfa hstored.sndfa
  sndfaLast := flushColumn_of (fun last : Option DateTime => ∀ date, last = some date →
    ∃ s, date = .utc s ∧ Validated u s log) hassigned.sndfaLast hstored.sndfaLast
  sndfaCode := flushColumn_of (fun code : Option String =>
    ∀ c, code = some c → IssuedToLogin u c log) hassigned.sndfaCode hstored.sndfaCode
  sndfaTimeCode := flushColumn_of (fun time : Option DateTime => ∀ date, time = some date →
    ∃ c t, date = .utc t ∧ Event.sndfaIssued u c t ∈ log)
    hassigned.sndfaTimeCode hstored.sndfaTimeCode
  sndfaEmail := flushColumn_of (fun email : Bool =>
    email = true → ∃ c, Event.emailCodeChecked u c true ∈ log)
    hassigned.sndfaEmail hstored.sndfaEmail
  emailCode := flushColumn_of (fun code : Option String => ∀ c, code = some c →
    ∃ origin, Event.emailCodeIssued u c origin ∈ log) hassigned.emailCode hstored.emailCode

/-! ### What the calls assign -/

/-- The counter and the date of an attempt, once the base driver has answered. -/
theorem RowTraced.attempted (h : RowTraced u log row) {attempts : ℤ} {t : Time} {accepted : Bool}
    (hnonneg : 0 ≤ attempts) (hle : attempts ≤ rejections u log)
    (hverdict : .baseVerdict u t accepted ∈ log) :
    RowTraced u log
      { row with loginAttempts := attempts, lastLoginAttemptTime := some (.utc t) } :=
  { h with
    attempts_nonneg := hnonneg
    attempts_le := hle
    lastAttempt := fun _ hdate => ⟨t, accepted, (Option.some.inj hdate).symm, hverdict⟩ }

theorem RowTraced.touched (h : RowTraced u log row) {t : Time}
    (hmem : .rowTouched u t ∈ log) :
    RowTraced u log { row with creationTime := some (.utc t), loginAttempts := 0 } :=
  { h with
    creationTime := ⟨t, rfl, .inr (.inl hmem)⟩
    attempts_nonneg := le_refl _
    attempts_le := Int.natCast_nonneg _ }

theorem RowTraced.blackModified (h : RowTraced u log row) {enable : Bool}
    (hmem : .blackModified u enable ∈ log) :
    RowTraced u log { row with extra := [("black", pyStr enable)] } :=
  { h with extra := .inr ⟨enable, rfl, hmem⟩ }

theorem RowTraced.sndfaIssued (h : RowTraced u log row) {code : String} {t : Time}
    (hissued : IssuedToLogin u code log) (hmem : .sndfaIssued u code t ∈ log) :
    RowTraced u log { row with sndfaTimeCode := some (.utc t), sndfaCode := some code } :=
  { h with
    sndfaTimeCode := fun _ hdate => ⟨code, t, (Option.some.inj hdate).symm, hmem⟩
    sndfaCode := fun _ hc => Option.some.inj hc ▸ hissued }

theorem RowTraced.sndfaAccepted (h : RowTraced u log row) {t : Time}
    (hvalidated : Validated u t log) :
    RowTraced u log { row with sndfaLast := some (.utc t) } :=
  { h with sndfaLast := fun _ hdate => ⟨t, (Option.some.inj hdate).symm, hvalidated⟩ }

theorem RowTraced.sndfaModified (h : RowTraced u log row) {enable : Bool}
    (hmem : .sndfaModified u enable ∈ log) : RowTraced u log { row with sndfa := enable } :=
  { h with sndfa := fun henable => (show enable = true from henable) ▸ hmem }

theorem RowTraced.emailCodeIssued (h : RowTraced u log row) {code : String} {origin : CodeOrigin}
    (hmem : .emailCodeIssued u code origin ∈ log) :
    RowTraced u log { row with sndfaEmailCode := some code, sndfaEmail := false } :=
  { h with
    sndfaEmail := fun hemail => (by cases hemail)
    emailCode := fun _ hc => ⟨origin, Option.some.inj hc ▸ hmem⟩ }

theorem RowTraced.emailCodeChecked (h : RowTraced u log row) {code : String} {matched : Bool}
    (hmem : .emailCodeChecked u code matched ∈ log) :
    RowTraced u log { row with sndfaEmail := matched } :=
  { h with
    sndfaEmail := fun hemail => ⟨code, (show matched = true from hemail) ▸ hmem⟩ }

/-- The row of a created or updated event. -/
theorem rowTraced_newRow (user : User) {t : Time} (hmem : .rowCreated user.id t ∈ log) :
    RowTraced user.id log (SPassword.newRow user (.utc t)) := by
  have hcreated : ∃ t', some (DateTime.utc t) = some (.utc t') ∧ Stamped user.id t' log :=
    ⟨t, rfl, .inl hmem⟩
  refine ⟨rfl, hcreated, le_refl _, Int.natCast_nonneg _, ?_, .inl rfl, ?_, ?_, ?_, ?_, ?_, ?_⟩
  all_goals simp [SPassword.newRow]

/-- The row of a user first seen at login, once the base driver has answered. -/
theorem rowTraced_firstRow (user : User) (res : Option User) {t : Time}
    (hverdict : .baseVerdict user.id t res.isSome ∈ log) (hmem : .rowRegistered user.id t ∈ log) :
    RowTraced user.id log (Identity.firstRow user (.utc t) res) := by
  have hcreated : ∃ t', some (DateTime.utc t) = some (.utc t') ∧ Stamped user.id t' log :=
    ⟨t, rfl, .inr (.inr hmem)⟩
  have hlast : ∀ date, some (DateTime.utc t) = some date →
      ∃ t' accepted, date = .utc t' ∧ .baseVerdict user.id t' accepted ∈ log := fun _ hdate =>
    ⟨t, res.isSome, (Option.some.inj hdate).symm, hverdict⟩
  have hattempts : 0 ≤ (Identity.firstRow user (.utc t) res).loginAttempts ∧
      (Identity.firstRow user (.utc t) res).loginAttempts ≤ rejections user.id log := by
    cases res with
    | none =>
      have hpos : 0 < rejections user.id log :=
        List.countP_pos_iff.mpr ⟨_, hverdict, by simp [isFailure]⟩
      show (0 : ℤ) ≤ 1 ∧ (1 : ℤ) ≤ rejections user.id log
      omega
    | some user' => exact ⟨le_refl _, Int.natCast_nonneg _⟩
  refine ⟨rfl, hcreated, hattempts.1, hattempts.2, hlast, .inl rfl, ?_, ?_, ?_, ?_, ?_, ?_⟩
  all_goals simp [Identity.firstRow]

end Row

/-! ### How the others move the state -/

/-- The user's row asks for the second factor. -/
def SwitchedOn (u : String) (w : World) : Prop :=
  ∃ row, w.spassword u = some row ∧ row.sndfa = true

/-- The second factor of the user is switched off, or the row goes. -/
def SwitchesOff (u : String) (e : Event) : Prop := e = .sndfaModified u false ∨ e = .userDeleted u

/-- The second factor was on, and nobody has switched it off since. -/
def OnSince (u : String) (w : World) (log : List Event) : Prop :=
  SwitchedOn u w ∧ ∀ new, log = new ++ w.log → ∀ e ∈ new, ¬ SwitchesOff u e

theorem OnSince.earlier {w : World} {log log' : List Event} (h : OnSince u w log')
    (hlog : log <:+ log') : OnSince u w log := by
  refine ⟨h.1, ?_⟩
  rintro new rfl e he
  obtain ⟨newer, rfl⟩ := hlog
  exact h.2 (newer ++ new) (List.append_assoc _ _ _).symm e (List.mem_append_right _ he)

/-- The history grows, the clock is read on, and a second factor stays on until it is switched
off. -/
structure Later (w w' : World) : Prop where
  log : w.log <:+ w'.log
  ticks : w.ticks ≤ w'.ticks
  switchedOn : ∀ u, OnSince u w w'.log → SwitchedOn u w'

section Later

variable {w w' : World}

theorem Later.mem (h : Later w w') {e : Event} (he : e ∈ w.log) : e ∈ w'.log := h.log.mem he

theorem OnSince.trans {w'' : World} (h : OnSince u w w''.log) (hlater : Later w w')
    (hlog : w'.log <:+ w''.log) : OnSince u w' w''.log := by
  refine ⟨hlater.switchedOn u (h.earlier hlog), fun new hnew e he => ?_⟩
  obtain ⟨newer, hnewer⟩ := hlater.log
  rw [← hnewer, ← List.append_assoc] at hnew
  exact h.2 _ hnew e (List.mem_append_left _ he)

instance : IsPreorder World Later where
  refl _ := ⟨List.suffix_refl _, le_refl _, fun _ h => h.1⟩
  trans _ _ _ h₁ h₂ := ⟨h₁.log.trans h₂.log, h₁.ticks.trans h₂.ticks, fun u h =>
    h₂.switchedOn u (h.trans h₁ h₂.log)⟩

/-- A step that leaves the rows alone. -/
theorem later_of_rows (hrows : w'.spassword = w.spassword) (hlog : w.log <:+ w'.log)
    (hticks : w.ticks ≤ w'.ticks) : Later w w' :=
  ⟨hlog, hticks, fun u h => by rw [SwitchedOn, hrows]; exact h.1⟩

theorem later_tick (w : World) : Later w w.tick :=
  later_of_rows rfl (List.suffix_refl _) (Nat.le_succ _)

theorem later_setUser (w : World) (v : String) (userRecord : Option UserRecord) :
    Later w (w.setUser v userRecord) := later_of_rows rfl (List.suffix_refl _) (le_refl _)

theorem later_note (w : World) (e : Event) : Later w (w.note e) :=
  later_of_rows rfl (List.suffix_cons _ _) (le_refl _)

/-- A step on the row of one user. -/
theorem later_setRow {row : Option SPasswordModel} {new : List Event}
    (hon : SwitchedOn u w → (∀ e ∈ new, ¬ SwitchesOff u e) → ∃ r, row = some r ∧ r.sndfa = true) :
    Later w { w.setRow u row with log := new ++ w.log } where
  log := List.suffix_append _ _
  ticks := le_refl _
  switchedOn v h := by
    by_cases hv : v = u
    · subst hv
      obtain ⟨r, hr, hsndfa⟩ := hon h.1 (h.2 new rfl)
      exact ⟨r, by simp [hr], hsndfa⟩
    · obtain ⟨r, hr, hsndfa⟩ := h.1
      exact ⟨r, by simpa [hv] using hr, hsndfa⟩

/-- The row of an object read earlier is written, with what is noted of it. A commit that writes
another column, or switches the second factor on, leaves it on. -/
theorem later_committed {loaded assigned stored : SPasswordModel} {new : List Event}
    (hrow : w.spassword u = some stored)
    (hsndfa : assigned.sndfa = loaded.sndfa ∨ assigned.sndfa = true ∨ ∃ e ∈ new, SwitchesOff u e) :
    Later w { w.setRow u (some (loaded.flush assigned stored)) with log := new ++ w.log } := by
  refine later_setRow fun hon hnew => ⟨_, rfl, ?_⟩
  obtain ⟨r, hr, hstored⟩ := hon
  obtain rfl : stored = r := Option.some.inj (hrow.symm.trans hr)
  rcases hsndfa with hsame | htrue | ⟨e, he, hoff⟩
  · rw [SPasswordModel.flush, hsame, flushColumn_unchanged]
    exact hstored
  · exact flushColumn_of (fun sndfa => sndfa = true) htrue hstored
  · exact absurd hoff (hnew e he)

end Later

/-! ### The invariant -/

/-- Every row and every event is traced, and every date is a clock reading. -/
structure Accounted (clock : ℕ → Time) (w : World) : Prop where
  rows : ∀ u row, w.spassword u = some row → RowTraced u w.log row
  traced : Justified Event.Traced w.log
  read : ∀ e ∈ w.log, ∀ t, e.time? = some t → ∃ n < w.ticks, t = clock n

section Invariant

variable {w : World}

theorem accounted_initial (clock : ℕ → Time) (users : String → Option UserRecord) :
    Accounted clock (.initial users) :=
  ⟨fun _ _ h => (by cases h), trivial, fun _ h => by cases h⟩

theorem Accounted.tick (h : Accounted clock w) : Accounted clock w.tick where
  rows := h.rows
  traced := h.traced
  read e he t ht := by
    obtain ⟨n, hn, hclock⟩ := h.read e he t ht
    exact ⟨n, hn.trans (Nat.lt_succ_self _), hclock⟩

theorem Accounted.setUser (h : Accounted clock w) (v : String)
    (userRecord : Option UserRecord) : Accounted clock (w.setUser v userRecord) :=
  ⟨h.rows, h.traced, h.read⟩

/-- A row of the user `u` is stored, or removed, and events are noted. -/
theorem Accounted.stored (h : Accounted clock w) {row : Option SPasswordModel} {new : List Event}
    (hrow : ∀ r, row = some r → RowTraced u (new ++ w.log) r)
    (htraced : Justified Event.Traced (new ++ w.log))
    (hread : ∀ e ∈ new, ∀ t, e.time? = some t → ∃ n < w.ticks, t = clock n) :
    Accounted clock { w.setRow u row with log := new ++ w.log } where
  rows v r hr := by
    by_cases hv : v = u
    · subst hv
      exact hrow r (by simpa using hr)
    · exact (h.rows v r (by simpa [hv] using hr)).later (List.suffix_append _ _)
  traced := htraced
  read e he t ht := by
    rcases List.mem_append.mp he with he | he
    · exact hread e he t ht
    · exact h.read e he t ht

/-- The row of an object read earlier is written, with what is noted of it. -/
theorem Accounted.committed (h : Accounted clock w) {loaded assigned stored : SPasswordModel}
    {new : List Event} (hrow : w.spassword u = some stored)
    (hassigned : RowTraced u (new ++ w.log) assigned)
    (htraced : Justified Event.Traced (new ++ w.log))
    (hread : ∀ e ∈ new, ∀ t, e.time? = some t → ∃ n < w.ticks, t = clock n) :
    Accounted clock
      { w.setRow u (some (loaded.flush assigned stored)) with log := new ++ w.log } := by
  refine h.stored (fun r hr => ?_) htraced hread
  rw [← Option.some.inj hr]
  exact hassigned.flush ((h.rows u stored hrow).later (List.suffix_append _ _))

theorem Accounted.noted (h : Accounted clock w) {e : Event} (htraced : e.Traced w.log)
    (hread : ∀ t, e.time? = some t → ∃ n < w.ticks, t = clock n) :
    Accounted clock (w.note e) where
  rows v row hrow := (h.rows v row hrow).later (List.suffix_cons _ _)
  traced := ⟨htraced, h.traced⟩
  read e' he' t ht := by
    rcases List.mem_cons.mp he' with rfl | he'
    · exact hread t ht
    · exact h.read e' he' t ht

end Invariant

end KeystoneSpassword
