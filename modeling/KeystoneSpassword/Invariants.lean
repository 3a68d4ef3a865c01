import KeystoneSpassword.Lib.History
import KeystoneSpassword.Moves

/-!
# Invariants of the reachable states

What every reachable state satisfies, whatever the environment did. There are four families, and
each is shown for one move and lifted to runs by `step_moves`:

* the history only grows, by events of the user a call names
* dated events are in the order of their dates, and none is later than the last clock reading
* the nullable columns of a row follow registers of the history: the second-factor code and its
  date are those of the latest issue in the life of the row, and so on
* some events are justified by the events before them: a second-factor code is stored directly
  after an accepted password, and an accepted code is the one of the latest issue

## Main definitions

* `issuedCode`, `acceptedTime`, `storedEmailCode` — the registers
* `RowFollows`, `Tracks`, `Event.Justified`, `Timed`

## Main results

* `tracks_of_reachable`, `justified_of_reachable`, `timed_of_reachable`
-/

namespace KeystoneSpassword

open StateProgram Relation History

variable {clock : ℕ → Time} {policy : Policy} {u v : String} {w w' : World}

/-! ### What a move leaves alone -/

/-- A move on `u` leaves the other users alone. -/
theorem Move.other (h : Move clock policy u w w') (hne : v ≠ u) :
    w'.users v = w.users v ∧ w'.spassword v = w.spassword v := by
  cases h <;> simp [SPasswordResource.recoveredState, hne]

/-- A move adds admitted events of its own user to the history. The clock stands while it does,
and every date is the last reading. -/
theorem Move.log_eq (h : Move clock policy u w w') :
    ∃ new, w'.log = new ++ w.log ∧ (∀ e ∈ new, e.userId = u ∧ policy.notes e) ∧
      ∀ e ∈ new, ∀ t, e.time? = some t → w.JustRead clock t ∧ w'.ticks = w.ticks := by
  cases h with
  | tick | recordStored _ _ | passwordStored _ _ _ | userDropped _ _ | attemptStored _ _ _ _ _ _ =>
    exact ⟨[], rfl, by simp, by simp⟩
  | noted e huser _ htime hnotes =>
    refine ⟨[e], rfl, by simp [huser, hnotes], ?_⟩
    intro e' he' t ht
    rw [List.mem_singleton.mp he'] at ht
    exact ⟨htime t ht, rfl⟩
  | userRemoved hstores hnotes | sndfaModified _ _ _ _ hnotes | blackModified _ _ _ hnotes
  | emailCodeIssued _ _ _ _ _ hnotes | passwordReset _ _ _ _ _ hnotes =>
    exact ⟨[_], rfl, by simp [Event.userId, hnotes], by simp [Event.time?]⟩
  | emailCodeChecked _ _ _ _ _ hnotes =>
    exact ⟨[_], rfl, by simp [Event.userId, hnotes], by simp [Event.time?]⟩
  | recovered row code _ _ hissue hcheck =>
    exact ⟨[.emailCodeChecked u code.code true, .emailCodeIssued u code.code .recover], rfl,
      by simp [Event.userId, hissue, hcheck], by simp [Event.time?]⟩
  | rowCreated _ t _ _ _ ht hnotes | rowTouched _ t _ ht hnotes
  | rowRegistered _ _ t _ _ _ ht hnotes | sndfaIssued _ _ t _ _ _ _ _ _ ht hnotes
  | sndfaAccepted _ _ t _ _ _ _ ht hnotes =>
    refine ⟨[_], rfl, by simp [Event.userId, hnotes], ?_⟩
    intro e he t' ht'
    rw [List.mem_singleton.mp he] at ht'
    cases ht'
    exact ⟨ht, rfl⟩

theorem Move.ticks_le (h : Move clock policy u w w') : w.ticks ≤ w'.ticks := by
  cases h <;> simp [SPasswordResource.recoveredState]

/-- Moves add admitted events of their user to the history. -/
theorem Moves.log_eq (h : Moves clock policy u w w') :
    ∃ new, w'.log = new ++ w.log ∧ ∀ e ∈ new, e.userId = u ∧ policy.notes e := by
  induction h with
  | refl => exact ⟨[], rfl, by simp⟩
  | tail _ hmove ih =>
    obtain ⟨new, hlog, hnew⟩ := ih
    obtain ⟨new', hlog', hnew', -⟩ := hmove.log_eq
    refine ⟨new' ++ new, by rw [hlog', hlog, List.append_assoc], fun e he => ?_⟩
    rcases List.mem_append.mp he with he | he
    · exact hnew' e he
    · exact hnew e he

/-- A move that may not insert a row leaves no row where there was none. -/
theorem Move.row_none (h : Move clock policy u w w') (hrow : w.spassword v = none)
    (hcreated : ∀ t, ¬ policy.notes (.rowCreated v t))
    (hregistered : ∀ t, ¬ policy.notes (.rowRegistered v t)) : w'.spassword v = none := by
  by_cases hv : v = u
  · subst hv
    cases h with
    | rowCreated user t _ _ _ _ hnotes => exact absurd hnotes (hcreated t)
    | rowRegistered user res t _ _ _ _ hnotes => exact absurd hnotes (hregistered t)
    | userRemoved _ _ => simp
    | _ => first | exact hrow | simp_all
  · rw [(h.other hv).2, hrow]

variable {conf : Conf}

/-- With the extension off, no call notes a new row. -/
theorem Op.not_notes_row (hoff : ¬ conf.enabled = true) (op : Op) (v : String) (t : Time) :
    ¬ op.Notes conf (.rowCreated v t) ∧ ¬ op.Notes conf (.rowRegistered v t) := by
  cases op with
  | request r =>
    cases r <;> simp [Op.Notes, Request.Notes, Event.OfRecovery, Event.OfReset,
      Event.OfSndfaCheck, Event.OfEmailAsk, Event.OfEmailCheck]
  | _ =>
    simp [Op.Notes, hoff, Event.OfEmailAsk, Event.OfEmailCheck, Event.OfSndfaCheck]

/-- A call is always allowed to note what it can note. -/
theorem Op.allowed_notes (w : World) (op : Op) :
    op.Allowed conf ⟨fun _ _ _ => True, fun _ _ _ => True, op.Notes conf⟩ w :=
  Op.allowed_of_forall w (fun _ _ _ => trivial) (fun _ _ _ => trivial) fun _ h => h

/-- With the extension off, no call inserts a row. -/
theorem onOrEmpty_step (clock : ℕ → Time) (h : OnOrEmpty conf w) (op : Op) :
    OnOrEmpty conf (step conf clock w op) := by
  by_cases henabled : conf.enabled = true
  · exact .inl henabled
  have hmoves : Moves clock _ op.userId w (step conf clock w op) :=
    step_moves h (Op.allowed_notes w op)
  refine .inr fun v => keeps_of_steps (I := fun w => w.spassword v = none) ?_ hmoves
    (h.resolve_left henabled v)
  intro w₁ w₂ hmove hrow
  exact hmove.row_none hrow (fun t => (Op.not_notes_row henabled op v t).1)
    fun t => (Op.not_notes_row henabled op v t).2

/-- Reachable states: the extension is on, or there is no row. -/
theorem onOrEmpty_of_reachable (h : Reachable conf clock w) : OnOrEmpty conf w :=
  Reachable.induction (I := fun w => OnOrEmpty conf w) (fun _ => .inr fun _ => rfl)
    (fun _ op hw => onOrEmpty_step clock hw op) h

/-- **A call adds to the history what it can note, about the user it names.** -/
theorem step_log_eq (h : Reachable conf clock w) (op : Op) :
    ∃ new, (step conf clock w op).log = new ++ w.log ∧
      ∀ e ∈ new, e.userId = op.userId ∧ op.Notes conf e :=
  (step_moves (onOrEmpty_of_reachable h) (Op.allowed_notes w op)).log_eq

/-- A run adds to the history. -/
theorem run_log_eq (h : Reachable conf clock w) (ops : List Op) :
    ∃ new, (run conf clock w ops).log = new ++ w.log := by
  induction ops generalizing w with
  | nil => exact ⟨[], rfl⟩
  | cons op ops ih =>
    obtain ⟨new, hnew, -⟩ := step_log_eq h op
    obtain ⟨new', hnew'⟩ := ih (h.step op)
    exact ⟨new' ++ new, by rw [List.append_assoc, ← hnew]; exact hnew'⟩

/-- From moves on one user to a reachable state. -/
theorem Reachable.of_moves {I : World → Prop} (hinit : ∀ users, I (.initial users))
    (hmove : ∀ u w w', Move clock .any u w w' → I w → I w') (h : Reachable conf clock w) :
    I w := by
  have hboth : OnOrEmpty conf w ∧ I w := by
    refine Reachable.induction (I := fun w => OnOrEmpty conf w ∧ I w)
      (fun users => ⟨.inr fun _ => rfl, hinit users⟩) (fun w op hw => ?_) h
    exact ⟨onOrEmpty_step clock hw.1 op,
      keeps_of_steps (hmove op.userId) (step_moves hw.1 (Op.allowed_any conf w op)) hw.2⟩
  exact hboth.2

/-! ### Dates -/

/-- The history is in the order of its dates, and none is later than the last clock reading. -/
structure Timed (clock : ℕ → Time) (w : World) : Prop where
  sorted : w.log.Pairwise fun newer older =>
    ∀ t t', newer.time? = some t → older.time? = some t' → t' ≤ t
  read : ∀ e ∈ w.log, ∀ t, e.time? = some t → ∃ n < w.ticks, t ≤ clock n

theorem Move.timed (hclock : Monotone clock) (h : Move clock policy u w w') (hw : Timed clock w) :
    Timed clock w' := by
  obtain ⟨new, hlog, -, hnew⟩ := h.log_eq
  have hle : ∀ e ∈ new, ∀ e' ∈ w.log, ∀ t t', e.time? = some t → e'.time? = some t' → t' ≤ t := by
    intro e he e' he' t t' ht ht'
    obtain ⟨⟨k, hk, rfl⟩, -⟩ := hnew e he t ht
    obtain ⟨n, hn, hle⟩ := hw.read e' he' t' ht'
    exact hle.trans (hclock (by omega))
  constructor
  · rw [hlog]
    refine List.pairwise_append.mpr ⟨?_, hw.sorted, hle⟩
    refine List.pairwise_of_forall_mem_list fun e he e' he' t t' ht ht' => ?_
    obtain ⟨⟨k, hk, rfl⟩, -⟩ := hnew e he t ht
    obtain ⟨⟨k', hk', rfl⟩, -⟩ := hnew e' he' t' ht'
    exact hclock (by omega)
  · intro e he t ht
    rw [hlog] at he
    rcases List.mem_append.mp he with he | he
    · obtain ⟨⟨k, hk, rfl⟩, hticks⟩ := hnew e he t ht
      exact ⟨k, by omega, le_refl _⟩
    · obtain ⟨n, hn, hle⟩ := hw.read e he t ht
      exact ⟨n, lt_of_lt_of_le hn h.ticks_le, hle⟩

theorem timed_of_reachable (hclock : Monotone clock)
    (h : Reachable conf clock w) : Timed clock w := by
  refine h.of_moves (fun users => ⟨.nil, by simp [World.initial]⟩) ?_
  exact fun u w w' hmove hw => hmove.timed hclock hw

/-! ### Registers of the history -/

/-- The second-factor code of the user and its date, as last stored in the life of the row. -/
def issuedCode (u : String) : Event → Option (Option (String × Time))
  | .sndfaIssued v c t => if v = u then some (some (c, t)) else none
  | .rowCreated v _ | .rowRegistered v _ | .userDeleted v => if v = u then some none else none
  | _ => none

/-- The date of the last accepted second-factor code in the life of the row. -/
def acceptedTime (u : String) : Event → Option (Option Time)
  | .sndfaAccepted v _ t _ => if v = u then some (some t) else none
  | .rowCreated v _ | .rowRegistered v _ | .userDeleted v => if v = u then some none else none
  | _ => none

/-- The email code of the user and who asked for it, as last stored in the life of the row. -/
def storedEmailCode (u : String) : Event → Option (Option (String × CodeOrigin))
  | .emailCodeIssued v c origin => if v = u then some (some (c, origin)) else none
  | .rowCreated v _ | .rowRegistered v _ | .userDeleted v => if v = u then some none else none
  | _ => none

/-- Whether the second factor is on, as last switched in the life of the row. -/
def sndfaFlag (u : String) : Event → Option (Option Bool)
  | .sndfaModified v enable => if v = u then some (some enable) else none
  | .rowCreated v _ | .rowRegistered v _ | .userDeleted v => if v = u then some none else none
  | _ => none

/-- Whether the email is verified, as last decided in the life of the row. -/
def emailFlag (u : String) : Event → Option (Option Bool)
  | .emailCodeIssued v _ _ => if v = u then some (some false) else none
  | .emailCodeChecked v _ matched => if v = u then some (some matched) else none
  | .rowCreated v _ | .rowRegistered v _ | .userDeleted v => if v = u then some none else none
  | _ => none

/-- Whether the user has a row. -/
def rowPresent (u : String) : Event → Option (Option Unit)
  | .rowCreated v _ | .rowRegistered v _ => if v = u then some (some ()) else none
  | .userDeleted v => if v = u then some none else none
  | _ => none

/-- No register of `u` looks at the event. -/
structure Event.Unseen (u : String) (e : Event) : Prop where
  issued : issuedCode u e = none
  accepted : acceptedTime u e = none
  stored : storedEmailCode u e = none
  sndfa : sndfaFlag u e = none
  email : emailFlag u e = none
  present : rowPresent u e = none

theorem Event.unseen_of_ne {e : Event} (h : e.userId ≠ u) : e.Unseen u := by
  cases e <;> constructor <;> first | rfl | exact if_neg h

theorem Event.Inert.unseen {e : Event} (h : e.Inert) : e.Unseen u := by
  cases e <;> first | exact ⟨rfl, rfl, rfl, rfl, rfl, rfl⟩ | exact h.elim

/-- What the columns of a row are, given the history. -/
structure RowFollows (u : String) (log : List Event) (row : SPasswordModel) : Prop where
  userId : row.userId = u
  creationTime : ∃ t, row.creationTime = some (.utc t)
  attempts_nonneg : 0 ≤ row.loginAttempts
  lastLoginAttemptTime : 0 < row.loginAttempts → ∃ t, row.lastLoginAttemptTime = some (.utc t)
  sndfaCode : row.sndfaCode = (register (issuedCode u) log).map Prod.fst
  sndfaTimeCode : row.sndfaTimeCode = (register (issuedCode u) log).map fun p => .utc p.2
  sndfaLast : row.sndfaLast = (register (acceptedTime u) log).map .utc
  emailCode : row.sndfaEmailCode = (register (storedEmailCode u) log).map Prod.fst
  sndfa : row.sndfa = (register (sndfaFlag u) log).getD false
  sndfaEmail : row.sndfaEmail = (register (emailFlag u) log).getD false
  emailCode_set : row.sndfa = true ∨ row.sndfaEmail = true → truthy row.sndfaEmailCode = true

/-- Every row belongs to an existing user and follows the history, which also says who has a
row. -/
structure Tracks (w : World) : Prop where
  present : ∀ u, (w.spassword u).isSome = (register (rowPresent u) w.log).isSome
  user : ∀ u row, w.spassword u = some row → w.users u ≠ none
  follows : ∀ u row, w.spassword u = some row → RowFollows u w.log row

/-- An attempt is lost only when the user is gone: every row has its creation date. -/
theorem Tracks.users_of_lost (h : Tracks w) (hlost : w.users u = none ∨
    ∃ row, w.spassword u = some row ∧ row.creationTime = none) : w.users u = none := by
  rcases hlost with hnone | ⟨row, hrow, htime⟩
  · exact hnone
  · obtain ⟨t, ht⟩ := (h.follows u row hrow).creationTime
    rw [htime] at ht
    cases ht

/-- A row does not notice events that no register looks at. -/
theorem RowFollows.append {new log : List Event} {row : SPasswordModel}
    (h : RowFollows u log row) (hnew : ∀ e ∈ new, e.Unseen u) :
    RowFollows u (new ++ log) row := by
  have hissued := register_append_of_none (fun e he => (hnew e he).issued) log
  have haccepted := register_append_of_none (fun e he => (hnew e he).accepted) log
  have hstored := register_append_of_none (fun e he => (hnew e he).stored) log
  have hsndfa := register_append_of_none (fun e he => (hnew e he).sndfa) log
  have hemail := register_append_of_none (fun e he => (hnew e he).email) log
  exact { h with
    sndfaCode := by rw [hissued]; exact h.sndfaCode
    sndfaTimeCode := by rw [hissued]; exact h.sndfaTimeCode
    sndfaLast := by rw [haccepted]; exact h.sndfaLast
    emailCode := by rw [hstored]; exact h.emailCode
    sndfa := by rw [hsndfa]; exact h.sndfa
    sndfaEmail := by rw [hemail]; exact h.sndfaEmail }

/-- A row does not notice an event that no register looks at. -/
theorem RowFollows.cons {e : Event} {log : List Event} {row : SPasswordModel}
    (h : RowFollows u log row) (he : e.Unseen u) : RowFollows u (e :: log) row := by
  show RowFollows u ([e] ++ log) row
  refine h.append fun e' he' => ?_
  rw [List.mem_singleton.mp he']
  exact he

/-- A row into which an email code is stored. -/
theorem RowFollows.emailCodeIssued {log : List Event} {row : SPasswordModel}
    (h : RowFollows u log row) (code : ShortCode) (origin : CodeOrigin) :
    RowFollows u (.emailCodeIssued u code.code origin :: log)
      (SPasswordResource.withEmailCode row code.code) := by
  have hregister : register (storedEmailCode u) (.emailCodeIssued u code.code origin :: log) =
      some (code.code, origin) := register_cons_of_write (by simp [storedEmailCode]) _
  have hflag : register (emailFlag u) (.emailCodeIssued u code.code origin :: log) =
      some false := register_cons_of_write (by simp [emailFlag]) _
  exact { h with
    emailCode := by rw [hregister]; rfl
    sndfaEmail := by rw [hflag]; rfl
    emailCode_set := fun _ => truthy_code code }

/-- A row with which a code is compared. -/
theorem RowFollows.emailCodeChecked {log : List Event} {row : SPasswordModel}
    (h : RowFollows u log row) (hstored : truthy row.sndfaEmailCode = true) (code : String)
    (matched : Bool) :
    RowFollows u (.emailCodeChecked u code matched :: log) { row with sndfaEmail := matched } := by
  have hflag : register (emailFlag u) (.emailCodeChecked u code matched :: log) = some matched :=
    register_cons_of_write (by simp [emailFlag]) _
  exact { h with
    sndfaEmail := by rw [hflag]; rfl
    emailCode_set := fun _ => hstored }

/-- No register of another user looks at what a move notes. -/
theorem Move.unseen (h : Move clock policy u w w') (hne : v ≠ u) :
    ∃ new, w'.log = new ++ w.log ∧ ∀ e ∈ new, e.Unseen v := by
  obtain ⟨new, hlog, hnew, -⟩ := h.log_eq
  exact ⟨new, hlog, fun e he =>
    Event.unseen_of_ne fun heq => hne (heq.symm.trans (hnew e he).1)⟩

/-- The history a move leaves says whether its own user has a row. -/
theorem Move.present_own (h : Move clock policy u w w')
    (hw : (w.spassword u).isSome = (register (rowPresent u) w.log).isSome) :
    (w'.spassword u).isSome = (register (rowPresent u) w'.log).isSome := by
  cases h with
  | tick | recordStored _ _ | passwordStored _ _ _ | userDropped _ _ => exact hw
  | noted e _ hinert _ _ =>
    rw [World.note_spassword, World.note_log, register_cons_of_none hinert.unseen.present]
    exact hw
  | userRemoved _ _ | rowCreated _ _ _ _ _ _ _ | rowRegistered _ _ _ _ _ _ _ _ =>
    simp [register, rowPresent]
  | passwordReset _ _ _ hrow _ _ => simpa [register, rowPresent] using hw
  | rowTouched _ _ hrow _ _ | attemptStored _ _ _ hrow _ _ | sndfaIssued _ _ _ _ _ hrow _ _ _ _ _
  | sndfaAccepted _ _ _ hrow _ _ _ _ _ | sndfaModified _ _ hrow _ _ | blackModified _ _ hrow _
  | emailCodeIssued _ _ _ hrow _ _ | recovered _ _ hrow _ _ _
  | emailCodeChecked _ _ hrow _ _ _ =>
    rw [hrow] at hw
    simpa [register, rowPresent, SPasswordResource.recoveredState] using hw

/-- The row a move leaves for its own user follows the history. -/
theorem Move.follows_own (h : Move clock policy u w w')
    (hw : ∀ row, w.spassword u = some row → RowFollows u w.log row) {row' : SPasswordModel}
    (hrow' : w'.spassword u = some row') : RowFollows u w'.log row' := by
  cases h with
  | tick | recordStored _ _ | passwordStored _ _ _ | userDropped _ _ => exact hw row' hrow'
  | noted e huser hinert htime hnotes => exact (hw row' hrow').cons hinert.unseen
  | userRemoved hstores hnotes => simp at hrow'
  | rowCreated user t hid hrow huser ht hnotes =>
    obtain rfl : SPassword.newRow user (.utc t) = row' := by simpa using hrow'
    constructor <;> simp [SPassword.newRow, hid, register, issuedCode, acceptedTime,
      storedEmailCode, sndfaFlag, emailFlag]
  | rowRegistered user res t hid hrow huser ht hnotes =>
    obtain rfl : Identity.firstRow user (.utc t) res = row' := by simpa using hrow'
    constructor <;> simp [Identity.firstRow, hid, register, issuedCode, acceptedTime,
      storedEmailCode, sndfaFlag, emailFlag]
    split_ifs <;> simp
  | rowTouched row t hrow ht hnotes =>
    obtain rfl := by simpa using hrow'
    have hr : RowFollows u (.rowTouched u t :: w.log) row :=
      (hw row hrow).cons ⟨rfl, rfl, rfl, rfl, rfl, rfl⟩
    exact { hr with
      creationTime := ⟨t, rfl⟩
      attempts_nonneg := le_refl _
      lastLoginAttemptTime := fun h => absurd h (lt_irrefl _) }
  | attemptStored row attempts t hrow hattempts hnotes =>
    obtain rfl := by simpa using hrow'
    have hnonneg := (hw row hrow).attempts_nonneg
    exact { hw row hrow with
      attempts_nonneg := by rcases hattempts with rfl | rfl <;> dsimp only <;> omega
      lastLoginAttemptTime := fun _ => ⟨t, rfl⟩ }
  | sndfaIssued row code t tv older hrow hsndfa hemail hverdict ht hnotes =>
    obtain rfl := by simpa using hrow'
    have hregister : register (issuedCode u) (.sndfaIssued u code.code t :: w.log) =
        some (code.code, t) := register_cons_of_write (by simp [issuedCode]) _
    exact { hw row hrow with
      sndfaCode := by rw [World.note_log, World.setRow_log, hregister]; rfl
      sndfaTimeCode := by rw [World.note_log, World.setRow_log, hregister]; rfl }
  | sndfaAccepted row code t hrow hsndfa hemail hcode ht hnotes =>
    obtain rfl := by simpa using hrow'
    have hregister : register (acceptedTime u) (.sndfaAccepted u code t row :: w.log) = some t :=
      register_cons_of_write (by simp [acceptedTime]) _
    exact { hw row hrow with
      sndfaLast := by rw [World.note_log, World.setRow_log, hregister]; rfl }
  | sndfaModified row enable hrow hemail hnotes =>
    obtain rfl := by simpa using hrow'
    have hregister : register (sndfaFlag u) (.sndfaModified u enable :: w.log) = some enable :=
      register_cons_of_write (by simp [sndfaFlag]) _
    exact { hw row hrow with
      sndfa := by rw [World.note_log, World.setRow_log, hregister]; rfl
      emailCode_set := fun _ => (hw row hrow).emailCode_set (.inr hemail) }
  | blackModified row enable hrow hnotes =>
    obtain rfl := by simpa using hrow'
    have hr : RowFollows u (.blackModified u enable :: w.log) row :=
      (hw row hrow).cons ⟨rfl, rfl, rfl, rfl, rfl, rfl⟩
    exact { hr with }
  | emailCodeIssued row code origin hrow horigin hnotes =>
    obtain rfl := by simpa using hrow'
    exact (hw row hrow).emailCodeIssued code origin
  | recovered row code hrow hemail hissue hcheck =>
    obtain rfl := by simpa [SPasswordResource.recoveredState] using hrow'
    have hregister : register (storedEmailCode u) (.emailCodeChecked u code.code true ::
        .emailCodeIssued u code.code .recover :: w.log) = some (code.code, .recover) := by
      simp [register, storedEmailCode]
    have hflag : register (emailFlag u) (.emailCodeChecked u code.code true ::
        .emailCodeIssued u code.code .recover :: w.log) = some true :=
      register_cons_of_write (by simp [emailFlag]) _
    exact { hw row hrow with
      emailCode := by
        rw [SPasswordResource.recoveredState, World.note_log, World.note_log, World.setRow_log,
          hregister]
        rfl
      sndfaEmail := by
        rw [SPasswordResource.recoveredState, World.note_log, World.note_log, World.setRow_log,
          hflag]
        exact hemail
      emailCode_set := fun _ => truthy_code code }
  | emailCodeChecked row code hrow hstored hpresents hnotes =>
    obtain rfl := by simpa using hrow'
    exact (hw row hrow).emailCodeChecked hstored code _
  | passwordReset row code password hrow hcode hnotes =>
    exact (hw row' hrow').cons ⟨rfl, rfl, rfl, rfl, rfl, rfl⟩

/-- A user that has a row after a move exists. -/
theorem Move.user_own (h : Move clock policy u w w')
    (hw : ∀ row, w.spassword u = some row → w.users u ≠ none) {row' : SPasswordModel}
    (hrow' : w'.spassword u = some row') : w'.users u ≠ none := by
  cases h with
  | tick | noted _ _ _ _ _ | passwordReset _ _ _ _ _ _ => exact hw row' hrow'
  | recordStored _ _ | passwordStored _ _ _ => simp
  | userRemoved _ _ => simp at hrow'
  | userDropped hstores hrow =>
    have hrow'' : w.spassword u = some row' := hrow'
    rw [hrow] at hrow''
    cases hrow''
  | rowCreated _ _ _ _ huser _ _ | rowRegistered _ _ _ _ _ huser _ _ => exact huser
  | rowTouched row _ hrow _ _ | attemptStored row _ _ hrow _ _
  | sndfaIssued row _ _ _ _ hrow _ _ _ _ _
  | sndfaAccepted row _ _ hrow _ _ _ _ _ | sndfaModified row _ hrow _ _ | blackModified row _ hrow _
  | emailCodeIssued row _ _ hrow _ _ | recovered row _ hrow _ _ _
  | emailCodeChecked row _ hrow _ _ _ => exact hw row hrow

theorem Move.tracks (h : Move clock policy u w w') (hw : Tracks w) : Tracks w' := by
  constructor
  · intro v
    by_cases hv : v = u
    · subst hv
      exact h.present_own (hw.present v)
    · obtain ⟨new, hlog, hnew⟩ := h.unseen hv
      rw [(h.other hv).2, hlog, register_append_of_none fun e he => (hnew e he).present]
      exact hw.present v
  · intro v row hrow
    by_cases hv : v = u
    · subst hv
      exact h.user_own (hw.user v) hrow
    · obtain ⟨husers, hspassword⟩ := h.other hv
      rw [husers]
      exact hw.user v row (hspassword.symm.trans hrow)
  · intro v row hrow
    by_cases hv : v = u
    · subst hv
      exact h.follows_own (hw.follows v) hrow
    · obtain ⟨new, hlog, hnew⟩ := h.unseen hv
      rw [hlog]
      exact (hw.follows v row ((h.other hv).2.symm.trans hrow)).append hnew

theorem tracks_initial (users : String → Option UserRecord) : Tracks (.initial users) :=
  ⟨fun _ => rfl, fun _ _ hrow => (by cases hrow), fun _ _ hrow => by cases hrow⟩

/-- **Every reachable row follows the history.** -/
theorem tracks_of_reachable (h : Reachable conf clock w) : Tracks w :=
  h.of_moves tracks_initial fun _ _ _ hmove hw => hmove.tracks hw

/-! ### Justified events -/

/-- What the history before an event says when the event happens. -/
def Event.JustifiedBy : Event → List Event → Prop
  | .sndfaIssued u _ _, older => ∃ t rest, older = .baseVerdict u t true :: rest
  | .sndfaAccepted u c _ row, older =>
    row.sndfa = true ∧ row.sndfaEmail = true ∧ row.sndfaCode = some c ∧
      ∃ t, row.sndfaTimeCode = some (.utc t) ∧ register (issuedCode u) older = some (c, t)
  | .passwordReset u c _, older =>
    ∃ origin, register (storedEmailCode u) older = some (c, origin)
  | _, _ => True

theorem Move.justified (h : Move clock policy u w w') (hw : Tracks w)
    (hlog : Justified Event.JustifiedBy w.log) : Justified Event.JustifiedBy w'.log := by
  cases h with
  | tick | recordStored _ _ | passwordStored _ _ _ | userDropped _ _ | attemptStored _ _ _ _ _ _ =>
    exact hlog
  | noted e huser hinert htime hnotes => exact ⟨by cases e <;> trivial, hlog⟩
  | userRemoved _ _ | sndfaModified _ _ _ _ _ | blackModified _ _ _ _ | emailCodeIssued _ _ _ _ _ _
  | emailCodeChecked _ _ _ _ _ _ | rowCreated _ _ _ _ _ _ _ | rowTouched _ _ _ _ _
  | rowRegistered _ _ _ _ _ _ _ _ => exact ⟨trivial, hlog⟩
  | recovered row code hrow hemail hissue hcheck => exact ⟨trivial, trivial, hlog⟩
  | sndfaIssued row code t tv older hrow hsndfa hemail hverdict ht hnotes =>
    exact ⟨⟨tv, older, hverdict⟩, hlog⟩
  | sndfaAccepted row code t hrow hsndfa hemail hcode ht hnotes =>
    refine ⟨⟨hsndfa, hemail, hcode, ?_⟩, hlog⟩
    have hr := hw.follows u row hrow
    have hissued := hr.sndfaCode
    rw [hcode] at hissued
    obtain ⟨⟨c, ti⟩, hregister, rfl⟩ := Option.map_eq_some_iff.mp hissued.symm
    exact ⟨ti, by rw [hr.sndfaTimeCode, hregister]; rfl, hregister⟩
  | passwordReset row code password hrow hcode hnotes =>
    refine ⟨?_, hlog⟩
    have hstored := (hw.follows u row hrow).emailCode
    rw [hcode] at hstored
    obtain ⟨⟨c, origin⟩, hregister, rfl⟩ := Option.map_eq_some_iff.mp hstored.symm
    exact ⟨origin, hregister⟩

/-- **Every event of a reachable history is justified by the events before it.** -/
theorem justified_of_reachable (h : Reachable conf clock w) :
    Justified Event.JustifiedBy w.log := by
  have hboth : Tracks w ∧ Justified Event.JustifiedBy w.log := by
    refine Reachable.of_moves (I := fun w => Tracks w ∧ Justified Event.JustifiedBy w.log)
      (fun users => ⟨tracks_initial users, trivial⟩) ?_ h
    exact fun _ _ _ hmove hw => ⟨hmove.tracks hw.1, hmove.justified hw.1 hw.2⟩
  exact hboth.2

/-- A property of all events of a run, as a condition on the calls of the run. -/
theorem justified_run_iff {Q : Event → List Event → Prop} {P : World → Op → Prop}
    (hstep : ∀ w op, Reachable conf clock w →
      (Justified Q (step conf clock w op).log ↔ Justified Q w.log ∧ P w op))
    (users : String → Option UserRecord) (ops : List Op) :
    Justified Q (run conf clock (.initial users) ops).log ↔
      Machine.Along (step conf clock) P (.initial users) ops := by
  have hrun := Machine.run_iff_along (I := Reachable conf clock) (J := fun w => Justified Q w.log)
    (fun _ op hw => hw.step op) hstep (reachable_initial users) ops
  exact hrun.trans (and_iff_right trivial)

end KeystoneSpassword
