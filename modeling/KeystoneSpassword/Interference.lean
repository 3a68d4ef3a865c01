import KeystoneSpassword.Provenance
import KeystoneSpassword.ResourceOutcomes

/-!
# Calls that others interrupt

Every method of the extension keeps the database accounted for, whatever other calls do between
its steps. `Behaves` says so for a process, together with what it returns or raises: it is
`Process.Sound` for the invariant `Accounted` and the relation `Later`, and this file has one rule
for each kind of step and one lemma for each method.

## Reading a row

The only thing a call knows of a row is what it knew when it read it. `behaves_session` hands out
a traced row, and `RowTraced.later` keeps it traced until the commit, so a commit is accounted for
if the columns it assigns are.

## Main results

* `behaves_commitUpdate` — the rule for a commit
* `SPassword.behaves_checkEmailCode` and the like — one for each method of the driver
* `behaves_request` — the requests
-/

namespace KeystoneSpassword

open StateProgram Interleaving Process Relation History

variable {clock : ℕ → Time} {u : String} {w : World} {V : World → Prop} {U : World → World → Prop}
  {α β : Type}

/-- What a process returns, and what it raises. -/
def Yields (E : PyExc → World → Prop) (A : α → World → Prop) : Except PyExc α → World → Prop
  | .ok a => A a
  | .error e => E e

/-- From the state `w` on, the process keeps the database accounted for and yields what `A` and
`E` say, whatever others do. Its steps are taken in states of `V` and move along `U`. -/
abbrev Behaves (clock : ℕ → Time) (V : World → Prop) (U : World → World → Prop)
    (E : PyExc → World → Prop) (p : Steps α) (A : α → World → Prop) (w : World) : Prop :=
  p.Sound (Accounted clock) Later V U (Yields E A) w

/-- A step that leaves Keystone's users alone moves along `U`. -/
class Frames (U : World → World → Prop) : Prop where
  of_users : ∀ {s s' : World}, s'.users = s.users → U s s'

/-- What a process may raise includes all but the refusals of a login. -/
def Tolerant (E : PyExc → World → Prop) : Prop :=
  ∀ e w, (∀ message, e ≠ .spasswordUnauthorized message) → E e w

/-- The event was noted after the history `log`. -/
def NotedSince (log : List Event) (e : Event) (log' : List Event) : Prop :=
  ∃ older, log <:+ older ∧ e :: older <:+ log'

theorem NotedSince.mem {log log' : List Event} {e : Event} (h : NotedSince log e log') :
    e ∈ log' := by
  obtain ⟨older, -, h⟩ := h
  exact h.mem List.mem_cons_self

/-- Nothing is said of what is returned. -/
abbrev Whatever (_ : α) (_ : World) : Prop := True

/-! ### The rules -/

section Rules

variable {E : PyExc → World → Prop} {A : α → World → Prop} {B : β → World → Prop}

theorem behaves_pure {a : α} (h : A a w) : Behaves clock V U E (pure a) A w := h

theorem behaves_raise {e : PyExc} (h : E e w) : Behaves clock V U E (raise e) A w := h

theorem Behaves.bind {p : Steps α} {f : α → Steps β} (hp : Behaves clock V U E p A w)
    (hf : ∀ a w', Later w w' → A a w' → Behaves clock V U E (f a) B w') :
    Behaves clock V U E (p >>= f) B w := by
  rw [Behaves, sound_bind]
  refine (Process.Sound.since hp).mono fun a w' h => ?_
  cases a with
  | ok a => exact hf a w' h.1 h.2
  | error e => exact h.2

theorem Behaves.mono {A' : α → World → Prop} {p : Steps α} (hp : Behaves clock V U E p A w)
    (h : ∀ a w', Later w w' → A a w' → A' a w') : Behaves clock V U E p A' w := by
  refine (Process.Sound.since hp).mono fun a w' ha => ?_
  cases a with
  | ok a => exact h a w' ha.1 ha.2
  | error e => exact ha.2

theorem Behaves.ite {c : Prop} [Decidable c] {p q : Steps α}
    (hp : c → Behaves clock V U E p A w) (hq : ¬ c → Behaves clock V U E q A w) :
    Behaves clock V U E (if c then p else q) A w := by
  split
  · exact hp ‹_›
  · exact hq ‹_›

/-- A step. -/
theorem behaves_atomic {m : Py α} (h : ∀ s, Later w s → Accounted clock s →
    Accounted clock (final m s) ∧ Later s (final m s) ∧ U s (final m s) ∧
      Yields E A (answer m s) (final m s)) :
    Behaves clock V U E (atomic m) A w := fun s hs hI _ => h s hs hI

/-- A step, taken in a state of `V`. -/
theorem behaves_step {m : Py α} (h : ∀ s, Later w s → Accounted clock s → V s →
    Accounted clock (final m s) ∧ Later s (final m s) ∧ U s (final m s) ∧
      Yields E A (answer m s) (final m s)) :
    Behaves clock V U E (atomic m) A w := h

theorem behaves_ofExcept {x : Except PyExc α} (h : ∀ e, x = .error e → E e w) :
    Behaves clock V U E (Stepwise.ofExcept x) (fun a _ => x = .ok a) w := by
  cases x with
  | ok a => exact behaves_pure rfl
  | error e => exact behaves_raise (h e rfl)

variable [Frames U]

/-- A step that reads. -/
theorem behaves_reads {m : Py α} (hm : Reads m)
    (h : ∀ s, Later w s → Accounted clock s → Yields E A (answer m s) s) :
    Behaves clock V U E (atomic m) A w := by
  refine behaves_atomic fun s hs hI => ?_
  rw [hm s]
  exact ⟨hI, refl_of Later s, Frames.of_users rfl, h s hs hI⟩

/-- A read of the row of the user, in a state of `V`. -/
theorem behaves_sessionIn (u : String) :
    Behaves clock V U E (atomic (getSpasswordSession u)) (fun row w' =>
      V w' ∧ row = w'.spassword u ∧ ∀ r, row = some r → RowTraced u w'.log r) w :=
  behaves_step fun s _ hI hV =>
    ⟨hI, refl_of Later s, Frames.of_users rfl, hV, rfl, fun r hr => hI.rows u r hr⟩

/-- A read of the row of the user. -/
theorem behaves_session (u : String) :
    Behaves clock V U E (atomic (getSpasswordSession u))
      (fun row w' => row = w'.spassword u ∧ ∀ r, row = some r → RowTraced u w'.log r) w :=
  (behaves_sessionIn u).mono fun _ _ _ h => h.2

theorem yields_whatever (x : Except PyExc α) (w : World) : Yields Whatever Whatever x w := by
  cases x <;> trivial

/-- A read of which nothing is said. -/
theorem behaves_readsAny {m : Py α} (hm : Reads m) :
    Behaves clock V U Whatever (atomic m) Whatever w :=
  behaves_reads hm fun s _ _ => yields_whatever _ s

theorem behaves_getUser (hE : Tolerant E) (u : String) :
    Behaves clock V U E (atomic (getUser u)) (fun user _ => user.id = u) w := by
  refine behaves_reads (reads_getUser u) fun s _ _ => ?_
  cases huser : s.users u with
  | none =>
    rw [answer_of_run_error (run_getUser_none s huser)]
    exact hE _ _ fun _ => by simp
  | some userRecord =>
    rw [answer_of_run_ok (run_getUser_some s huser)]
    rfl

/-- A reading of the clock, in a state of `V`. -/
theorem behaves_utcnowIn : Behaves clock V U E (atomic (utcnow clock))
    (fun now w' => ∃ s, V s ∧ Later w s ∧ s.ticks < w'.ticks ∧ now = .utc (clock s.ticks)) w :=
  behaves_step fun s hs hI hV =>
    ⟨hI.tick, later_tick s, Frames.of_users rfl, s, hV, hs, Nat.lt_succ_self _, rfl⟩

/-- A reading of the clock. -/
theorem behaves_utcnow : Behaves clock V U E (atomic (utcnow clock))
    (fun now w' => ∃ n, w.ticks ≤ n ∧ n < w'.ticks ∧ now = .utc (clock n)) w :=
  behaves_utcnowIn.mono fun _ _ _ ⟨s, _, hs, hlt, hnow⟩ => ⟨s.ticks, hs.ticks, hlt, hnow⟩

/-- A step that changes the user's record to one of these, and notes a password at most. -/
theorem behaves_setUser {m : Py α} {R : Option UserRecord → Prop} (hE : Tolerant E)
    (hU : ∀ s s' record, Later w s → R record →
      s'.users = Function.update s.users u record → U s s')
    (h : ∀ s, (∃ a record, R record ∧ m.run s = .ok a (s.setUser u record)) ∨
      (∃ a record, R record ∧ m.run s = .ok a ((s.setUser u record).note (.passwordSet u))) ∨
      ∃ e, m.run s = .error e s ∧ ∀ message, e ≠ .spasswordUnauthorized message) :
    Behaves clock V U E (atomic m) Whatever w := by
  refine behaves_atomic fun s hs hI => ?_
  rcases h s with ⟨a, userRecord, hR, hrun⟩ | ⟨a, userRecord, hR, hrun⟩ | ⟨e, hrun, he⟩
  · rw [final_of_run_ok hrun, answer_of_run_ok hrun]
    exact ⟨hI.setUser u userRecord, later_setUser s u userRecord, hU s _ _ hs hR rfl, trivial⟩
  · rw [final_of_run_ok hrun, answer_of_run_ok hrun]
    refine ⟨(hI.setUser u userRecord).noted trivial fun _ ht => (by cases ht), ?_,
      hU s _ _ hs hR rfl, trivial⟩
    exact trans_of Later (later_setUser s u userRecord) (later_note _ _)
  · rw [final_of_run_error hrun, answer_of_run_error hrun]
    exact ⟨hI, refl_of Later s, Frames.of_users rfl, hE e s he⟩

/-- Something is noted that no row follows. -/
theorem behaves_record {e : Event} (htraced : ∀ log, w.log <:+ log → e.Traced log)
    (hread : ∀ t, e.time? = some t → ∃ n < w.ticks, t = clock n) :
    Behaves clock V U E (atomic (record e)) (fun _ w' => NotedSince w.log e w'.log) w := by
  refine behaves_atomic fun s hs hI => ?_
  refine ⟨hI.noted (htraced s.log hs.log) fun t ht => ?_, later_note s e, Frames.of_users rfl,
    s.log, hs.log, List.suffix_refl _⟩
  obtain ⟨n, hn, hclock⟩ := hread t ht
  exact ⟨n, hn.trans_le hs.ticks, hclock⟩

theorem behaves_sendEmail {conf : Conf} {server : SmtpServer} {mail : Mail} (hE : Tolerant E)
    (htraced : ∀ log handed, w.log <:+ log → (Event.mailed u mail handed).Traced log) :
    Behaves clock V U E (atomic (SendMail.sendEmail conf server u mail)) Whatever w := by
  refine behaves_atomic fun s hs hI => ?_
  rw [final_sendEmail]
  refine ⟨hI.noted (htraced s.log _ hs.log) fun _ ht => (by cases ht), later_note s _,
    Frames.of_users rfl, ?_⟩
  rw [answer, SendMail.run_sendEmail]
  cases hdelivery : (SendMail.delivery conf server mail.dest).2 with
  | ok sent => trivial
  | error e =>
    obtain ⟨what, rfl⟩ := SendMail.delivery_error hdelivery
    exact hE _ _ fun _ => by simp

/-- The program notes these events and does nothing else. -/
def Notes (noted : Py Unit) (new : List Event) : Prop :=
  ∀ s, noted.run s = .ok () { s with log := new ++ s.log }

theorem notes_record (e : Event) : Notes (record e) [e] := fun _ => rfl

theorem notes_pure : Notes (pure ()) [] := fun _ => rfl

/-- The dates of the events are clock readings. -/
def ReadBefore (clock : ℕ → Time) (ticks : ℕ) (new : List Event) : Prop :=
  ∀ e ∈ new, ∀ t, e.time? = some t → ∃ n < ticks, t = clock n

theorem ReadBefore.mono {n n' : ℕ} {new : List Event} (h : ReadBefore clock n new) (hn : n ≤ n') :
    ReadBefore clock n' new := fun e he t ht =>
  (h e he t ht).imp fun _ hm => ⟨hm.1.trans_le hn, hm.2⟩

theorem readBefore_nil (n : ℕ) : ReadBefore clock n [] := fun _ he => by cases he

theorem readBefore_of_dated {e : Event} {n n' : ℕ} (he : e.time? = some (clock n)) (hn : n < n') :
    ReadBefore clock n' [e] := by
  intro e' he' t ht
  rw [List.mem_singleton.mp he', he] at ht
  exact ⟨n, hn, (Option.some.inj ht).symm⟩

theorem readBefore_of_undated {e : Event} (he : e.time? = none) (n : ℕ) :
    ReadBefore clock n [e] := by
  intro e' he' t ht
  rw [List.mem_singleton.mp he', he] at ht
  cases ht

/-- **The rule for a commit.** The object was read earlier. What it assigns is traced, whatever
has happened by then, and so is what is noted of it. -/
theorem behaves_commitUpdate {loaded assigned : SPasswordModel} {noted : Py Unit}
    {new : List Event} (hE : Tolerant E) (hnoted : Notes noted new)
    (hassigned : ∀ log, w.log <:+ log → RowTraced u (new ++ log) assigned)
    (htraced : ∀ log, w.log <:+ log → Justified Event.Traced log →
      Justified Event.Traced (new ++ log))
    (hread : ReadBefore clock w.ticks new)
    (hsndfa : assigned.sndfa = loaded.sndfa ∨ assigned.sndfa = true ∨
      ∃ e ∈ new, SwitchesOff u e) :
    Behaves clock V U E (commitUpdate u loaded assigned noted)
      (fun _ w' => ∃ log, w.log <:+ log ∧ w'.log = new ++ log) w := by
  refine behaves_atomic fun s hs hI => ?_
  have hread' := hread.mono hs.ticks
  by_cases hchanged : assigned = loaded
  · have hrun := (run_sessionCommit_unchanged (w := s) (u := u) hchanged noted).trans (hnoted s)
    rw [final_of_run_ok hrun, answer_of_run_ok hrun]
    refine ⟨⟨fun v row hrow => ?_, htraced s.log hs.log hI.traced, fun e he t ht => ?_⟩,
      later_of_rows rfl (List.suffix_append _ _) (le_refl _), Frames.of_users rfl, s.log, hs.log,
      rfl⟩
    · exact (hI.rows v row hrow).later (List.suffix_append _ _)
    · exact (List.mem_append.mp he).elim (fun he => hread' e he t ht) fun he => hI.read e he t ht
  cases hrow : s.spassword u with
  | none =>
    have hrun := run_sessionCommit_gone hchanged hrow noted
    rw [final_of_run_error hrun, answer_of_run_error hrun]
    exact ⟨hI, refl_of Later s, Frames.of_users rfl, hE _ _ fun _ => by simp [staleData]⟩
  | some stored =>
    have hrun := (run_sessionCommit_stored hchanged hrow noted).trans (hnoted _)
    rw [final_of_run_ok hrun, answer_of_run_ok hrun]
    exact ⟨hI.committed hrow (hassigned s.log hs.log) (htraced s.log hs.log hI.traced) hread',
      later_committed hrow hsndfa, Frames.of_users rfl, s.log, hs.log, rfl⟩

/-- The rule for a commit with one event. -/
theorem behaves_commitRecord {loaded assigned : SPasswordModel} {e : Event} (hE : Tolerant E)
    (hassigned : ∀ log, w.log <:+ log → RowTraced u (e :: log) assigned)
    (htraced : ∀ log, w.log <:+ log → e.Traced log) (hread : ReadBefore clock w.ticks [e])
    (hsndfa : assigned.sndfa = loaded.sndfa ∨ assigned.sndfa = true ∨ SwitchesOff u e) :
    Behaves clock V U E (commitUpdate u loaded assigned (record e))
      (fun _ w' => NotedSince w.log e w'.log) w := by
  have hcommit : Behaves clock V U E (commitUpdate u loaded assigned (record e))
      (fun _ w' => ∃ log, w.log <:+ log ∧ w'.log = [e] ++ log) w :=
    behaves_commitUpdate hE (notes_record e) hassigned (fun log hlog h => ⟨htraced log hlog, h⟩)
      hread (hsndfa.imp_right (Or.imp_right fun hoff => ⟨e, List.mem_singleton_self e, hoff⟩))
  refine hcommit.mono fun _ w' _ h => ?_
  obtain ⟨log, hlog, hw'⟩ := h
  exact ⟨log, hlog, hw' ▸ List.suffix_refl _⟩

/-- The rule for a new row. -/
theorem behaves_insert {row : SPasswordModel} {noted : Py α} {new : List Event} {a : α}
    (hE : Tolerant E) (huser : row.userId = u)
    (hnoted : ∀ s, noted.run s = .ok a { s with log := new ++ s.log })
    (hrow : ∀ log, w.log <:+ log → RowTraced u (new ++ log) row)
    (htraced : ∀ log, w.log <:+ log → Justified Event.Traced log →
      Justified Event.Traced (new ++ log))
    (hread : ReadBefore clock w.ticks new) :
    Behaves clock V U E (atomic do
        sessionInsert row
        noted) Whatever w := by
  subst huser
  refine behaves_atomic fun s hs hI => ?_
  cases hstored : s.spassword row.userId with
  | some stored =>
    have hrun : (do
        sessionInsert row
        noted : Py α).run s = .error .integrityError s := by
      simp [sessionInsert, hstored]
    rw [final_of_run_error hrun, answer_of_run_error hrun]
    exact ⟨hI, refl_of Later s, Frames.of_users rfl, hE _ _ fun _ => by simp⟩
  | none =>
    have hrun : (do
        sessionInsert row
        noted : Py α).run s = .ok a
          { s.setRow row.userId (some row) with log := new ++ s.log } := by
      simp [run_sessionInsert s hstored, hnoted (s.setRow row.userId (some row))]
    rw [final_of_run_ok hrun, answer_of_run_ok hrun]
    refine ⟨hI.stored (fun r hr => ?_) (htraced s.log hs.log hI.traced) (hread.mono hs.ticks),
      later_setRow fun hon => ?_, Frames.of_users rfl, trivial⟩
    · rw [← Option.some.inj hr]
      exact hrow s.log hs.log
    · obtain ⟨r, hr, -⟩ := hon
      rw [hstored] at hr
      cases hr

/-- The rule for a removed row. -/
theorem behaves_delete : Behaves clock V U E (atomic do
    sessionDelete u
    record (.userDeleted u)) Whatever w := by
  refine behaves_atomic fun s _ hI => ?_
  show Accounted clock { s.setRow u none with log := [.userDeleted u] ++ s.log } ∧
    Later s { s.setRow u none with log := [.userDeleted u] ++ s.log } ∧
    U s { s.setRow u none with log := [.userDeleted u] ++ s.log } ∧ True
  refine ⟨hI.stored (fun _ hr => (by cases hr)) ⟨trivial, hI.traced⟩ ?_,
    later_setRow fun _ hnew => absurd (.inr rfl) (hnew _ (List.mem_singleton_self _)),
    Frames.of_users rfl, trivial⟩
  intro e he t ht
  rw [List.mem_singleton.mp he] at ht
  cases ht

end Rules

/-! ### The driver -/

section Driver

variable {E : PyExc → World → Prop} [Frames U]

namespace SPassword

theorem behaves_removeUser (u : String) :
    Behaves clock V U E (Stepwise.SPassword.removeUser u) Whatever w := by
  refine Behaves.bind (A := Whatever) (behaves_atomic fun s _ hI => ?_) fun ref w' _ _ => ?_
  · cases hrow : s.spassword u with
    | none =>
      have hrun : (do
          let spasswordRef ← getSpasswordSession u
          if spasswordRef.isNone then record (.userDeleted u)
          return spasswordRef : Py (Option SPasswordModel)).run s =
            .ok none (s.note (.userDeleted u)) := by
        simp [hrow]
      rw [final_of_run_ok hrun, answer_of_run_ok hrun]
      exact ⟨hI.noted trivial fun _ ht => (by cases ht), later_note s _, Frames.of_users rfl,
        trivial⟩
    | some row =>
      have hrun : (do
          let spasswordRef ← getSpasswordSession u
          if spasswordRef.isNone then record (.userDeleted u)
          return spasswordRef : Py (Option SPasswordModel)).run s = .ok (some row) s := by
        simp [hrow]
      rw [final_of_run_ok hrun, answer_of_run_ok hrun]
      exact ⟨hI, refl_of Later s, Frames.of_users rfl, trivial⟩
  · cases ref with
    | none => exact behaves_pure trivial
    | some row => exact behaves_delete

theorem behaves_stampCreationTime (hE : Tolerant E) (user : User) :
    Behaves clock V U E (Stepwise.SPassword.stampCreationTime clock user) Whatever w := by
  refine (behaves_session user.id).bind fun ref w₁ _ href => ?_
  cases ref with
  | none =>
    refine behaves_utcnow.bind ?_
    rintro _ w₂ - ⟨n, -, hn, rfl⟩
    exact behaves_insert hE rfl (notes_record _)
      (fun log _ => rowTraced_newRow user List.mem_cons_self) (fun log _ h => ⟨trivial, h⟩)
      (readBefore_of_dated rfl hn)
  | some row =>
    refine behaves_utcnow.bind ?_
    rintro _ w₂ h₂ ⟨n, -, hn, rfl⟩
    refine Behaves.mono (behaves_commitRecord hE (fun log hlog => ?_) (fun _ _ => trivial)
      (readBefore_of_dated rfl hn) (.inl rfl)) fun _ _ _ _ => trivial
    have hrow := (href.2 row rfl).later (h₂.log.trans hlog)
    exact (hrow.later (List.suffix_cons _ _)).touched List.mem_cons_self

/-- A code is issued by a login, once a password has been accepted. -/
theorem behaves_setUserSndfaCode (hE : Tolerant E) (u code : String) {t : Time}
    (hverdict : .baseVerdict u t true ∈ w.log) :
    Behaves clock V U E (Stepwise.SPassword.setUserSndfaCode clock u code) Whatever w := by
  refine (behaves_session u).bind fun ref w₁ h₁ href => ?_
  cases ref with
  | none => exact behaves_pure trivial
  | some row =>
    refine Behaves.ite (fun _ => Behaves.ite (fun _ => ?_) fun _ => behaves_pure trivial)
      fun _ => behaves_raise (hE _ _ fun _ => by simp)
    refine behaves_utcnow.bind ?_
    rintro _ w₂ h₂ ⟨n, -, hn, rfl⟩
    have hissued : ∀ log, w₂.log <:+ log → ∃ t, .baseVerdict u t true ∈ log := fun log hlog =>
      ⟨t, ((h₁.log.trans h₂.log).trans hlog).mem hverdict⟩
    refine Behaves.mono (behaves_commitRecord hE (fun log hlog => ?_) hissued
      (readBefore_of_dated rfl hn) (.inl rfl)) fun _ _ _ _ => trivial
    have hrow := (href.2 row rfl).later (h₂.log.trans hlog)
    exact (hrow.later (List.suffix_cons _ _)).sndfaIssued
      ⟨_, log, List.suffix_refl _, hissued log hlog⟩ List.mem_cons_self

theorem behaves_modifySndfa (hE : Tolerant E) (u : String) (enable : Bool) :
    Behaves clock V U E (Stepwise.SPassword.modifySndfa u enable) Whatever w := by
  refine (behaves_session u).bind fun ref w₁ _ href => ?_
  cases ref with
  | none => exact behaves_pure trivial
  | some row =>
    refine Behaves.ite (fun hemail => ?_) fun _ => behaves_pure trivial
    obtain ⟨c, hchecked⟩ := (href.2 row rfl).sndfaEmail hemail
    refine Behaves.bind (behaves_commitRecord hE (fun log hlog => ?_)
      (fun log hlog => ⟨c, hlog.mem hchecked⟩) (readBefore_of_undated rfl _) ?_)
      fun _ _ _ _ => behaves_pure trivial
    · have hrow := (href.2 row rfl).later hlog
      exact (hrow.later (List.suffix_cons _ _)).sndfaModified List.mem_cons_self
    · cases enable with
      | true => exact .inr (.inl rfl)
      | false => exact .inr (.inr (.inl rfl))

theorem behaves_checkSndfaCode (hE : Tolerant E) (u code : String) :
    Behaves clock V U E (Stepwise.SPassword.checkSndfaCode clock u code) Whatever w := by
  refine (behaves_session u).bind fun ref w₁ _ href => ?_
  cases ref with
  | none => exact behaves_pure trivial
  | some row =>
    refine Behaves.ite (fun _ => Behaves.ite (fun hcode => ?_) fun _ => behaves_pure trivial)
      fun _ => behaves_pure trivial
    refine behaves_utcnow.bind ?_
    rintro _ w₂ h₂ ⟨n, -, hn, rfl⟩
    have hissued : ∀ log, w₂.log <:+ log → IssuedToLogin u code log := fun log hlog =>
      ((href.2 row rfl).sndfaCode code hcode).later (h₂.log.trans hlog)
    refine Behaves.bind (behaves_commitRecord hE (fun log hlog => ?_)
      (fun log hlog => ⟨hcode, hissued log hlog⟩) (readBefore_of_dated rfl hn) (.inl rfl))
      fun _ _ _ _ => behaves_pure trivial
    have hrow := (href.2 row rfl).later (h₂.log.trans hlog)
    exact (hrow.later (List.suffix_cons _ _)).sndfaAccepted
      ⟨code, row, log, List.suffix_refl _, hcode, hissued log hlog⟩

theorem behaves_modifyBlack (hE : Tolerant E) (u : String) (enable : Bool) :
    Behaves clock V U E (Stepwise.SPassword.modifyBlack u enable) Whatever w := by
  refine (behaves_session u).bind fun ref w₁ _ href => ?_
  cases ref with
  | none => exact behaves_pure trivial
  | some row =>
    refine Behaves.bind (behaves_commitRecord hE (fun log hlog => ?_) (fun _ _ => trivial)
      (readBefore_of_undated rfl _) (.inl rfl)) fun _ _ _ _ => behaves_pure trivial
    have hrow := (href.2 row rfl).later hlog
    exact (hrow.later (List.suffix_cons _ _)).blackModified List.mem_cons_self

theorem behaves_setCheckEmailCode (hE : Tolerant E) (origin : CodeOrigin) (u code : String) :
    Behaves clock V U E (Stepwise.SPassword.setCheckEmailCode origin u code) Whatever w := by
  refine (behaves_session u).bind fun ref w₁ _ href => ?_
  cases ref with
  | none => exact behaves_pure trivial
  | some row =>
    refine Behaves.mono (behaves_commitRecord hE (fun log hlog => ?_) (fun _ _ => trivial)
      (readBefore_of_undated rfl _) (.inl rfl)) fun _ _ _ _ => trivial
    have hrow := (href.2 row rfl).later hlog
    exact (hrow.later (List.suffix_cons _ _)).emailCodeIssued List.mem_cons_self

/-- A code that is accepted has been noted as matched. -/
theorem behaves_checkEmailCode (hE : Tolerant E) (u code : String) :
    Behaves clock V U E (Stepwise.SPassword.checkEmailCode u code)
      (fun matched w' => matched = true → .emailCodeChecked u code true ∈ w'.log) w := by
  refine (behaves_session u).bind fun ref w₁ _ href => ?_
  cases ref with
  | none => exact behaves_pure fun h => by cases h
  | some row =>
    refine Behaves.ite (fun _ => ?_) fun _ => behaves_pure fun h => by cases h
    refine Behaves.bind (behaves_commitRecord hE (fun log hlog => ?_) (fun log hlog => ?_)
      (readBefore_of_undated rfl _) (.inl rfl)) fun _ w₂ _ hnoted =>
        behaves_pure fun hmatched => ?_
    · have hrow := (href.2 row rfl).later hlog
      exact (hrow.later (List.suffix_cons _ _)).emailCodeChecked List.mem_cons_self
    · by_cases hcode : row.sndfaEmailCode = some code
      · obtain ⟨origin, hissued⟩ := (href.2 row rfl).emailCode code hcode
        simpa [Event.Traced, hcode] using ⟨origin, hlog.mem hissued⟩
      · simp [Event.Traced, hcode]
    · rw [hmatched] at hnoted
      exact hnoted.mem

end SPassword

end Driver

/-! ### The manager, and Keystone's users -/

section Calls

variable {conf : Conf} [Frames U]

theorem tolerant_whatever : Tolerant Whatever := fun _ _ _ => trivial

theorem SPasswordManager.behaves_userAskCheckEmailCode (origin : CodeOrigin) (u : String)
    (uuid : ShortCode) : Behaves clock V U Whatever
      (Stepwise.SPasswordManager.userAskCheckEmailCode origin u uuid) Whatever w := by
  refine (behaves_readsAny (reads_alreadyEmailChecked u)).bind fun _ _ _ _ => ?_
  refine (SPassword.behaves_setCheckEmailCode tolerant_whatever origin u uuid.code).bind ?_
  exact fun _ _ _ _ => behaves_pure trivial

namespace IdentityApi

/-- The created and the updated event. -/
theorem behaves_userCallback (u : String) : Behaves clock V U Whatever (do
    let user ← atomic (getUser u)
    if conf.enabled then Stepwise.SPassword.stampCreationTime clock user else pure ())
    Whatever w :=
  (behaves_getUser tolerant_whatever u).bind fun user _ _ _ =>
    Behaves.ite (fun _ => SPassword.behaves_stampCreationTime tolerant_whatever user) fun _ =>
      behaves_pure trivial

theorem behaves_createUser (u : String) (userRecord : UserRecord)
    (hU : ∀ s s', s'.users = Function.update s.users u (some userRecord) → U s s') :
    Behaves clock V U Whatever (Stepwise.IdentityApi.createUser conf clock u userRecord)
      Whatever w := by
  refine Behaves.bind (behaves_setUser (u := u) (R := (· = some userRecord)) tolerant_whatever ?_
    fun s => ?_) fun _ _ _ _ => behaves_userCallback u
  · rintro s s' _ _ rfl husers
    exact hU s s' husers
  · exact .inr (.inl ⟨(), some userRecord, rfl, rfl⟩)

theorem behaves_updateUser (u : String) (change : UserRecord → UserRecord)
    (hU : ∀ s s' old, Later w s → s'.users = Function.update s.users u (some (change old)) →
      U s s') :
    Behaves clock V U Whatever (Stepwise.IdentityApi.updateUser conf clock u change)
      Whatever w := by
  refine Behaves.bind (behaves_setUser (u := u) (R := fun record => ∃ old, record = change old)
    tolerant_whatever ?_ fun s => ?_) fun _ _ _ _ => behaves_userCallback u
  · rintro s s' _ hs ⟨old, rfl⟩ husers
    exact hU s s' old hs husers
  · cases huser : s.users u with
    | none => exact .inr (.inr ⟨.userNotFound u, by simp [huser], fun _ => by simp⟩)
    | some old =>
      by_cases hpassword : (change old).password = old.password
      · exact .inl ⟨(), some (change old), ⟨old, rfl⟩, by simp [huser, hpassword]⟩
      · exact .inr (.inl ⟨(), some (change old), ⟨old, rfl⟩, by simp [huser, hpassword]⟩)

theorem behaves_deleteUser (u : String)
    (hU : ∀ s s', s'.users = Function.update s.users u none → U s s') :
    Behaves clock V U Whatever (Stepwise.IdentityApi.deleteUser conf u) Whatever w := by
  refine Behaves.bind (behaves_setUser (u := u) (R := (· = none)) tolerant_whatever ?_
    fun s => ?_) fun _ _ _ _ =>
      Behaves.ite (fun _ => SPassword.behaves_removeUser u) fun _ => behaves_pure trivial
  · rintro s s' _ _ rfl husers
    exact hU s s' husers
  · exact .inl ⟨(), none, rfl, rfl⟩

end IdentityApi

/-! ### The requests -/

namespace SPasswordResource

theorem behaves_mail {server : SmtpServer} {mail : Mail}
    (htraced : ∀ log handed, w.log <:+ log → (Event.mailed u mail handed).Traced log) :
    Behaves clock V U Whatever (atomic (SendMail.sendEmail conf server u mail)) Whatever w :=
  behaves_sendEmail tolerant_whatever htraced

theorem behaves_recoverPassword (uuid : ShortCode) (server : SmtpServer) (u : String) :
    Behaves clock V U Whatever (Stepwise.SPasswordResource.recoverPassword conf uuid server u)
      Whatever w := by
  refine (behaves_readsAny reads_checkSpasswordConfigured).bind fun _ _ _ _ => ?_
  refine (behaves_getUser tolerant_whatever u).bind fun userInfo _ _ _ => ?_
  refine (behaves_readsAny (reads_checkUserHasEmailDefined userInfo)).bind fun _ _ _ _ => ?_
  refine (behaves_readsAny (reads_checkUserHasEmailValidated userInfo)).bind fun _ _ _ _ => ?_
  refine (SPasswordManager.behaves_userAskCheckEmailCode .recover u uuid).bind fun code _ _ _ => ?_
  refine (SPassword.behaves_checkEmailCode tolerant_whatever u code).bind fun _ _ _ _ => ?_
  exact Behaves.bind (behaves_mail fun _ _ _ => trivial) fun _ _ _ _ => behaves_pure trivial

theorem behaves_updatePassword (u password : String) (fault : Option PyExc)
    (hU : ∀ s s' (old : UserRecord), Later w s →
      s'.users = Function.update s.users u (some { old with password }) → U s s') :
    Behaves clock V U Whatever
      (Stepwise.SPasswordResource.updatePassword conf clock u password fault) Whatever w := by
  rcases fault with _ | e
  · exact IdentityApi.behaves_updateUser u _ hU
  · cases e <;> exact behaves_raise trivial

/-- A reset changes the password of the user once the code has been noted as matched. -/
theorem behaves_resetPassword (newPassword : NewPassword) (fault : Option PyExc)
    (server : SmtpServer) (u code : String)
    (hU : ∀ s s' (old : UserRecord), .emailCodeChecked u code true ∈ s.log →
      s'.users = Function.update s.users u (some { old with password := newPassword.password }) →
      U s s') : Behaves clock V U Whatever
      (Stepwise.SPasswordResource.resetPassword conf clock newPassword fault server u code)
      Whatever w := by
  refine (behaves_getUser tolerant_whatever u).bind fun userInfo _ _ _ => ?_
  refine (SPassword.behaves_checkEmailCode tolerant_whatever u code).bind
    fun matched w₁ _ hchecked => Behaves.ite (fun hmatched => ?_) fun _ => behaves_pure trivial
  have hmem := hchecked hmatched
  refine (behaves_updatePassword u newPassword.password fault fun s s' old hs husers =>
    hU s s' old (hs.mem hmem) husers).bind fun _ w₂ h₂ _ => ?_
  refine Behaves.bind (behaves_record (fun log hlog => ?_) fun _ ht => by cases ht)
    fun _ w₃ _ hreset => ?_
  · exact (h₂.log.trans hlog).mem hmem
  · cases userInfo.email with
    | none => exact behaves_raise trivial
    | some address =>
      refine Behaves.bind (behaves_mail fun log _ hlog => ?_) fun _ _ _ _ => behaves_pure trivial
      exact ⟨code, hlog.mem hreset.mem⟩

omit [Frames U] in
/-- The checks of the routes that switch a flag, then a call of the driver. -/
theorem behaves_switch {call : Bool → Steps Bool} (enable : Option Json)
    (hcall : ∀ b w', Behaves clock V U Whatever (call b) Whatever w') :
    Behaves clock V U Whatever (match enable.getD (.bool false) with
      | .bool b => do
        let res ← call b
        return ⟨.modified res, 200, some "application/json"⟩
      | _ => raise (.validationError "invalid body format") : Steps HttpResponse) Whatever w := by
  cases enable.getD (.bool false) with
  | bool b => exact (hcall b w).bind fun _ _ _ _ => behaves_pure trivial
  | _ => exact behaves_raise trivial

end SPasswordResource

/-- **Every request keeps the database accounted for.** Of Keystone's users it changes at most a
password, in a reset whose code has been noted as matched. -/
theorem behaves_request (r : Request)
    (hU : ∀ u code newPassword fault server, r = .resetPassword u code newPassword fault server →
      ∀ s s' (old : UserRecord), .emailCodeChecked u code true ∈ s.log →
        s'.users = Function.update s.users u (some { old with password := newPassword.password }) →
        U s s') :
    Behaves clock V U Whatever (r.process conf clock) Whatever w := by
  cases r with
  | recoverPassword u uuid server => exact SPasswordResource.behaves_recoverPassword uuid server u
  | resetPassword u code newPassword fault server =>
    exact SPasswordResource.behaves_resetPassword newPassword fault server u code
      (hU u code newPassword fault server rfl)
  | modifySndfa u enable allowed =>
    refine (behaves_readsAny reads_checkSpasswordConfigured).bind fun _ _ _ _ => ?_
    refine (behaves_readsAny (reads_enforceCall allowed)).bind fun _ _ _ _ => ?_
    refine (behaves_getUser tolerant_whatever u).bind fun userInfo _ _ _ => ?_
    refine (behaves_readsAny (reads_checkUserHasEmailDefined userInfo)).bind fun _ _ _ _ => ?_
    refine (behaves_readsAny (reads_checkUserHasEmailValidated userInfo)).bind fun _ _ _ _ => ?_
    exact SPasswordResource.behaves_switch enable fun b _ =>
      SPassword.behaves_modifySndfa tolerant_whatever u b
  | getSndfa u allowed =>
    refine (behaves_readsAny (reads_enforceCall allowed)).bind fun _ _ _ _ => ?_
    refine (behaves_getUser tolerant_whatever u).bind fun userInfo _ _ _ => ?_
    refine (behaves_readsAny (reads_alreadyEmailChecked u)).bind fun _ _ _ _ => ?_
    exact (behaves_readsAny (reads_getSndfa u)).bind fun _ _ _ _ => behaves_pure trivial
  | checkSndfaCode u code =>
    refine (behaves_readsAny reads_checkSpasswordConfigured).bind fun _ _ _ _ => ?_
    refine (behaves_getUser tolerant_whatever u).bind fun userInfo _ _ _ => ?_
    refine (behaves_readsAny (reads_checkUserHasEmailValidated userInfo)).bind fun _ _ _ _ => ?_
    exact (SPassword.behaves_checkSndfaCode tolerant_whatever u code).bind fun _ _ _ _ =>
      Behaves.ite (fun _ => behaves_pure trivial) fun _ => behaves_pure trivial
  | askForCheckEmailCode u uuid server allowed =>
    refine (behaves_readsAny (reads_enforceCall allowed)).bind fun _ _ _ _ => ?_
    refine (behaves_getUser tolerant_whatever u).bind fun userInfo _ _ _ => ?_
    refine (behaves_readsAny (reads_checkUserHasEmailDefined userInfo)).bind fun _ _ _ _ => ?_
    refine (SPasswordManager.behaves_userAskCheckEmailCode .checkemail u uuid).bind
      fun code _ _ _ => ?_
    exact Behaves.bind (SPasswordResource.behaves_mail fun _ _ _ => trivial) fun _ _ _ _ =>
      behaves_pure trivial
  | checkEmailCode u code =>
    refine (behaves_getUser tolerant_whatever u).bind fun userInfo _ _ _ => ?_
    refine (behaves_readsAny (reads_checkUserHasEmailDefined userInfo)).bind fun _ _ _ _ => ?_
    exact (SPassword.behaves_checkEmailCode tolerant_whatever u code).bind fun _ _ _ _ =>
      Behaves.ite (fun _ => behaves_pure trivial) fun _ => behaves_pure trivial
  | modifyBlack u enable allowed =>
    refine (behaves_readsAny reads_checkSpasswordConfigured).bind fun _ _ _ _ => ?_
    refine (behaves_readsAny (reads_enforceCall allowed)).bind fun _ _ _ _ => ?_
    refine (behaves_getUser tolerant_whatever u).bind fun _ _ _ _ => ?_
    exact SPasswordResource.behaves_switch enable fun b _ =>
      SPassword.behaves_modifyBlack tolerant_whatever u b
  | getBlack u allowed =>
    refine (behaves_readsAny (reads_enforceCall allowed)).bind fun _ _ _ _ => ?_
    refine (behaves_getUser tolerant_whatever u).bind fun _ _ _ _ => ?_
    refine (behaves_readsAny (reads_getBlack u)).bind fun _ _ _ _ => ?_
    exact (behaves_readsAny (reads_getPwdExpiration u)).bind fun _ _ _ _ => behaves_pure trivial

end Calls

end KeystoneSpassword
