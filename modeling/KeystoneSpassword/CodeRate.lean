import KeystoneSpassword.Mails
import KeystoneSpassword.SecondFactor

/-!
# How often a code is drawn

A login that is asked for a second factor mails the code the row holds as long as that is less than
a window old, and only then draws a new one. So a correct password does not buy as many codes as
logins: two codes of one row are a whole window apart, however many logins, resets and switches of
the second factor lie between them.

A row that is removed and inserted again starts afresh, which is why the statement is about a
stretch of the history in which the row is neither inserted nor removed.

## Main definitions

* `issueTime`, `Event.StartsLife` — what counts, and where the counting starts
* `IssuedInTime` — a code comes a whole window after the ones before it

## Main results

* `code_rate_bounded`
-/

namespace KeystoneSpassword

open StateProgram Relation History

variable {conf : Conf} {clock : ℕ → Time} {w w' : World} {u : String}

/-- The date of an issue of a second-factor code to the user. -/
def issueTime (u : String) : Event → Option Time
  | .sndfaIssued v _ t => if v = u then some t else none
  | _ => none

/-- The event inserts or removes the row of the user. -/
def Event.StartsLife (u : String) : Event → Bool
  | .rowCreated v _ | .rowRegistered v _ | .userDeleted v => v = u
  | _ => false

/-- The dates of the issues to the user since the row was inserted. -/
def issuesOfLife (u : String) (log : List Event) : List Time :=
  (since (Event.StartsLife u) log).filterMap (issueTime u)

/-- A code comes a whole window after the codes before it. -/
def IssuedInTime (conf : Conf) (e : Event) (older : List Event) : Prop :=
  ∀ u t, issueTime u e = some t → ∀ s ∈ issuesOfLife u older, s + conf.window ≤ t

theorem issueTime_eq_some {e : Event} {t : Time} :
    issueTime u e = some t ↔ ∃ code, e = .sndfaIssued u code t := by
  cases e with
  | sndfaIssued v c s => simp [issueTime]
  | _ => simp [issueTime]

/-! ### The stored code -/

/-- What opens or closes a life clears the register of the code, and nothing else does. -/
theorem issuedCode_ne_of_not_startsLife {e : Event} (h : e.StartsLife u = false) :
    issuedCode u e ≠ some none := by
  cases e with
  | rowCreated v t | rowRegistered v t | userDeleted v =>
    simpa [Event.StartsLife, issuedCode] using h
  | sndfaIssued v c t => simp [issuedCode]
  | _ => simp [issuedCode]

/-- A code that is not fresh was stored a whole window ago, and so was every code before it. -/
theorem issued_of_stale (hclock : Monotone clock) (hreach : Reachable conf clock w)
    {row : SPasswordModel} (hrow : w.spassword u = some row) {now : Time}
    (hstale : ¬ Identity.Fresh conf row.sndfaTimeCode now) :
    ∀ s ∈ issuesOfLife u w.log, s + conf.window ≤ now := by
  intro s hs
  obtain ⟨e, he, hissue⟩ := List.mem_filterMap.mp hs
  obtain ⟨code, rfl⟩ := issueTime_eq_some.mp hissue
  have hmem : .sndfaIssued u code s ∈ w.log := (of_mem_since he).1
  have hclear : ∀ e ∈ since (Event.StartsLife u) w.log, issuedCode u e ≠ some none :=
    fun e he => issuedCode_ne_of_not_startsLife (of_mem_since he).2
  obtain ⟨e', -, ⟨c, t⟩, -, hregister⟩ := register_of_mem hclear
    ⟨_, he, (code, s), by simp [issuedCode]⟩ (w.log.dropWhile fun e => !e.StartsLife u)
  rw [since, List.takeWhile_append_dropWhile] at hregister
  have hle : s ≤ t := issued_le (timed_of_reachable hclock hreach).sorted hregister hmem
  have hstored : row.sndfaTimeCode = some (.utc t) := by
    rw [((tracks_of_reachable hreach).follows u row hrow).sndfaTimeCode, hregister]
    rfl
  have hnotlt : ¬ now - conf.window < t := fun hlt => hstale ⟨.utc t, hstored, hlt⟩
  linarith

/-! ### A login -/

/-- The event is no issue of a code. -/
def Event.Codeless (e : Event) : Prop := ∀ u, issueTime u e = none

theorem issuedInTime_of_codeless {e : Event} (h : e.Codeless) (older : List Event) :
    IssuedInTime conf e older := by
  intro u t ht
  rw [h u] at ht
  cases ht

theorem justified_of_codeless (h : GrowsBy Event.Codeless w w')
    (hw : Justified (IssuedInTime conf) w.log) : Justified (IssuedInTime conf) w'.log := by
  obtain ⟨new, hlog, hnew⟩ := h
  rw [hlog]
  exact (justified_append_of_forall (fun e he => issuedInTime_of_codeless (hnew e he)) _).mpr hw

/-- Once the code of a login is ready, it was the stored one, or it comes a window after that. -/
theorem Identity.CodeReady.justified (hclock : Monotone clock) (hreach : Reachable conf clock w)
    (hw : Justified (IssuedInTime conf) w.log) {uuid : ShortCode} {row : SPasswordModel} {k n : ℕ}
    {code : String} (hrow : w.spassword u = some row)
    (h : CodeReady conf clock uuid u row
      ((afterVerdict clock (w.ticked k) u true).ticked n) code w') :
    Justified (IssuedInTime conf) w'.log := by
  cases h with
  | reused hfresh => exact justified_of_codeless ⟨[_], rfl, by simp [Event.Codeless, issueTime]⟩ hw
  | issued m hstale =>
    refine ⟨fun v t ht s hs => ?_, issuedInTime_of_codeless (fun _ => rfl) _, hw⟩
    obtain ⟨c, heq⟩ := issueTime_eq_some.mp ht
    cases heq
    have hle : s + conf.window ≤ clock ((afterVerdict clock (w.ticked k) u true).ticked n).ticks :=
      issued_of_stale hclock hreach hrow hstale s hs
    exact hle.trans (hclock (Nat.le_add_right _ m))

theorem justified_authenticate (hclock : Monotone clock) (hreach : Reachable conf clock w)
    (hw : Justified (IssuedInTime conf) w.log) (env : AuthEnv) (u password : String) :
    Justified (IssuedInTime conf) (final (Identity.authenticate conf clock env u password) w).log
      := by
  have hquiet (new : List Event) (s : World) (hlog : s.log = new ++ w.log)
      (hnew : ∀ e ∈ new, e.Codeless) : Justified (IssuedInTime conf) s.log :=
    justified_of_codeless ⟨new, hlog, hnew⟩ hw
  by_cases henabled : conf.enabled = true
  · rcases Identity.authenticate_cases henabled env w u password with
      ⟨e, w₁, herror, houtcome⟩ | ⟨res, k, -, -, houtcome⟩
    · rw [final_of_run_error herror]
      cases houtcome with
      | blocked row hrow hlocked => exact hquiet [_] _ rfl (by simp [Event.Codeless, issueTime])
      | expired row n hfree => exact hquiet [_] _ rfl (by simp [Event.Codeless, issueTime])
      | raised e n hfree => exact hw
    · rw [final]
      generalize (Identity.authenticate conf clock env u password).run w = result at houtcome
      cases houtcome with
      | lost _ e n hlost => exact hquiet [_] _ rfl (by simp [Event.Codeless, issueTime])
      | firstRejected userRecord hrow huser =>
        exact hquiet [_, _] _ rfl (by simp [Event.Codeless, issueTime])
      | firstAccepted user userRecord hrow huser =>
        exact hquiet [_, _, _] _ rfl (by simp [Event.Codeless, issueTime])
      | rejected row hrow htime => exact hquiet [_] _ rfl (by simp [Event.Codeless, issueTime])
      | passed user row created hrow hwants htime =>
        exact hquiet [_, _] _ rfl (by simp [Event.Codeless, issueTime])
      | signed user row created hrow hwants hemail hsigned htime =>
        exact hquiet [_, _] _ rfl (by simp [Event.Codeless, issueTime])
      | unverified user row hrow hwants hemail =>
        exact hquiet [_] _ rfl (by simp [Event.Codeless, issueTime])
      | noAddress user row e n code w₁ hrow hwants hemail hunsigned hcode haddress =>
        exact hcode.justified hclock hreach hw hrow
      | mailRaised user row e n code w₁ userRecord address hrow hwants hemail hunsigned hcode huser
          haddress hmail =>
        exact ⟨issuedInTime_of_codeless (fun _ => rfl) _, hcode.justified hclock hreach hw hrow⟩
      | challenged user row sent n code w₁ userRecord address hrow hwants hemail hunsigned hcode
          huser haddress hmail =>
        exact ⟨issuedInTime_of_codeless (fun _ => rfl) _, hcode.justified hclock hreach hw hrow⟩
  · rw [final_authenticate_of_disabled (Bool.eq_false_iff.mpr henabled)]
    exact hw

/-! ### Every run -/

/-- Only a login notes an issue. -/
theorem Op.codeless_of_notes {op : Op} (hop : ∀ u password env, op ≠ .authenticate u password env)
    {e : Event} (h : op.Notes conf e) : e.Codeless := by
  cases e with
  | sndfaIssued u code t =>
    cases op with
    | authenticate u password env => exact absurd rfl (hop u password env)
    | request r =>
      cases r <;> simp [Op.Notes, Request.Notes, Event.OfRecovery, Event.OfReset,
        Event.OfSndfaCheck, Event.OfEmailAsk, Event.OfEmailCheck] at h
    | _ => simp [Op.Notes, Event.OfUserEvent, Event.OfSndfaCheck, Event.OfEmailAsk,
        Event.OfEmailCheck] at h
  | _ => exact fun _ => rfl

theorem issuedInTime_of_reachable (hclock : Monotone clock) (h : Reachable conf clock w) :
    Justified (IssuedInTime conf) w.log := by
  have hboth : Reachable conf clock w ∧ Justified (IssuedInTime conf) w.log := by
    refine Reachable.induction
      (I := fun w => Reachable conf clock w ∧ Justified (IssuedInTime conf) w.log)
      (fun users => ⟨reachable_initial users, trivial⟩) (fun w op hw => ⟨hw.1.step op, ?_⟩) h
    by_cases hop : ∃ u password env, op = .authenticate u password env
    · obtain ⟨u, password, env, rfl⟩ := hop
      rw [step_authenticate]
      exact justified_authenticate hclock hw.1 hw.2 env u password
    · obtain ⟨new, hlog, hnew⟩ := step_log_eq hw.1 op
      refine justified_of_codeless ⟨new, hlog, fun e he => ?_⟩ hw.2
      exact Op.codeless_of_notes (fun u password env heq => hop ⟨u, password, env, heq⟩)
        (hnew e he).2
  exact hboth.2

/-- In a justified history the issues of a stretch within one life are spaced. -/
theorem spaced_of_justified {stretch older : List Event}
    (h : Justified (IssuedInTime conf) (stretch ++ older))
    (hlife : ∀ e ∈ stretch, e.StartsLife u = false) :
    Spaced conf.window (stretch.filterMap (issueTime u)) := by
  induction stretch with
  | nil => exact .nil
  | cons e stretch ih =>
    have hlife' : ∀ e ∈ stretch, e.StartsLife u = false :=
      fun e' he' => hlife e' (List.mem_cons_of_mem e he')
    cases hissue : issueTime u e with
    | none =>
      rw [List.filterMap_cons_none hissue]
      exact ih h.2 hlife'
    | some t =>
      rw [List.filterMap_cons_some hissue]
      have hmem : ∀ s ∈ stretch.filterMap (issueTime u), s ∈ issuesOfLife u (stretch ++ older) := by
        intro s hs
        rw [issuesOfLife, since_append_of_not hlife', List.filterMap_append]
        exact List.mem_append_left _ hs
      exact .cons (fun s hs => h.1 u t hissue s (hmem s hs)) (ih h.2 hlife')

/-- **The rate of codes.** Take any stretch of the history of a run in which the row of the user is
neither inserted nor removed, and any time. In `n` windows from there on, at most `n` codes are
issued to the user, whatever is called. -/
theorem code_rate_bounded (hclock : Monotone clock) {users : String → Option UserRecord}
    {ops : List Op} {newer stretch older : List Event}
    (hlog : (run conf clock (.initial users) ops).log = newer ++ stretch ++ older)
    (hlife : ∀ e ∈ stretch, e.StartsLife u = false) (start : Time) (n : ℕ) :
    (stretch.filterMap (issueTime u)).countP
      (fun t => start ≤ t ∧ t < start + n • conf.window) ≤ n := by
  have hjustified : Justified (IssuedInTime conf) (run conf clock (.initial users) ops).log :=
    issuedInTime_of_reachable hclock ((reachable_initial users).run ops)
  rw [hlog, List.append_assoc] at hjustified
  exact (spaced_of_justified hjustified.of_append hlife).countP_le start n

/-- Four logins wait for the second factor within a window, and there is one code for them. -/
theorem code_rate_bounded_four :
    let log := (run Sample.conf Sample.ticking (.initial Sample.users)
      (Sample.setUp ++ [Sample.login, Sample.login, Sample.login, Sample.login])).log
    ((log.take 13).filterMap (issueTime "alice")).countP
      (fun t => 0 ≤ t ∧ t < 0 + 1 • Sample.conf.window) ≤ 1 := by
  intro log
  have hlog : log = [] ++ log.take 13 ++ log.drop 13 := by
    rw [List.nil_append, List.take_append_drop]
  have hall : (log.take 13).all (fun e => !e.StartsLife "alice") = true := rfl
  have hlife : ∀ e ∈ log.take 13, e.StartsLife "alice" = false :=
    fun e he => by simpa using List.all_eq_true.mp hall e he
  exact code_rate_bounded Sample.monotone_ticking hlog hlife 0 1

end KeystoneSpassword
