import KeystoneSpassword.Invariants

/-!
# The second factor

What the history says about second-factor codes: where they come from, when they are accepted,
and what an accepted one is good for.

## Main definitions

* `GeneratedByLogin`, `ValidatedAt` — a code and a validation, as the history has them

## Main results

* `authenticate_second_factor_gate` — a token on a row with the second factor on needs a
  validation inside the window
-/

namespace KeystoneSpassword

open StateProgram Relation History

variable {conf : Conf} {clock : ℕ → Time} {w w' : World} {u : String}

/-! ### Reading the registers -/

theorem issuedCode_eq_some {e : Event} {c : String} {t : Time}
    (h : issuedCode u e = some (some (c, t))) : e = .sndfaIssued u c t := by
  cases e <;> simp_all [issuedCode]

theorem acceptedTime_eq_some {e : Event} {t : Time} (h : acceptedTime u e = some (some t)) :
    ∃ c row, e = .sndfaAccepted u c t row := by
  cases e <;> simp_all [acceptedTime]

/-- The code was generated by a login of the user whose password the base driver had accepted. -/
def GeneratedByLogin (u code : String) (log : List Event) : Prop :=
  ∃ newer t tv older, log = newer ++ .sndfaIssued u code t :: .baseVerdict u tv true :: older

/-- At `s`, `check_sndfa_code` returned `True` for the code the row held then, and that code had
been generated by a login of the user. -/
def ValidatedAt (u : String) (s : Time) (log : List Event) : Prop :=
  ∃ newer code row older, log = newer ++ .sndfaAccepted u code s row :: older ∧
    row.sndfaCode = some code ∧ GeneratedByLogin u code older

/-- A stored code was generated by a login. -/
theorem generatedByLogin_of_register {log : List Event} {code : String} {t : Time}
    (hlog : Justified Event.JustifiedBy log) (h : register (issuedCode u) log = some (code, t)) :
    GeneratedByLogin u code log := by
  obtain ⟨newer, e, older, rfl, he, -⟩ := register_eq_some_iff.mp h
  obtain rfl := issuedCode_eq_some he
  obtain ⟨tv, rest, rfl⟩ := hlog.at rfl
  exact ⟨newer, t, tv, rest, rfl⟩

/-- A stored validation is one of the history. -/
theorem validatedAt_of_sndfaLast (hreach : Reachable conf clock w) {row : SPasswordModel}
    {date : DateTime} (hrow : w.spassword u = some row) (hlast : row.sndfaLast = some date) :
    ∃ s, date = .utc s ∧ ValidatedAt u s w.log := by
  have hr := (tracks_of_reachable hreach).follows u row hrow
  have hlog := justified_of_reachable hreach
  obtain ⟨s, hregister, rfl⟩ := Option.map_eq_some_iff.mp (hr.sndfaLast.symm.trans hlast)
  obtain ⟨newer, e, older, heq, he, -⟩ := register_eq_some_iff.mp hregister
  obtain ⟨code, row₀, rfl⟩ := acceptedTime_eq_some he
  obtain ⟨-, -, hcode, t, -, hissued⟩ := hlog.at heq
  rw [heq] at hlog
  exact ⟨s, rfl, newer, code, row₀, older, heq, hcode,
    generatedByLogin_of_register hlog.of_append.2 hissued⟩

/-! ### The gate -/

/-- The call presents a second-factor code for the user. -/
def Op.PresentsSndfaCode (u : String) (op : Op) : Prop :=
  ∃ code, op = .userCheckSndfaCode u code ∨ op = .request (.checkSndfaCode u code)

/-- Only a presented code is noted as accepted. -/
theorem Op.presents_of_notes {op : Op} {code : String} {t : Time} {row : SPasswordModel}
    (h : op.Notes conf (.sndfaAccepted u code t row)) : op.PresentsSndfaCode u := by
  cases op with
  | userCheckSndfaCode v c =>
    obtain ⟨rfl, rfl⟩ := h
    exact ⟨_, .inl rfl⟩
  | request r =>
    cases r with
    | checkSndfaCode v c =>
      obtain ⟨rfl, rfl⟩ := h
      exact ⟨_, .inr rfl⟩
    | _ => simp [Op.Notes, Request.Notes, Event.OfRecovery, Event.OfReset, Event.OfEmailAsk,
        Event.OfEmailCheck] at h
  | _ => simp [Op.Notes, Event.OfUserEvent, Event.OfLogin, Event.OfEmailAsk,
      Event.OfEmailCheck] at h

/-- Whatever starts or ends the life of a row clears the date of its last validation. -/
theorem rowPresent_of_acceptedTime {e : Event} (h : acceptedTime u e = none) :
    rowPresent u e = none := by
  cases e <;> simp_all [acceptedTime, rowPresent]

/-- A call that presents no code makes no validation and renews none. -/
theorem sndfaLast_of_step (hreach : Reachable conf clock w) {op : Op}
    (hop : ¬ op.PresentsSndfaCode u) {row' : SPasswordModel} {date : DateTime}
    (hrow' : (step conf clock w op).spassword u = some row')
    (hlast : row'.sndfaLast = some date) :
    ∃ row, w.spassword u = some row ∧ row.sndfaLast = some date := by
  have htracks := tracks_of_reachable hreach
  have htracks' := tracks_of_reachable (hreach.step op)
  obtain ⟨new, hlog, hnew⟩ := step_log_eq hreach op
  obtain ⟨s, hs, rfl⟩ :=
    Option.map_eq_some_iff.mp ((htracks'.follows u row' hrow').sndfaLast.symm.trans hlast)
  rw [hlog] at hs
  have hset : ∀ e ∈ new, ∀ t, acceptedTime u e ≠ some (some t) := by
    intro e he t ht
    obtain ⟨code, row₀, rfl⟩ := acceptedTime_eq_some ht
    exact hop (Op.presents_of_notes (hnew _ he).2)
  -- nothing new touched the date, so nothing new started the row
  have hold := unwritten_of_append hset hs
  have hpresent : (w.spassword u).isSome = true := by
    have hpresent' := htracks'.present u
    rw [hrow', hlog, register_append_of_none fun e he => rowPresent_of_acceptedTime (hold e he),
      ← htracks.present u] at hpresent'
    exact hpresent'.symm
  obtain ⟨row, hrow⟩ := Option.isSome_iff_exists.mp hpresent
  refine ⟨row, hrow, ?_⟩
  rw [(htracks.follows u row hrow).sndfaLast, register_of_append hset hs]
  rfl

/-- **Second-factor gate.** A login on a row with the second factor on returns a result only if
the email is verified and a code was accepted less than a window ago, a code that the row held
then and that a login with an accepted password had generated. Only a presented code makes or
renews such a validation. -/
theorem authenticate_second_factor_gate (henabled : conf.enabled = true)
    (hsndfa : conf.sndfa = true) (hclock : Monotone clock) (hreach : Reachable conf clock w) :
    (∀ row env password result w', w.spassword u = some row → row.sndfa = true →
      (Identity.authenticate conf clock env u password).run w = .ok result w' →
      row.sndfaEmail = true ∧ ∃ s, ValidatedAt u s w.log ∧
        ∀ n, w.ticks ≤ n → n < w'.ticks → clock n - conf.window < s ∧ s ≤ clock n) ∧
    ∀ op row' date, ¬ op.PresentsSndfaCode u →
      (step conf clock w op).spassword u = some row' → row'.sndfaLast = some date →
      ∃ row, w.spassword u = some row ∧ row.sndfaLast = some date := by
  refine ⟨?_, fun op row' date hop hrow' hlast => sndfaLast_of_step hreach hop hrow' hlast⟩
  intro row env password result w' hrow hon hok
  rcases Identity.authenticate_cases henabled env w u password with
    ⟨e, w₁, herror, -⟩ | ⟨res, n, -, -, houtcome⟩
  · rw [herror] at hok
    cases hok
  rw [hok] at houtcome
  cases houtcome with
  | firstAccepted user userRecord hnone huser =>
    rw [World.ticked_spassword, hrow] at hnone
    cases hnone
  | passed user row₁ created hrow₁ hwants htime =>
    obtain rfl : row = row₁ := Option.some.inj (hrow.symm.trans hrow₁)
    exact absurd ⟨hsndfa, hon⟩ hwants
  | signed user row₁ created hrow₁ hwants hemail hsigned htime =>
    obtain rfl : row = row₁ := Option.some.inj (hrow.symm.trans hrow₁)
    obtain ⟨date, hlast, hfresh⟩ := hsigned
    obtain ⟨s, rfl, hvalidated⟩ := validatedAt_of_sndfaLast hreach hrow hlast
    refine ⟨hemail, s, hvalidated, fun m hm hm' => ?_⟩
    obtain ⟨newer, code, row₀, older, heq, -⟩ := hvalidated
    have hmem : Event.sndfaAccepted u code s row₀ ∈ w.log := by rw [heq]; simp
    obtain ⟨k, hk, hle⟩ := (timed_of_reachable hclock hreach).read _ hmem s rfl
    have hlast : m ≤ w.ticks + n + 1 := by
      have : m < w.ticks + n + 2 := hm'
      omega
    have hmono : clock m ≤ clock (w.ticks + n + 1) := hclock hlast
    have hfresh' : clock (w.ticks + n + 1) - conf.window < s := hfresh
    exact ⟨by linarith, hle.trans (hclock (by omega))⟩

/-- A login, a mailed code, the code presented: the next login returns a result. -/
theorem authenticate_second_factor_gate_signed :
    let w := run Sample.conf Sample.ticking (.initial Sample.users)
      (Sample.setUp ++ [Sample.login, .userCheckSndfaCode "alice" Sample.code.code])
    ∃ s, ValidatedAt "alice" s w.log ∧ Sample.ticking w.ticks - Sample.conf.window < s := by
  intro w
  have hreach : Reachable Sample.conf Sample.ticking w := ⟨Sample.users, _, rfl⟩
  obtain ⟨-, s, hvalidated, hinside⟩ := (authenticate_second_factor_gate (u := "alice") rfl rfl
    Sample.monotone_ticking hreach).1 _ (Sample.env Sample.code) "secret" _ _ rfl rfl rfl
  exact ⟨s, hvalidated, (hinside w.ticks (le_refl _) (by decide)).1⟩

/-! ### The age of an accepted code -/

/-- The dates at which the code was issued to the user. -/
def issueTimes (u code : String) (log : List Event) : List Time :=
  log.filterMap fun
    | .sndfaIssued v c s => if v = u ∧ c = code then some s else none
    | _ => none

theorem mem_issueTimes {log : List Event} {code : String} {s : Time} :
    s ∈ issueTimes u code log ↔ .sndfaIssued u code s ∈ log := by
  rw [issueTimes, List.mem_filterMap]
  constructor
  · rintro ⟨e, he, hs⟩
    cases e <;> simp at hs
    obtain ⟨⟨rfl, rfl⟩, rfl⟩ := hs
    exact he
  · exact fun h => ⟨_, h, by simp⟩

/-- An accepted code had been issued less than a window before it was accepted. -/
def FreshlyIssued (conf : Conf) (e : Event) (older : List Event) : Prop :=
  match e with
  | .sndfaAccepted u c t _ => ∃ s ∈ issueTimes u c older, t - conf.window < s
  | _ => True

instance (conf : Conf) (e : Event) (older : List Event) : Decidable (FreshlyIssued conf e older) :=
  match e with
  | .sndfaAccepted u c t _ =>
    inferInstanceAs (Decidable (∃ s ∈ issueTimes u c older, t - conf.window < s))
  | .rowCreated _ _ | .rowTouched _ _ | .rowRegistered _ _ | .userDeleted _ | .passwordSet _
  | .blocked _ _ | .expired _ _ | .baseVerdict _ _ _ | .token _ _ | .sndfaIssued _ _ _
  | .sndfaModified _ _ | .blackModified _ _ | .emailCodeIssued _ _ _ | .emailCodeChecked _ _ _
  | .passwordReset _ _ _ | .mailed _ _ _ => isTrue trivial

/-- If the code is accepted, it was stored less than a window ago. -/
def CheckInTime (conf : Conf) (clock : ℕ → Time) (w : World) (u code : String) : Prop :=
  ∀ row, w.spassword u = some row → SPassword.Acceptable row code →
    Identity.Fresh conf row.sndfaTimeCode (clock w.ticks)

/-- The call presents no second-factor code, or one that is not accepted, or one that was stored
less than a window ago. -/
def ChecksInTime (conf : Conf) (clock : ℕ → Time) (w : World) : Op → Prop
  | .userCheckSndfaCode u code => CheckInTime conf clock w u code
  | .request (.checkSndfaCode u code) =>
    conf.enabled = true ∧ conf.sndfa = true → CheckInTime conf clock w u code
  | _ => True

/-- The latest issue is the youngest one. -/
theorem issued_le {log : List Event} (hlog : log.Pairwise fun newer older =>
      ∀ t t', newer.time? = some t → older.time? = some t' → t' ≤ t)
    {c c' : String} {t s : Time} (h : register (issuedCode u) log = some (c, t))
    (hmem : .sndfaIssued u c' s ∈ log) : s ≤ t := by
  obtain ⟨newer, e, older, rfl, he, hnewer⟩ := register_eq_some_iff.mp h
  obtain rfl := issuedCode_eq_some he
  rcases List.mem_append.mp hmem with hmem | hmem
  · have := hnewer _ hmem
    simp [issuedCode] at this
  · rcases List.mem_cons.mp hmem with heq | hmem
    · cases heq
      exact le_refl _
    · exact (List.pairwise_cons.mp (List.pairwise_append.mp hlog).2.1).1 _ hmem t s rfl rfl

/-- What the history says about the stored code is what its date says. -/
theorem freshlyIssued_iff (hclock : Monotone clock) (hreach : Reachable conf clock w)
    {row : SPasswordModel} {code : String} {t : Time} (hrow : w.spassword u = some row)
    (hcode : row.sndfaCode = some code) :
    FreshlyIssued conf (.sndfaAccepted u code t row) w.log ↔
      Identity.Fresh conf row.sndfaTimeCode t := by
  have hr := (tracks_of_reachable hreach).follows u row hrow
  obtain ⟨⟨c, ti⟩, hregister, rfl⟩ := Option.map_eq_some_iff.mp (hr.sndfaCode.symm.trans hcode)
  have htime : row.sndfaTimeCode = some (.utc ti) := by rw [hr.sndfaTimeCode, hregister]; rfl
  constructor
  · rintro ⟨s, hmem, hs⟩
    have hle := issued_le (timed_of_reachable hclock hreach).sorted hregister
      (mem_issueTimes.mp hmem)
    exact ⟨.utc ti, htime, lt_of_lt_of_le hs hle⟩
  · rintro ⟨date, hdate, hfresh⟩
    obtain rfl : DateTime.utc ti = date := Option.some.inj (htime.symm.trans hdate)
    obtain ⟨newer, e, older, heq, he, -⟩ := register_eq_some_iff.mp hregister
    obtain rfl := issuedCode_eq_some he
    exact ⟨ti, mem_issueTimes.mpr (by rw [heq]; simp), hfresh⟩

/-- `check_sndfa_code`, seen from the history. -/
theorem justified_checkSndfaCode (hclock : Monotone clock) (hreach : Reachable conf clock w)
    (u code : String) :
    Justified (FreshlyIssued conf) (final (SPassword.checkSndfaCode clock u code) w).log ↔
      Justified (FreshlyIssued conf) w.log ∧ CheckInTime conf clock w u code := by
  by_cases h : ∃ row, w.spassword u = some row ∧ SPassword.Acceptable row code
  · obtain ⟨row, hrow, haccept⟩ := h
    rw [final_of_run_ok (SPassword.run_checkSndfaCode_of_match hrow haccept), World.note_log,
      World.setRow_log, World.tick_log, justified_cons,
      freshlyIssued_iff hclock hreach hrow haccept.2.2, and_comm]
    refine and_congr_right fun _ => ⟨fun hfresh row' hrow' _ => ?_, fun hcheck => ?_⟩
    · rw [← Option.some.inj (hrow.symm.trans hrow')]
      exact hfresh
    · exact hcheck row hrow haccept
  · have hmismatch : ∀ row, w.spassword u = some row → ¬ SPassword.Acceptable row code :=
      fun row hrow haccept => h ⟨row, hrow, haccept⟩
    rw [final_of_run_ok (SPassword.run_checkSndfaCode_of_mismatch hmismatch)]
    exact (and_iff_left fun row hrow haccept => absurd haccept (hmismatch row hrow)).symm

/-- The request ends in `check_sndfa_code`, or it was refused on a state on which that would have
returned `False`. -/
theorem final_request_checkSndfaCode (hreach : Reachable conf clock w) (u code : String) :
    final (SPasswordResource.checkSndfaCode conf clock u code) w =
      if conf.enabled = true ∧ conf.sndfa = true then
        final (SPassword.checkSndfaCode clock u code) w else w := by
  by_cases hconf : conf.enabled = true ∧ conf.sndfa = true
  · rw [if_pos hconf]
    by_cases hpass : w.users u ≠ none ∧ EmailVerified w u
    · obtain ⟨userRecord, huser⟩ := Option.ne_none_iff_exists'.mp hpass.1
      rw [final_congr (SPasswordResource.run_checkSndfaCode_of_verified hconf huser hpass.2 code),
        map_eq_pure_bind, final_bind_reads fun _ => reads_pure _]
    · have hmismatch : ∀ row, w.spassword u = some row → ¬ SPassword.Acceptable row code :=
        fun row hrow haccept => hpass
          ⟨(tracks_of_reachable hreach).user u row hrow, row, hrow, haccept.2.1⟩
      have hrefused : w.users u = none ∨ ¬ EmailVerified w u := by
        rwa [not_and_or, not_not] at hpass
      obtain ⟨e, he⟩ : ∃ e, (SPasswordResource.checkSndfaCode conf clock u code).run w =
          .error e w := SPasswordResource.run_checkSndfaCode_of_refused hrefused code
      rw [final_of_run_error he,
        final_of_run_ok (SPassword.run_checkSndfaCode_of_mismatch hmismatch)]
  · rw [if_neg hconf]
    simp [final, SPasswordResource.checkSndfaCode, run_checkSpasswordConfigured, hconf]

/-- A call notes an accepted code only if it presents one. -/
theorem justified_step_of_not_presents (hreach : Reachable conf clock w) {op : Op}
    (hop : ∀ u, ¬ op.PresentsSndfaCode u) :
    Justified (FreshlyIssued conf) (step conf clock w op).log ↔
      Justified (FreshlyIssued conf) w.log := by
  obtain ⟨new, hlog, hnew⟩ := step_log_eq hreach op
  rw [hlog]
  refine justified_append_of_forall (fun e he older => ?_) w.log
  cases e with
  | sndfaAccepted v code t row => exact absurd (Op.presents_of_notes (hnew _ he).2) (hop v)
  | _ => trivial

/-- **The age of an accepted code.** In a run every accepted code was issued less than a window
before it is accepted if and only if no check meets a stored code that is older. Nothing in the
source makes that so: `check_sndfa_code` compares the code and never its date. -/
theorem accepted_codes_fresh_iff (hclock : Monotone clock) (users : String → Option UserRecord)
    (ops : List Op) :
    Justified (FreshlyIssued conf) (run conf clock (.initial users) ops).log ↔
      Machine.Along (step conf clock) (ChecksInTime conf clock) (.initial users) ops := by
  refine justified_run_iff (fun w op hreach => ?_) users ops
  have hother (hop : ∀ u, ¬ op.PresentsSndfaCode u) := justified_step_of_not_presents hreach hop
  cases op with
  | userCheckSndfaCode u code =>
    rw [step, Op.program, final_bind_reads fun _ => reads_pure _]
    exact justified_checkSndfaCode hclock hreach u code
  | request r =>
    cases r with
    | checkSndfaCode u code =>
      rw [step, Op.program, final_bind_reads fun _ => reads_pure _, Request.program,
        final_request_checkSndfaCode hreach]
      by_cases hconf : conf.enabled = true ∧ conf.sndfa = true
      · rw [if_pos hconf, justified_checkSndfaCode hclock hreach, ChecksInTime]
        exact and_congr_right fun _ => ⟨fun h _ => h, fun h => h hconf⟩
      · rw [if_neg hconf]
        exact (and_iff_left fun h => absurd h hconf).symm
    | _ =>
      rw [hother (by simp [Op.PresentsSndfaCode])]
      exact (and_iff_left trivial).symm
  | _ =>
    rw [hother (by simp [Op.PresentsSndfaCode])]
    exact (and_iff_left trivial).symm

/-- A code presented at once is in time. -/
theorem accepted_codes_fresh_iff_ticking :
    Machine.Along (step Sample.conf Sample.ticking) (ChecksInTime Sample.conf Sample.ticking)
      (.initial Sample.users)
      (Sample.setUp ++ [Sample.login, .userCheckSndfaCode "alice" Sample.code.code]) :=
  (accepted_codes_fresh_iff Sample.monotone_ticking Sample.users _).mp (by decide)

/-- A code that is a whole window old is accepted, and opens a session. -/
theorem stale_code_accepted :
    ¬ Justified (FreshlyIssued Sample.conf)
      (run Sample.conf Sample.hourly (.initial Sample.users)
        (Sample.setUp ++ [Sample.login, .userCheckSndfaCode "alice" Sample.code.code])).log := by
  decide

/-! ### The two tests of freshness -/

/-- `already_sndfa_signed` returns `True` at the time `t`. -/
def Signed (conf : Conf) (w : World) (u : String) (t : Time) : Prop :=
  ∃ w', (SPassword.alreadySndfaSigned conf (fun _ => t) u).run w = .ok true w'

/-- At the time `t`, a login with a correct password goes through on the row it has read. -/
def LetThrough (conf : Conf) (env : AuthEnv) (w : World) (u : String) (row : SPasswordModel)
    (t : Time) : Prop :=
  ∃ w', (Identity.secondFactor conf (fun _ => t) env u row).run w = .ok none w'

/-- `already_sndfa_signed` adds the window to the present, and compares the validation with that. -/
theorem signed_iff {row : SPasswordModel} (hrow : w.spassword u = some row) (t : Time) :
    Signed conf w u t ↔ row.sndfa = true ∧ row.sndfaEmail = true ∧
      ∃ last, row.sndfaLast = some last ∧ last.wall < t + conf.window := by
  by_cases hon : row.sndfa = true ∧ row.sndfaEmail = true
  · cases hlast : row.sndfaLast with
    | none => simp [Signed, SPassword.alreadySndfaSigned, hrow, hon, hlast]
    | some last =>
      have hrun : (SPassword.alreadySndfaSigned conf (fun _ => t) u).run w =
          .ok (decide (last.wall < t + conf.window)) w.tick :=
        SPassword.run_alreadySndfaSigned hrow hon.1 hon.2 hlast
      by_cases hlt : last.wall < t + conf.window <;> simp [Signed, hrun, hon, hlt]
  · have hrun : (SPassword.alreadySndfaSigned conf (fun _ => t) u).run w = .ok false w := by
      simp [SPassword.alreadySndfaSigned, hrow, hon]
    refine iff_of_false ?_ fun h => hon ⟨h.1, h.2.1⟩
    simp [Signed, hrun]

/-- A login subtracts the window from the present. -/
theorem letThrough_iff (env : AuthEnv) {row : SPasswordModel}
    (hwants : Identity.WantsSndfa conf row) (t : Time) :
    LetThrough conf env w u row t ↔
      row.sndfaEmail = true ∧ Identity.Fresh conf row.sndfaLast t := by
  cases hemail : row.sndfaEmail with
  | false => simp [LetThrough, Identity.run_secondFactor_of_unverified hwants hemail]
  | true =>
    by_cases hfresh : Identity.Fresh conf row.sndfaLast t
    · have hrun : (Identity.secondFactor conf (fun _ => t) env u row).run w = .ok none w.tick :=
        Identity.run_secondFactor_of_signed hwants hemail hfresh
      simp [LetThrough, hrun, hfresh]
    · refine iff_of_false ?_ fun h => hfresh h.2
      rintro ⟨w', hrun⟩
      obtain ⟨n, hinside⟩ : ∃ n, (Identity.insideWindow conf (fun _ => t) row.sndfaLast).run w =
          .ok false (w.ticked n) := Identity.run_insideWindow_of_not_fresh hfresh
      rw [Identity.run_secondFactor_of_unsigned hwants hemail hinside] at hrun
      -- whatever the mail did, what is returned is the message of the refusal
      obtain ⟨code, w₁, -, hcode⟩ := exists_of_bind_ok hrun
      obtain ⟨address, w₂, -, haddress⟩ := exists_of_bind_ok hcode
      obtain ⟨sent, w₃, -, hsent⟩ := exists_of_bind_ok haddress
      cases hsent

/-- **The two tests of freshness.** `already_sndfa_signed` and `authenticate` agree on a row
exactly when its validation is less than a window away from the present on both sides, or not
inside the window on either. The source adds the window in one of them and subtracts it in the
other. -/
theorem freshness_tests_agree_iff (env : AuthEnv) {row : SPasswordModel}
    (hrow : w.spassword u = some row) (t : Time) :
    ((Signed conf w u t ↔
        row.sndfa = true ∧ row.sndfaEmail = true ∧ Identity.Fresh conf row.sndfaLast t) ∧
      (Identity.WantsSndfa conf row → (Signed conf w u t ↔ LetThrough conf env w u row t))) ↔
    (row.sndfa = true → row.sndfaEmail = true → ∀ last, row.sndfaLast = some last →
      (t - conf.window < last.wall ∧ last.wall < t + conf.window) ∨
        (last.wall ≤ t - conf.window ∧ t + conf.window ≤ last.wall)) := by
  rw [signed_iff hrow]
  constructor
  · rintro ⟨hagree, -⟩ hsndfa hemail last hlast
    simp only [hsndfa, hemail, true_and, Identity.Fresh, hlast, Option.some.injEq,
      exists_eq_left'] at hagree
    rcases lt_or_ge last.wall (t + conf.window) with hlt | hge
    · exact .inl ⟨hagree.mp hlt, hlt⟩
    · exact .inr ⟨not_lt.mp fun hlt => not_le.mpr (hagree.mpr hlt) hge, hge⟩
  · intro hinside
    have hagree : (row.sndfa = true ∧ row.sndfaEmail = true ∧
        ∃ last, row.sndfaLast = some last ∧ last.wall < t + conf.window) ↔
          row.sndfa = true ∧ row.sndfaEmail = true ∧ Identity.Fresh conf row.sndfaLast t := by
      refine and_congr_right fun hsndfa => and_congr_right fun hemail => exists_congr fun last =>
        and_congr_right fun hlast => ?_
      rcases hinside hsndfa hemail last hlast with ⟨hlow, hhigh⟩ | ⟨hlow, hhigh⟩
      · exact iff_of_true hhigh hlow
      · exact iff_of_false (not_lt.mpr hhigh) (not_lt.mpr hlow)
    refine ⟨hagree, fun hwants => ?_⟩
    rw [hagree, letThrough_iff env hwants]
    exact and_iff_right hwants.2

/-- At the time of the validation the two tests agree. -/
theorem freshness_tests_agree_at_once :
    let w := run Sample.conf Sample.ticking (.initial Sample.users)
      (Sample.setUp ++ [Sample.login, .userCheckSndfaCode "alice" Sample.code.code])
    let t := Sample.ticking w.ticks
    ∃ row, w.spassword "alice" = some row ∧
      (Signed Sample.conf w "alice" t ↔ row.sndfa = true ∧ row.sndfaEmail = true ∧
        Identity.Fresh Sample.conf row.sndfaLast t) ∧
      (Identity.WantsSndfa Sample.conf row → (Signed Sample.conf w "alice" t ↔
        LetThrough Sample.conf (Sample.env Sample.code) w "alice" row t)) := by
  intro w t
  refine ⟨_, rfl, ?_⟩
  refine (freshness_tests_agree_iff (u := "alice") (Sample.env Sample.code) rfl t).mpr ?_
  intro _ _ last hlast
  cases hlast
  exact .inl (by decide)

/-- A day after the validation, with a window of one hour, `already_sndfa_signed` returns `True`,
and a login is asked for the second factor. -/
theorem stale_validation_signed :
    let w := run Sample.conf Sample.ticking (.initial Sample.users)
      (Sample.setUp ++ [Sample.login, .userCheckSndfaCode "alice" Sample.code.code])
    ∃ row, w.spassword "alice" = some row ∧ Identity.WantsSndfa Sample.conf row ∧
      Signed Sample.conf w "alice" (hours 24) ∧
        ¬ Identity.Fresh Sample.conf row.sndfaLast (hours 24) ∧
          ¬ LetThrough Sample.conf (Sample.env Sample.code) w "alice" row (hours 24) := by
  intro w
  refine ⟨_, rfl, ⟨rfl, rfl⟩, ⟨_, rfl⟩, ?_, ?_⟩
  · rintro ⟨date, hdate, hlt⟩
    cases hdate
    exact absurd hlt (by decide)
  · rintro ⟨w', hrun⟩
    cases hrun

end KeystoneSpassword
