import KeystoneSpassword.Challenge
import KeystoneSpassword.Delivery
import KeystoneSpassword.Routes

/-!
# Following a link

A call mails a link, others call the system, and then somebody follows the link. From the text in
the mail to the answer this takes the routing of the path, the handler and the row. The answer is a
success unless something has spoiled the code on the way, and this file says what can.

A code of the second factor is spoiled by whatever ends the second factor or the verification of
the email. A code for the email is spoiled by a newer one only, however often it has been presented.

## Main definitions

* `MailContent.TakenBy` — the row takes the code of the mail
* `MailContent.SpoiledBy` — the events after which it may not

## Main results

* `followed_link_accepted`
-/

namespace KeystoneSpassword

open StateProgram Relation History

variable {conf : Conf} {clock : ℕ → Time} {w w' : World} {u code : String}

/-! ### The row takes the code -/

/-- The row takes the code of the mail. A code of the second factor needs the second factor of the
deployment too. -/
def MailContent.TakenBy (conf : Conf) : MailContent → SPasswordModel → Prop
  | .sndfaCode code _, row => conf.sndfa = true ∧ SPassword.Acceptable row code
  | .resetPassword code _, row | .checkEmail code _, row => row.sndfaEmailCode = some code
  | .newPassword _, _ => False

/-- The event may keep the user's row from taking the code of the mail. -/
def MailContent.SpoiledBy (u : String) : MailContent → Event → Prop
  | _, .userDeleted v | _, .emailCodeIssued v _ _ => v = u
  | .sndfaCode _ _, .sndfaIssued v _ _ | .sndfaCode _ _, .sndfaModified v _ => v = u
  | .sndfaCode _ _, .emailCodeChecked v _ matched => v = u ∧ matched = false
  | _, _ => False

/-- A row keeps taking a code until an event spoils it. -/
theorem Move.taken {v : String} {content : MailContent} {row : SPasswordModel}
    (h : Move clock .any v w w')
    (hnew : ∀ new, w'.log = new ++ w.log → ∀ e ∈ new, ¬ content.SpoiledBy u e)
    (hrow : w.spassword u = some row) (htaken : content.TakenBy conf row) :
    ∃ row', w'.spassword u = some row' ∧ content.TakenBy conf row' := by
  by_cases hv : u = v
  · subst hv
    cases h with
    | tick | noted _ _ _ _ _ | recordStored _ _ | passwordStored _ _ _ | userDropped _ _
    | passwordReset _ _ _ _ _ _ => exact ⟨row, hrow, htaken⟩
    | userRemoved _ _ =>
      have hspoiled : content.SpoiledBy u (.userDeleted u) := by cases content <;> rfl
      exact absurd hspoiled (hnew [_] rfl _ List.mem_cons_self)
    | emailCodeIssued row₁ c origin _ _ _ =>
      have hspoiled : content.SpoiledBy u (.emailCodeIssued u c.code origin) := by
        cases content <;> rfl
      exact absurd hspoiled (hnew [_] rfl _ List.mem_cons_self)
    | recovered row₁ c _ _ _ _ =>
      have hspoiled : content.SpoiledBy u (.emailCodeIssued u c.code .recover) := by
        cases content <;> rfl
      exact absurd hspoiled (hnew [_, _] rfl _ (by simp))
    | rowCreated _ _ _ hnone _ _ _ | rowRegistered _ _ _ _ hnone _ _ _ =>
      rw [hrow] at hnone
      cases hnone
    | rowTouched row₁ _ hrow₁ _ _ | attemptStored row₁ _ _ hrow₁ _ _ | blackModified row₁ _ hrow₁ _
    | sndfaAccepted row₁ _ _ hrow₁ _ _ _ _ _ =>
      obtain rfl : row = row₁ := Option.some.inj (hrow.symm.trans hrow₁)
      exact ⟨_, Function.update_self .., by cases content <;> exact htaken⟩
    | sndfaIssued row₁ c t _ _ hrow₁ _ _ _ _ _ =>
      obtain rfl : row = row₁ := Option.some.inj (hrow.symm.trans hrow₁)
      refine ⟨_, Function.update_self .., ?_⟩
      cases content with
      | sndfaCode _ _ => exact absurd rfl (hnew [_] rfl _ List.mem_cons_self)
      | _ => exact htaken
    | sndfaModified row₁ enable hrow₁ _ _ =>
      obtain rfl : row = row₁ := Option.some.inj (hrow.symm.trans hrow₁)
      refine ⟨_, Function.update_self .., ?_⟩
      cases content with
      | sndfaCode _ _ => exact absurd rfl (hnew [_] rfl _ List.mem_cons_self)
      | _ => exact htaken
    | emailCodeChecked row₁ c hrow₁ _ _ _ =>
      obtain rfl : row = row₁ := Option.some.inj (hrow.symm.trans hrow₁)
      refine ⟨_, Function.update_self .., ?_⟩
      cases content with
      | sndfaCode _ _ =>
        -- a comparison that matches leaves the email verified
        have hmatched : decide (row.sndfaEmailCode = some c) = true := by
          by_contra hunmatched
          exact hnew [_] rfl _ List.mem_cons_self ⟨rfl, Bool.eq_false_iff.mpr hunmatched⟩
        exact ⟨htaken.1, htaken.2.1, hmatched, htaken.2.2.2⟩
      | _ => exact htaken
  · exact ⟨row, (h.other hv).2.trans hrow, htaken⟩

/-- Unless an event since the history was `base` has spoiled it, the user's row takes the code. -/
def TakenSince (conf : Conf) (u : String) (content : MailContent) (base : List Event)
    (w : World) : Prop :=
  ∃ new, w.log = new ++ base ∧ ((∀ e ∈ new, ¬ content.SpoiledBy u e) →
    ∃ row, w.spassword u = some row ∧ content.TakenBy conf row)

theorem Move.takenSince {v : String} {content : MailContent} {base : List Event}
    (h : Move clock .any v w w') (hw : TakenSince conf u content base w) :
    TakenSince conf u content base w' := by
  obtain ⟨new, hlog, htaken⟩ := hw
  obtain ⟨added, hadded, -, -⟩ := h.log_eq
  refine ⟨added ++ new, by rw [hadded, hlog, List.append_assoc], fun hnew => ?_⟩
  obtain ⟨row, hrow, hrow'⟩ := htaken fun e he => hnew e (List.mem_append_right _ he)
  refine h.taken (fun added' hadded' e he => hnew e ?_) hrow hrow'
  obtain rfl : added = added' := List.append_cancel_right (hadded.symm.trans hadded')
  exact List.mem_append_left _ he

/-- What every move keeps, every run keeps. -/
theorem keeps_of_run {I : World → Prop} (hI : ∀ v w w', Move clock .any v w w' → I w → I w')
    (hreach : Reachable conf clock w) (hw : I w) (ops : List Op) : I (run conf clock w ops) := by
  induction ops generalizing w with
  | nil => exact hw
  | cons op ops ih =>
    have hmoves : Moves clock .any op.userId w (step conf clock w op) :=
      step_moves (onOrEmpty_of_reachable hreach) (Op.allowed_any conf w op)
    exact ih (hreach.step op) (keeps_of_steps (hI op.userId) hmoves hw)

/-! ### The call that mails the link -/

/-- The call that mails a code leaves a row that takes it. A request for a check code may find no
row. -/
theorem taken_of_mailed (hclock : Monotone clock) (hreach : Reachable conf clock w) {op : Op}
    {new : List Event} (hlog : (step conf clock w op).log = new ++ w.log) {address : Address}
    {content : MailContent} {handed : Bool} (hmail : .mailed u ⟨address, content⟩ handed ∈ new)
    (hpassword : ∀ password, content ≠ .newPassword password)
    (hcheck : ∀ c l, content = .checkEmail c l → (step conf clock w op).spassword u ≠ none) :
    ∃ row, (step conf clock w op).spassword u = some row ∧ content.TakenBy conf row := by
  obtain ⟨posted, hposted, hposts⟩ : GrowsBy (op.Posts conf) w (step conf clock w op) :=
    step_posts (onOrEmpty_of_reachable hreach) op
  obtain rfl : new = posted := List.append_cancel_right (hlog.symm.trans hposted)
  have hmails : op.Mails conf u content := hposts _ hmail
  cases op with
  | authenticate v password env =>
    obtain ⟨rfl, c, rfl⟩ := hmails
    rw [step_authenticate] at hlog ⊢
    have hmailed : CodeMailed u c w (final (Identity.authenticate conf clock env u password) w) :=
      ⟨new, _, _, _, hlog, hmail⟩
    have hchallenge := challenge_of_mailed hmailed
    obtain ⟨none, row, hnone, hrow, hon, hemail, hcode⟩ := hchallenge.codeHeld hclock hreach
    obtain rfl : none = [] := List.self_eq_append_left.mp hnone
    obtain ⟨_, _, _, _, _, _, _, _, _, _, hwants, -⟩ := hchallenge
    exact ⟨row, hrow, hwants.1, hon, hemail, hcode (by simp)⟩
  | request r =>
    rw [step_request] at hlog hcheck ⊢
    cases r with
    | recoverPassword v uuid server =>
      obtain ⟨rfl, rfl⟩ := hmails
      obtain ⟨-, hrefused, hletThrough⟩ := recoveryEnds conf w u uuid server
      by_cases h : ∃ userRecord address row,
          SPasswordResource.Recoverable conf w u userRecord address row
      · obtain ⟨userRecord, address', row, h⟩ := h
        have htable := (hletThrough userRecord address' row h).table
        exact ⟨_, (congrFun htable u).trans (Function.update_self ..), rfl⟩
      · rw [Request.program, hrefused h] at hlog
        obtain rfl : new = [] := List.self_eq_append_left.mp hlog
        cases hmail
    | askForCheckEmailCode v uuid server allowed =>
      obtain ⟨rfl, rfl⟩ := hmails
      obtain ⟨-, hrefused, hletThrough, hnoRow⟩ := askEnds conf w u allowed uuid server
      by_cases h : ∃ userRecord address,
          SPasswordResource.Askable w u allowed userRecord address
      · obtain ⟨userRecord, address', h⟩ := h
        cases hrow : w.spassword u with
        | none => exact absurd ((congrFun (hnoRow hrow) u).trans hrow) (hcheck _ _ rfl)
        | some row =>
          have htable := (hletThrough userRecord address' row h hrow).table
          exact ⟨_, (congrFun htable u).trans (Function.update_self ..), rfl⟩
      · rw [Request.program, hrefused h] at hlog
        obtain rfl : new = [] := List.self_eq_append_left.mp hlog
        cases hmail
    | resetPassword v c newPassword fault server =>
      obtain ⟨-, rfl⟩ := hmails
      exact absurd rfl (hpassword _)
    | _ => exact hmails.elim
  | _ => exact hmails.elim

/-! ### The answer -/

/-- What the handler needs beside the code: an address, where it looks for one, and for a reset a
Keystone that stores the password and a mail server that returns for the address. -/
def MailContent.Answerable (conf : Conf) (env : HttpEnv) (u : String) (w : World) :
    MailContent → Prop
  | .sndfaCode _ _ => True
  | .checkEmail _ _ => ∃ userRecord, w.users u = some userRecord ∧ userRecord.email ≠ none
  | .resetPassword _ _ => env.fault = none ∧ ∃ userRecord address, w.users u = some userRecord ∧
      userRecord.email = some address ∧ SendMail.Returns conf env.server address
  | .newPassword _ => False

/-- A code that the row takes is answered with a success. -/
theorem answerStatus_of_taken (hreach : Reachable conf clock w) {row : SPasswordModel}
    {content : MailContent} {link : String} {env : HttpEnv} {request : Request}
    (hrow : w.spassword u = some row) (htaken : content.TakenBy conf row)
    (hlink : content.codeAndLink = some (code, link)) (hne : code ≠ "")
    (hanswerable : content.Answerable conf env u w)
    (hrequest : content.answer env u = some request) :
    answerStatus ((request.program conf clock).run w) = 200 := by
  have henabled : conf.enabled = true :=
    (onOrEmpty_of_reachable hreach).resolve_right fun hnone => by
      rw [hnone u] at hrow
      cases hrow
  cases content with
  | sndfaCode c l =>
    cases hlink
    cases hrequest
    obtain ⟨userRecord, huser⟩ : ∃ userRecord, w.users u = some userRecord :=
      Option.ne_none_iff_exists'.mp ((tracks_of_reachable hreach).user u row hrow)
    obtain ⟨hsndfa, haccept⟩ := htaken
    have hrun : (SPassword.checkSndfaCode clock u code).run w = _ :=
      SPassword.run_checkSndfaCode_of_match hrow haccept
    show answerStatus ((SPasswordResource.checkSndfaCode conf clock u code).run w) = 200
    rw [SPasswordResource.run_checkSndfaCode_of_verified ⟨henabled, hsndfa⟩ huser
      ⟨row, hrow, haccept.2.1⟩, run_map, hrun]
    rfl
  | resetPassword c l =>
    cases hlink
    cases hrequest
    obtain ⟨hfault, userRecord, address, huser, haddress, sent, hsent⟩ := hanswerable
    have hcheck : (SPassword.checkEmailCode u code).run w = _ :=
      SPassword.run_checkEmailCode_of_match hrow htaken hne
    show answerStatus ((SPasswordResource.resetPassword conf clock env.newPassword env.fault
      env.server u code).run w) = 200
    rw [hfault, SPasswordResource.run_resetPassword_of_match henabled huser hcheck huser
      (Function.update_self ..), haddress]
    dsimp only
    rw [EStateM.run_bind, SendMail.run_sendEmail, hsent]
    rfl
  | checkEmail c l =>
    cases hlink
    cases hrequest
    obtain ⟨userRecord, huser, haddress⟩ := hanswerable
    obtain ⟨address, haddress⟩ := Option.ne_none_iff_exists'.mp haddress
    have hcheck : (SPassword.checkEmailCode u code).run w = _ :=
      SPassword.run_checkEmailCode_of_match hrow htaken hne
    have hdefined : (SPasswordResource.checkUserHasEmailDefined (userRecord.toUser u)).run w =
        .ok address w := run_checkUserHasEmailDefined_some haddress
    show answerStatus ((SPasswordResource.checkEmailCode u code).run w) = 200
    simp [SPasswordResource.checkEmailCode, run_getUser_some w huser, hdefined,
      SPasswordManager.userCheckEmailCode, hcheck, answerStatus]
  | newPassword password => cases hlink

/-- **A link that is followed is answered with a success**, as long as no event since the call
that mailed it has spoiled the code. From the text in the mail this is the routing of the path, the
handler of the route and the row of the user. -/
theorem followed_link_accepted (hclock : Monotone clock) (hreach : Reachable conf clock w)
    {op : Op} {new : List Event} (hlog : (step conf clock w op).log = new ++ w.log)
    {address : Address} {link : String} {content : MailContent} {handed : Bool}
    (hmail : .mailed u ⟨address, content⟩ handed ∈ new)
    (hlink : content.codeAndLink = some (code, link)) (hkeystone : content.ToKeystone conf)
    (hcheck : ∀ c l, content = .checkEmail c l → (step conf clock w op).spassword u ≠ none)
    (hu : UrlSafe u) (hcode : UrlSafe code) {ops : List Op}
    (hops : ∀ later, (run conf clock (step conf clock w op) ops).log =
      later ++ (step conf clock w op).log → ∀ e ∈ later, ¬ content.SpoiledBy u e) {env : HttpEnv}
    (hanswerable : content.Answerable conf env u (run conf clock (step conf clock w op) ops)) :
    ∃ api path request, link = api ++ "/v3" ++ path ∧
      SPasswordAPI.dispatch env .get path = some request ∧
      answerStatus ((request.program conf clock).run
        (run conf clock (step conf clock w op) ops)) = 200 := by
  have hreach₁ : Reachable conf clock (step conf clock w op) := hreach.step op
  have hmem : .mailed u ⟨address, content⟩ handed ∈ (step conf clock w op).log :=
    hlog ▸ List.mem_append_left _ hmail
  obtain ⟨api, path, request, hpath, hrequest, hdispatch⟩ :=
    linked_routed (linked_of_reachable hreach₁ _ hmem) hlink hkeystone hu hcode env
  have hpassword : ∀ password, content ≠ .newPassword password := by
    rintro password rfl
    cases hlink
  have htaken := taken_of_mailed hclock hreach hlog hmail hpassword hcheck
  have hsince : TakenSince conf u content (step conf clock w op).log (step conf clock w op) :=
    ⟨[], rfl, fun _ => htaken⟩
  obtain ⟨later, hlater, hrow⟩ :=
    keeps_of_run (fun _ _ _ hmove => hmove.takenSince) hreach₁ hsince ops
  obtain ⟨row, hrow, htaken⟩ := hrow (hops later hlater)
  exact ⟨api, path, request, hpath, hdispatch,
    answerStatus_of_taken (hreach₁.run ops) hrow htaken hlink hcode.1 hanswerable hrequest⟩

/-- A request that finds the base driver and the mail server of `Sample`. -/
def Sample.httpEnv : HttpEnv where
  uuid := Sample.code
  newPassword := Sample.newPassword
  server := .up
  allowed := true
  enable := none
  fault := none

set_option maxRecDepth 10000 in
/-- The link of a recovery is followed after two wrong passwords, and then once more. -/
theorem followed_link_accepted_twice :
    let w := run Sample.conf Sample.ticking (.initial Sample.users) Sample.setUp
    let op : Op := .request (.recoverPassword "alice" Sample.code .up)
    let ops : List Op := [Sample.guess, Sample.guess, .request (.resetPassword "alice"
      Sample.code.code Sample.newPassword none .up)]
    ∃ api path request, SPasswordResource.codeLink Sample.conf "reset_password" "alice"
        Sample.code.code = api ++ "/v3" ++ path ∧
      SPasswordAPI.dispatch Sample.httpEnv .get path = some request ∧
      answerStatus ((request.program Sample.conf Sample.ticking).run
        (run Sample.conf Sample.ticking (step Sample.conf Sample.ticking w op) ops)) = 200 := by
  intro w op ops
  have hreach : Reachable Sample.conf Sample.ticking w := ⟨Sample.users, _, rfl⟩
  have hmailed : ∃ new, (step Sample.conf Sample.ticking w op).log = new ++ w.log ∧
      .mailed "alice" ⟨.text "alice@a.example", .resetPassword Sample.code.code
        (SPasswordResource.codeLink Sample.conf "reset_password" "alice" Sample.code.code)⟩
          true ∈ new :=
    ⟨[_, _, _], rfl, List.mem_cons_self⟩
  obtain ⟨new, hlog, hmail⟩ := hmailed
  have hops : ∀ later, (run Sample.conf Sample.ticking (step Sample.conf Sample.ticking w op)
      ops).log = later ++ (step Sample.conf Sample.ticking w op).log →
        ∀ e ∈ later, ¬ MailContent.SpoiledBy "alice" (.resetPassword Sample.code.code
          (SPasswordResource.codeLink Sample.conf "reset_password" "alice" Sample.code.code))
            e := by
    intro later hlater
    obtain rfl : [_, _, _, _, _, _, _] = later := List.append_cancel_right hlater
    simp [MailContent.SpoiledBy]
  exact followed_link_accepted Sample.monotone_ticking hreach hlog hmail rfl trivial
    (fun _ _ h => by cases h) (by decide) (by decide) hops
    ⟨rfl, _, _, rfl, rfl, true, rfl⟩

end KeystoneSpassword
