import KeystoneSpassword.Mails

/-!
# The links in the mails

Three kinds of mail carry a link: the second-factor code of a login, the reset of a recovery, and
the check of an address. Each is built from the option `sndfa_endpoint`. The login looks for `http`
and for `/idm` anywhere in it. The other two look for `http` at its beginning, and append `/v3` in
any case.

## Main definitions

* `apiLink` — the API a link addresses, and the route after it
* `OneApi` — the endpoints for which the rules agree

## Main results

* `linked_of_reachable` — every mailed link is the one of its user, route and code
* `mailed_links_agree_iff` — for which endpoints the links agree
-/

namespace KeystoneSpassword

open StateProgram

variable {conf : Conf} {clock : ℕ → Time} {w : World}

/-! ### Mailed links -/

/-- If the event is a mail with a link, the link is the one for its user, route and code. -/
def Event.Linked (conf : Conf) : Event → Prop
  | .mailed u ⟨_, .sndfaCode code link⟩ _ => link = Identity.sndfaLink conf u code
  | .mailed u ⟨_, .resetPassword code link⟩ _ =>
    link = SPasswordResource.codeLink conf "reset_password" u code
  | .mailed u ⟨_, .checkEmail code link⟩ _ =>
    link = SPasswordResource.codeLink conf "checkemail" u code
  | _ => True

theorem Op.linked_of_posts {op : Op} {e : Event} (h : op.Posts conf e) : e.Linked conf := by
  cases e with
  | mailed u mail handed =>
    obtain ⟨dest, content⟩ := mail
    cases op with
    | authenticate _ _ _ =>
      obtain ⟨rfl, code, rfl⟩ := h
      rfl
    | request r =>
      cases r with
      | recoverPassword _ _ _ | askForCheckEmailCode _ _ _ _ =>
        obtain ⟨rfl, rfl⟩ := h
        rfl
      | resetPassword _ _ _ _ _ =>
        obtain ⟨rfl, rfl⟩ := h
        trivial
      | _ => exact h.elim
    | _ => exact h.elim
  | _ => trivial

/-- **Every mailed link is the one of its user, route and code.** -/
theorem linked_of_reachable (h : Reachable conf clock w) : ∀ e ∈ w.log, e.Linked conf := by
  have hboth : OnOrEmpty conf w ∧ ∀ e ∈ w.log, e.Linked conf := by
    refine Reachable.induction (I := fun w => OnOrEmpty conf w ∧ ∀ e ∈ w.log, e.Linked conf)
      (fun _ => ⟨.inr fun _ => rfl, by simp [World.initial]⟩) (fun w op hw => ?_) h
    obtain ⟨new, hlog, hnew⟩ : GrowsBy (op.Posts conf) w (step conf clock w op) :=
      step_posts hw.1 op
    refine ⟨onOrEmpty_step clock hw.1 op, fun e he => ?_⟩
    rw [hlog] at he
    rcases List.mem_append.mp he with he | he
    · exact Op.linked_of_posts (hnew e he)
    · exact hw.2 e he
  exact hboth.2

/-! ### The API of a link -/

/-- The link of a route: an API, the user, the route and the code. -/
def apiLink (api userId route code : String) : String :=
  api ++ ("/users/" ++ userId ++ "/" ++ route ++ "/" ++ code)

/-- A link is of one API at most. -/
theorem apiLink_left_inj {api api' userId route code : String} :
    apiLink api userId route code = apiLink api' userId route code ↔ api = api' :=
  String.append_left_inj _

/-- The URL is absolute. -/
def Absolute (link : String) : Prop :=
  "http://".toList <+: link.toList ∨ "https://".toList <+: link.toList

/-- The API that a login mails. -/
def sndfaApi (endpoint : String) : String :=
  (if "http".toList <:+: endpoint.toList then "" else "http://") ++
    (if "/idm".toList <:+: endpoint.toList then endpoint else endpoint ++ "/v3")

/-- The API that the other two calls mail. -/
def codeApi (endpoint : String) : String :=
  (if "http".toList <+: endpoint.toList then "" else "http://") ++ endpoint ++ "/v3"

/-- `/v3` belongs to the API. -/
theorem v3_append (rest : String) : "/v3/users/" ++ rest = "/v3" ++ ("/users/" ++ rest) := by
  rw [← String.append_assoc]
  rfl

theorem sndfaLink_eq (conf : Conf) (u code : String) :
    Identity.sndfaLink conf u code = apiLink (sndfaApi conf.sndfaEndpoint) u "sndfa" code := by
  rw [Identity.sndfaLink, apiLink, sndfaApi]
  split_ifs <;> simp [String.append_assoc, v3_append]

theorem codeLink_eq (conf : Conf) (route u code : String) :
    SPasswordResource.codeLink conf route u code =
      apiLink (codeApi conf.sndfaEndpoint) u route code := by
  rw [SPasswordResource.codeLink, apiLink, codeApi]
  split_ifs <;> simp [String.append_assoc, v3_append]

/-! ### Absolute links -/

/-- Whether a list without a `v` begins the text is decided before the `v` of `/v3`. -/
theorem prefix_v3_iff {xs ys zs : List Char} (hv : 'v' ∉ xs) :
    xs <+: ys ++ '/' :: 'v' :: zs ↔ xs <+: ys ++ ['/'] := by
  have hcut : ys ++ '/' :: 'v' :: zs = (ys ++ ['/']) ++ 'v' :: zs := by simp
  rw [hcut]
  constructor
  · intro h
    rcases List.prefix_or_prefix_of_prefix h (List.prefix_append (ys ++ ['/']) ('v' :: zs)) with
      hle | ⟨rest, rfl⟩
    · exact hle
    · rw [List.prefix_append_right_inj] at h
      rcases List.prefix_cons_iff.mp h with rfl | ⟨rest', rfl, -⟩
      · simp
      · exact absurd (by simp) hv
  · exact fun h => h.trans (List.prefix_append _ _)

/-- A link of an API under `/v3` is absolute when its part up to the slash is. -/
theorem absolute_apiLink_iff (base userId route code : String) :
    Absolute (apiLink (base ++ "/v3") userId route code) ↔ Absolute (base ++ "/") := by
  have hlink : (apiLink (base ++ "/v3") userId route code).toList =
      base.toList ++ '/' :: 'v' :: '3' ::
        ("/users/" ++ userId ++ "/" ++ route ++ "/" ++ code).toList := by
    rw [apiLink, String.toList_append, String.toList_append, List.append_assoc]
    rfl
  have hbase : (base ++ "/").toList = base.toList ++ ['/'] := String.toList_append
  rw [Absolute, Absolute, hlink, hbase, prefix_v3_iff (by decide), prefix_v3_iff (by decide)]

/-! ### When the links agree -/

/-- The three links are absolute, and address one API. -/
def LinksAgree (conf : Conf) (u sndfaCode resetCode checkCode : String) : Prop :=
  (Absolute (Identity.sndfaLink conf u sndfaCode) ∧
    Absolute (SPasswordResource.codeLink conf "reset_password" u resetCode) ∧
    Absolute (SPasswordResource.codeLink conf "checkemail" u checkCode)) ∧
  ∃ api, Identity.sndfaLink conf u sndfaCode = apiLink api u "sndfa" sndfaCode ∧
    SPasswordResource.codeLink conf "reset_password" u resetCode =
      apiLink api u "reset_password" resetCode ∧
    SPasswordResource.codeLink conf "checkemail" u checkCode = apiLink api u "checkemail" checkCode

/-- The endpoint has no `/idm` in it, and either no `http` at all or an absolute beginning. -/
def OneApi (endpoint : String) : Prop :=
  ¬ "/idm".toList <:+: endpoint.toList ∧
    (¬ "http".toList <:+: endpoint.toList ∨ Absolute (endpoint ++ "/"))

/-- The two APIs agree when there is no `/idm`, and `http` is nowhere but at the beginning. -/
theorem sndfaApi_eq_codeApi_iff (endpoint : String) :
    sndfaApi endpoint = codeApi endpoint ↔ ¬ "/idm".toList <:+: endpoint.toList ∧
      ("http".toList <:+: endpoint.toList → "http".toList <+: endpoint.toList) := by
  have hscheme : "http://".length = 7 := by decide
  have hversion : "/v3".length = 3 := by decide
  rw [sndfaApi, codeApi, String.append_assoc]
  constructor
  · intro h
    have hidm : ¬ "/idm".toList <:+: endpoint.toList := by
      intro hidm
      rw [if_pos hidm] at h
      have hlength := congrArg String.length h
      split_ifs at hlength <;> simp only [String.length_append, String.length_empty] at hlength <;>
        omega
    refine ⟨hidm, fun hhas => ?_⟩
    by_contra hprefix
    rw [if_neg hidm, String.append_left_inj, if_pos hhas, if_neg hprefix] at h
    exact absurd h (by decide)
  · rintro ⟨hidm, hhttp⟩
    rw [if_neg hidm, String.append_left_inj]
    by_cases hhas : "http".toList <:+: endpoint.toList
    · rw [if_pos hhas, if_pos (hhttp hhas)]
    · rw [if_neg hhas, if_neg fun hprefix => hhas hprefix.isInfix]

/-- An absolute beginning begins with `http`. -/
theorem http_prefix_of_absolute {endpoint : String} (h : Absolute (endpoint ++ "/")) :
    "http".toList <+: endpoint.toList := by
  have hprefix : "http".toList <+: endpoint.toList ++ ['/'] := by
    rw [Absolute, String.toList_append] at h
    rcases h with h | h
    · exact List.IsPrefix.trans (by decide) h
    · exact List.IsPrefix.trans (by decide) h
  rcases List.prefix_concat_iff.mp hprefix with heq | hprefix
  · have hmem : '/' ∈ "http".toList := by
      rw [heq]
      simp
    exact absurd hmem (by decide)
  · exact hprefix

/-- The links of the two routes are absolute unless `http` begins something else. -/
theorem absolute_codeApi_iff (endpoint userId route code : String) :
    Absolute (apiLink (codeApi endpoint) userId route code) ↔
      ("http".toList <+: endpoint.toList → Absolute (endpoint ++ "/")) := by
  rw [codeApi, absolute_apiLink_iff]
  by_cases hprefix : "http".toList <+: endpoint.toList
  · rw [if_pos hprefix, String.empty_append]
    exact ⟨fun h _ => h, fun h => h hprefix⟩
  · rw [if_neg hprefix]
    refine iff_of_true (.inl ?_) fun h => absurd h hprefix
    rw [String.append_assoc, String.toList_append]
    exact List.prefix_append _ _

/-- **For which endpoints the links agree**, whatever the user and the codes. -/
theorem mailed_links_agree_iff (conf : Conf) (u sndfaCode resetCode checkCode : String) :
    LinksAgree conf u sndfaCode resetCode checkCode ↔ OneApi conf.sndfaEndpoint := by
  rw [LinksAgree, OneApi]
  simp only [sndfaLink_eq, codeLink_eq, apiLink_left_inj]
  constructor
  · rintro ⟨⟨-, habsolute, -⟩, api, hsndfa, hcode, -⟩
    obtain ⟨hidm, hhttp⟩ := (sndfaApi_eq_codeApi_iff _).mp (hsndfa.trans hcode.symm)
    refine ⟨hidm, ?_⟩
    by_cases hhas : "http".toList <:+: conf.sndfaEndpoint.toList
    · exact .inr ((absolute_codeApi_iff _ _ _ _).mp habsolute (hhttp hhas))
    · exact .inl hhas
  · rintro ⟨hidm, h⟩
    have hhttp (hhas : "http".toList <:+: conf.sndfaEndpoint.toList) :
        "http".toList <+: conf.sndfaEndpoint.toList :=
      http_prefix_of_absolute (h.resolve_left (not_not.mpr hhas))
    have hsame : sndfaApi conf.sndfaEndpoint = codeApi conf.sndfaEndpoint :=
      (sndfaApi_eq_codeApi_iff _).mpr ⟨hidm, hhttp⟩
    have habsolute (route code : String) :
        Absolute (apiLink (codeApi conf.sndfaEndpoint) u route code) :=
      (absolute_codeApi_iff _ _ _ _).mpr fun hprefix => h.resolve_left (not_not.mpr hprefix.isInfix)
    rw [hsame]
    exact ⟨⟨habsolute _ _, habsolute _ _, habsolute _ _⟩, _, rfl, rfl, rfl⟩

/-- The endpoint of the documentation: the link of a login has no `/v3`, the others have one. -/
theorem idm_links_disagree :
    ¬ LinksAgree { Conf.default with sndfaEndpoint := "https://localhost/idm" } "alice"
      Sample.code.code Sample.code.code Sample.emailCode.code := by
  rintro ⟨-, api, hsndfa, hcode, -⟩
  rw [sndfaLink_eq, apiLink_left_inj] at hsndfa
  rw [codeLink_eq, apiLink_left_inj] at hcode
  exact ((sndfaApi_eq_codeApi_iff _).mp (hsndfa.trans hcode.symm)).1 (by decide)

end KeystoneSpassword
