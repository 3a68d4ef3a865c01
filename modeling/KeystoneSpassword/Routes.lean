import KeystoneSpassword.Lib.UrlRules
import KeystoneSpassword.Links

/-!
# Routes

`class SPasswordAPI` of `spassword.py`: the URL rules, and the class that serves each of them. The
rules stand here as they stand in the source. Keystone mounts them under `/v3`, and gives a class
listed in `resources` one rule for the collection and one for its members.

A request that is routed to a class of the extension becomes a `Request`. The user classes, which
the extension puts in front of Keystone's own, have no `Request`: their handlers are not part of
the system modelled here.

## Main results

* `urlMap_clash` — no path fits two rules
* `linked_routed` — a mailed link is routed to the handler that takes its code
-/

namespace KeystoneSpassword

open StateProgram UrlRules

variable {conf : Conf} {u code : String}

/-! ### The table -/

/-- The method of a request. -/
inductive Method
  | get
  | post
  | put
  | patch
  | delete
  deriving DecidableEq, Repr

/-- The resource classes. -/
inductive Resource
  | scimUser
  | user
  | userPassword
  | recover
  | reset
  | modifySndfa
  | checkSndfa
  | askCheckEmail
  | checkEmail
  | userProjectRoles
  | modifyBlack
  deriving DecidableEq, Repr

namespace SPasswordAPI

/-- The rules of `resources`. -/
def resources : List (String × Resource) :=
  [("/users", .user), ("/users/<string:user_id>", .user)]

/-- `resource_mapping` -/
def resourceMapping : List (String × Resource) :=
  [("/OS-SCIM/Users/<string:user_id>", .scimUser),
    ("/users/<string:user_id>/password", .userPassword),
    ("/users/<string:user_id>/recover_password", .recover),
    ("/users/<string:user_id>/reset_password/<string:code>", .reset),
    ("/users/<string:user_id>/sndfa", .modifySndfa),
    ("/users/<string:user_id>/sndfa/<string:code>", .checkSndfa),
    ("/users/<string:user_id>/checkemail", .askCheckEmail),
    ("/users/<string:user_id>/checkemail/<string:code>", .checkEmail),
    ("/users/<string:user_id>/project_roles", .userProjectRoles),
    ("/users/<string:user_id>/black", .modifyBlack)]

/-- All rules. -/
def urlMap : List (String × Resource) := resources ++ resourceMapping

/-- The rules, read. -/
theorem map_pattern_urlMap : urlMap.map (fun entry => pattern entry.1) =
    [[.lit "", .lit "users"],
      [.lit "", .lit "users", .var "user_id"],
      [.lit "", .lit "OS-SCIM", .lit "Users", .var "user_id"],
      [.lit "", .lit "users", .var "user_id", .lit "password"],
      [.lit "", .lit "users", .var "user_id", .lit "recover_password"],
      [.lit "", .lit "users", .var "user_id", .lit "reset_password", .var "code"],
      [.lit "", .lit "users", .var "user_id", .lit "sndfa"],
      [.lit "", .lit "users", .var "user_id", .lit "sndfa", .var "code"],
      [.lit "", .lit "users", .var "user_id", .lit "checkemail"],
      [.lit "", .lit "users", .var "user_id", .lit "checkemail", .var "code"],
      [.lit "", .lit "users", .var "user_id", .lit "project_roles"],
      [.lit "", .lit "users", .var "user_id", .lit "black"]] := by
  decide +kernel

/-- **No path fits two rules.** -/
theorem urlMap_clash :
    urlMap.Pairwise fun e e' => clash (pattern e.1) (pattern e'.1) = true := by
  have hclash : (urlMap.map fun entry => pattern entry.1).Pairwise
      fun p q => clash p q = true := by
    rw [map_pattern_urlMap]
    decide
  exact List.pairwise_map.mp hclash

/-- The parts of a rule, from its place in the table. -/
theorem pattern_eq {k : ℕ} {rule : String} {resource : Resource} {p : List Segment}
    (h : urlMap[k]? = some (rule, resource))
    (hp : (urlMap.map fun entry => pattern entry.1)[k]? = some p) : pattern rule = p := by
  rw [List.getElem?_map, h] at hp
  exact Option.some.inj hp

end SPasswordAPI

/-- What a request finds outside the extension. -/
structure HttpEnv where
  uuid : ShortCode
  newPassword : NewPassword
  server : SmtpServer
  allowed : Bool
  enable : Option Json
  fault : Option PyExc

/-- The handler of a class for a method, called with the variables of the rule by name. -/
def Resource.request (env : HttpEnv) (method : Method) (resource : Resource)
    (kwargs : List (String × String)) : Option Request := do
  let userId ← kwargs.lookup "user_id"
  match method, resource with
  | .get, .recover => some (.recoverPassword userId env.uuid env.server)
  | .get, .reset => do
    let code ← kwargs.lookup "code"
    some (.resetPassword userId code env.newPassword env.fault env.server)
  | .get, .modifySndfa => some (.getSndfa userId env.allowed)
  | .post, .modifySndfa => some (.modifySndfa userId env.enable env.allowed)
  | .get, .checkSndfa => do
    let code ← kwargs.lookup "code"
    some (.checkSndfaCode userId code)
  | .get, .askCheckEmail => some (.askForCheckEmailCode userId env.uuid env.server env.allowed)
  | .get, .checkEmail => do
    let code ← kwargs.lookup "code"
    some (.checkEmailCode userId code)
  | .get, .modifyBlack => some (.getBlack userId env.allowed)
  | .post, .modifyBlack => some (.modifyBlack userId env.enable env.allowed)
  | _, _ => none

/-- The request that a path under `/v3` is served as. -/
def SPasswordAPI.dispatch (env : HttpEnv) (method : Method) (path : String) : Option Request := do
  let (resource, kwargs) ← route urlMap path
  resource.request env method kwargs

/-- A path that is built from a rule is served by the class of the rule. -/
theorem SPasswordAPI.dispatch_urlFor {env : HttpEnv} {rule : String} {resource : Resource}
    {args : List (String × String)} (hmem : (rule, resource) ∈ urlMap)
    (hfits : Fits (pattern rule) args) (method : Method) :
    dispatch env method (urlFor rule args) = resource.request env method args := by
  have hroute : route urlMap (urlFor rule args) = some (resource, args) :=
    (route_eq_some_iff urlMap_clash).mpr ⟨rule, hmem, matchUrl_eq_some_iff.mpr ⟨hfits, rfl⟩⟩
  simp [dispatch, hroute]

/-! ### Links -/

/-- Letters, digits, hyphens and underscores, and at least one of them: such a text stands in a
URL as it is. -/
def UrlSafe (s : String) : Prop :=
  s ≠ "" ∧ s.toList.all (fun c => c.isAlphanum || c == '-' || c == '_') = true

instance (s : String) : Decidable (UrlSafe s) := inferInstanceAs (Decidable (_ ∧ _))

theorem UrlSafe.slash {s : String} (h : UrlSafe s) : '/' ∉ s.toList := fun hmem => by
  have hslash := List.all_eq_true.mp h.2 '/' hmem
  revert hslash
  decide

/-- The code and the link of a mail. -/
def MailContent.codeAndLink : MailContent → Option (String × String)
  | .sndfaCode code link | .resetPassword code link | .checkEmail code link => some (code, link)
  | .newPassword _ => none

/-- The request that takes the code of a mail. -/
def MailContent.answer (env : HttpEnv) (u : String) : MailContent → Option Request
  | .sndfaCode code _ => some (.checkSndfaCode u code)
  | .resetPassword code _ => some (.resetPassword u code env.newPassword env.fault env.server)
  | .checkEmail code _ => some (.checkEmailCode u code)
  | .newPassword _ => none

/-- The link leads to the extension. With `/idm` in the endpoint the second-factor link leads to
the identity manager in front of it. -/
def MailContent.ToKeystone (conf : Conf) : MailContent → Prop
  | .sndfaCode _ _ => ¬ "/idm".toList <:+: conf.sndfaEndpoint.toList
  | _ => True

/-- The path of a route with a user and a code. -/
def codePath (u route code : String) : String := "/users/" ++ u ++ "/" ++ route ++ "/" ++ code

theorem join_codePath (u route code : String) :
    join ["", "users", u, route, code] = codePath u route code := by
  apply String.toList_inj.mp
  simp [codePath, join, List.intercalate]

theorem apiLink_v3 (base u route code : String) :
    apiLink (base ++ "/v3") u route code = base ++ "/v3" ++ codePath u route code := rfl

theorem fits_codeRule {route : String} {p : List Segment}
    (hp : p = [.lit "", .lit "users", .var "user_id", .lit route, .var "code"])
    (hu : UrlSafe u) (hcode : UrlSafe code) : Fits p [("user_id", u), ("code", code)] := by
  subst hp
  exact ⟨rfl, hu.1, hu.slash, rfl, hcode.1, hcode.slash, rfl⟩

/-- A path with a user and a code is served by the class of its rule. -/
theorem dispatch_codePath {env : HttpEnv} {k : ℕ} {rule route : String} {resource : Resource}
    (hrule : SPasswordAPI.urlMap[k]? = some (rule, resource))
    (hp : (SPasswordAPI.urlMap.map fun entry => pattern entry.1)[k]? =
      some [.lit "", .lit "users", .var "user_id", .lit route, .var "code"])
    (hu : UrlSafe u) (hcode : UrlSafe code) :
    SPasswordAPI.dispatch env .get (codePath u route code) =
      resource.request env .get [("user_id", u), ("code", code)] := by
  have hpattern := SPasswordAPI.pattern_eq hrule hp
  rw [← SPasswordAPI.dispatch_urlFor (List.mem_of_getElem? hrule)
    (fits_codeRule hpattern hu hcode), urlFor, hpattern, ← join_codePath]
  rfl

theorem dispatch_sndfa (env : HttpEnv) (hu : UrlSafe u) (hcode : UrlSafe code) :
    SPasswordAPI.dispatch env .get (codePath u "sndfa" code) =
      some (.checkSndfaCode u code) :=
  dispatch_codePath (k := 7) rfl (by rw [SPasswordAPI.map_pattern_urlMap]; rfl) hu hcode

theorem dispatch_resetPassword (env : HttpEnv) (hu : UrlSafe u) (hcode : UrlSafe code) :
    SPasswordAPI.dispatch env .get (codePath u "reset_password" code) =
      some (.resetPassword u code env.newPassword env.fault env.server) :=
  dispatch_codePath (k := 5) rfl (by rw [SPasswordAPI.map_pattern_urlMap]; rfl) hu hcode

theorem dispatch_checkEmail (env : HttpEnv) (hu : UrlSafe u) (hcode : UrlSafe code) :
    SPasswordAPI.dispatch env .get (codePath u "checkemail" code) =
      some (.checkEmailCode u code) :=
  dispatch_codePath (k := 9) rfl (by rw [SPasswordAPI.map_pattern_urlMap]; rfl) hu hcode

/-- A link of the extension is routed to the handler that takes its code, with the user of the
mail and the code in it. -/
theorem linked_routed {address : Address} {link : String} {content : MailContent} {handed : Bool}
    (hlinked : Event.Linked conf (.mailed u ⟨address, content⟩ handed))
    (hlink : content.codeAndLink = some (code, link)) (hkeystone : content.ToKeystone conf)
    (hu : UrlSafe u) (hcode : UrlSafe code) (env : HttpEnv) :
    ∃ api path request, link = api ++ "/v3" ++ path ∧ content.answer env u = some request ∧
      SPasswordAPI.dispatch env .get path = some request := by
  cases content with
  | sndfaCode c l =>
    cases hlink
    have hapi : sndfaApi conf.sndfaEndpoint =
        (if "http".toList <:+: conf.sndfaEndpoint.toList then "" else "http://") ++
          conf.sndfaEndpoint ++ "/v3" := by
      rw [sndfaApi, if_neg hkeystone, String.append_assoc]
    exact ⟨_, _, _, hlinked.trans ((sndfaLink_eq conf u code).trans (by rw [hapi, apiLink_v3])),
      rfl, dispatch_sndfa env hu hcode⟩
  | resetPassword c l =>
    cases hlink
    exact ⟨_, _, _, hlinked.trans ((codeLink_eq conf _ u code).trans (by rw [codeApi, apiLink_v3])),
      rfl, dispatch_resetPassword env hu hcode⟩
  | checkEmail c l =>
    cases hlink
    exact ⟨_, _, _, hlinked.trans ((codeLink_eq conf _ u code).trans (by rw [codeApi, apiLink_v3])),
      rfl, dispatch_checkEmail env hu hcode⟩
  | newPassword password => cases hlink

end KeystoneSpassword
