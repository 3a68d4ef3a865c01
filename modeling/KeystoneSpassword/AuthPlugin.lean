import KeystoneSpassword.Causes

/-!
# The auth plugin

`class SPassword(password.Password)` of `core.py` stands between Keystone's token request and the
identity driver. It hands on what `authenticate` returned, or what it raised.

The payload is parsed by Keystone. The plugin sees a user id and a password, or the exception of
the parser.

## Main definitions

* `UserContext`, `AuthHandlerResponse`
* `SPasswordPlugin.authenticate`

## Main results

* `plugin_faithful`
-/

namespace KeystoneSpassword

open StateProgram

variable {conf : Conf} {clock : ℕ → Time} {w w' : World} {u : String}

/-- The dict `user_context`: the two keys the plugin looks at, where they are set, and the rest. -/
structure UserContext where
  userId : Option String := none
  extras : Option Extras := none
  others : List (String × String) := []
  deriving DecidableEq, Repr

/-- Keystone's response object. Its `response_body` is `None` here. -/
structure AuthHandlerResponse where
  status : Bool
  responseData : UserContext
  deriving DecidableEq, Repr

/-- What the plugin is called with: the parsed payload, and the context, which may be missing. -/
structure PluginCall where
  payload : Except PyExc (String × String)
  userContext : Option UserContext
  env : AuthEnv

namespace SPasswordPlugin

variable (conf : Conf) (clock : ℕ → Time)

/-- `res = identity_api.authenticate(…)`, under `except AssertionError`. -/
def identityAuthenticate (env : AuthEnv) (userId password : String) : Py AuthResult :=
  tryCatch (Identity.authenticate conf clock env userId password) fun
    | .assertionError => throw (.unauthorized "Invalid username or password")
    | e => throw e

/-- The context with what `authenticate` returned. A user id that is there already stays. -/
def userContextWith (userContext : Option UserContext) (userId : String) (res : AuthResult) :
    UserContext :=
  let userContext := userContext.getD {}
  { userContext with
    userId := some (userContext.userId.getD userId)
    extras := if res.extras.isSome then res.extras else userContext.extras }

/-- `authenticate`. `newton` is `'O' in RELEASES`; before that nothing is returned. -/
def authenticate (newton : Bool) (call : PluginCall) : Py (Option AuthHandlerResponse) := do
  let userInfo ← ofExcept call.payload
  let res ← identityAuthenticate conf clock call.env userInfo.1 userInfo.2
  let userContext := userContextWith call.userContext userInfo.1 res
  return if newton then some ⟨true, userContext⟩ else none

end SPasswordPlugin

/-! ### What the plugin hands on -/

variable {env : AuthEnv} {password : String}

/-- `authenticate` raises no `AssertionError`, so nothing is caught. -/
theorem run_identityAuthenticate (hlimit : 0 ≤ conf.pwdMaxTries) (hreach : Reachable conf clock w) :
    (SPasswordPlugin.identityAuthenticate conf clock env u password).run w =
      (Identity.authenticate conf clock env u password).run w := by
  cases hrun : (Identity.authenticate conf clock env u password).run w with
  | ok res w' => exact run_tryCatch_of_ok hrun
  | error e w' =>
    have hrefusal : Identity.Refusal conf clock w env u password e :=
      Identity.raisesOnly_authenticate hlimit hreach e w' hrun
    rw [SPasswordPlugin.identityAuthenticate, run_tryCatch_of_error hrun]
    cases hrefusal with
    | mail userRecord address e hawaited haddress hmail =>
      obtain ⟨step, rfl⟩ := SendMail.delivery_error hmail
      rfl
    | _ => rfl

/-- What a login returns is what it has noted last. -/
theorem token_of_result (henabled : conf.enabled = true) {res : AuthResult}
    (h : (Identity.authenticate conf clock env u password).run w = .ok res w') :
    ∃ extras newer, res.extras = some extras ∧ w'.log = .token u extras :: newer ++ w.log := by
  rcases Identity.authenticate_cases henabled env w u password with
    ⟨e, w₁, herror, -⟩ | ⟨res, n, -, -, houtcome⟩
  · rw [herror] at h
    cases h
  · rw [h] at houtcome
    cases houtcome with
    | firstAccepted _ userRecord hrow huser => exact ⟨_, [_, _], rfl, rfl⟩
    | passed _ row created hrow hwants htime | signed _ row created hrow hwants _ _ htime =>
      exact ⟨_, [_], rfl, rfl⟩

/-- **The plugin hands on what the login did.** In a reachable state it raises what Keystone's
parser or the login raises, for a cause. If it returns, the login has just noted a token, the
response carries the extras of that token, and the user id is the one of the payload unless the
context came with one. -/
theorem plugin_faithful (henabled : conf.enabled = true) (hlimit : 0 ≤ conf.pwdMaxTries)
    (hreach : Reachable conf clock w) (newton : Bool) (call : PluginCall) :
    RaisesOnly (fun e => call.payload = .error e ∨ ∃ u password, call.payload = .ok (u, password) ∧
        Identity.Refusal conf clock w call.env u password e)
      (SPasswordPlugin.authenticate conf clock newton call) w ∧
    ∀ response w', (SPasswordPlugin.authenticate conf clock newton call).run w = .ok response w' →
      ∃ u password extras newer, call.payload = .ok (u, password) ∧
        w'.log = .token u extras :: newer ++ w.log ∧
        ∀ r, response = some r → r.status = true ∧ r.responseData.extras = some extras ∧
          r.responseData.userId = some ((call.userContext.bind UserContext.userId).getD u) := by
  obtain ⟨payload, userContext, env⟩ := call
  cases payload with
  | error e =>
    refine ⟨raisesOnly_bind_of_error rfl (.inl rfl), fun response w' hrun => ?_⟩
    cases hrun
  | ok userInfo =>
    obtain ⟨u, password⟩ := userInfo
    have hlogin : (SPasswordPlugin.identityAuthenticate conf clock env u password).run w = _ :=
      run_identityAuthenticate hlimit hreach
    refine ⟨raisesOnly_bind_of_ok rfl ?_, fun response w' hrun => ?_⟩
    · refine (raisesOnly_congr hlogin fun e w' hrun => .inr ⟨u, password, rfl, ?_⟩).bind
        fun res w₁ _ => raisesOnly_pure _
      exact Identity.raisesOnly_authenticate hlimit hreach e w' hrun
    · obtain ⟨_, w₀, hok, hrest⟩ := exists_of_bind_ok hrun
      cases hok
      obtain ⟨res, w₁, hres, hreturn⟩ := exists_of_bind_ok hrest
      rw [hlogin] at hres
      cases hreturn
      obtain ⟨extras, newer, hextras, hlog⟩ := token_of_result henabled hres
      refine ⟨u, password, extras, newer, rfl, hlog, fun r hr => ?_⟩
      cases newton with
      | false => cases hr
      | true =>
        cases hr
        refine ⟨rfl, by simp [SPasswordPlugin.userContextWith, hextras], ?_⟩
        cases userContext <;> rfl

/-- A first login of `alice`, with a context that names somebody else. -/
theorem plugin_faithful_renamed :
    let call : PluginCall :=
      ⟨.ok ("alice", "secret"), some { userId := some "bob" }, Sample.env Sample.code⟩
    ∀ response w', (SPasswordPlugin.authenticate Sample.conf Sample.ticking true call).run
        (.initial Sample.users) = .ok response w' →
      ∃ u password extras newer, call.payload = .ok (u, password) ∧
        w'.log = .token u extras :: newer ∧
        ∀ r, response = some r → r.status = true ∧ r.responseData.extras = some extras ∧
          r.responseData.userId = some "bob" := by
  intro call response w' hrun
  obtain ⟨u, password, extras, newer, hpayload, hlog, hresponse⟩ :=
    (plugin_faithful rfl (by decide) (reachable_initial Sample.users) true call).2 response w' hrun
  exact ⟨u, password, extras, _, hpayload, hlog, hresponse⟩

end KeystoneSpassword
