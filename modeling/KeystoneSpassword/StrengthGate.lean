import KeystoneSpassword.System

/-!
# The strength gate

The six routes of `spassword.py` that let a caller set a password, and `checker.py`. Each handler
looks for a password in the body, has `strong_check_password` look at it, and hands the request to
the method of the parent class.

The parent classes are Keystone's and keystone_scim's, and `cracklib` is a library. What they do is
an argument, `Surroundings`: the outcome of `VeryFascistCheck` on any value, the conversion of a
SCIM body to a Keystone user, the answers of the parents, and whether the SCIM parent has a method
`patch_`. A handler is a program over the list of calls it has made on its parent.

## Two slips

`SPasswordUserResource.patch` calls `_` when the check raises, and no import of the module binds
that name. `SPasswordScimUserResource.put` calls `self.patch_`, a name the class does not define:
it reaches the parent at best, and never the `patch` of the class, which has the gate.

## Main definitions

* `CheckPassword.strongCheckPassword`
* `PasswordRoute.handler` — the six handlers
* `MeetsGate`, `OpensGate` — the property, and the requests that have it

## Main results

* `strength_gate_iff`
-/

namespace KeystoneSpassword

open StateProgram

/-! ### Python on a JSON value -/

namespace Json

/-- `key in value`: a key of a dict, an element of a list, or a part of a string. -/
def contains (key : String) : Json → Except PyExc Bool
  | .object fields => .ok (fields.lookup key).isSome
  | .array elements => .ok (elements.any fun
    | .string s => s == key
    | _ => false)
  | .string s => .ok (decide (key.toList <:+: s.toList))
  | .null | .bool _ | .number _ => .error (.other "TypeError")

/-- `value[key]` -/
def getItem (key : String) : Json → Except PyExc Json
  | .object fields =>
    match fields.lookup key with
    | some value => .ok value
    | none => .error (.keyError key)
  | _ => .error (.other "TypeError")

/-- `value.get(key, {})` -/
def get (key : String) : Json → Except PyExc Json
  | .object fields => .ok ((fields.lookup key).getD (.object []))
  | _ => .error (.attributeError "get")

/-- The member of an object. -/
def member (key : String) : Json → Option Json
  | .object fields => fields.lookup key
  | _ => none

end Json

/-- `'%s' % e` -/
def PyExc.text : PyExc → String
  | .spasswordUnauthorized message | .unauthorized message | .validationError message => message
  | .userNotFound userId => userId
  | .keyError key => "'" ++ key ++ "'"
  | .attributeError what | .smtp what | .other what => what
  | .notConfigured | .forbidden | .assertionError | .integrityError => ""

/-! ### The checker -/

/-- How `cracklib.VeryFascistCheck` ends. -/
inductive CrackResult
  | returned
  /-- it raises `ValueError`: the password is too weak -/
  | valueError (message : String)
  /-- it raises anything else, on a value that is not a string for instance -/
  | raised (what : String)
  deriving DecidableEq, Repr

/-- `strong_check_password` -/
def CheckPassword.strongCheckPassword (conf : Conf) (veryFascistCheck : Json → CrackResult)
    (newPassword : Json) : Except PyExc Unit :=
  if conf.enabled then
    match veryFascistCheck newPassword with
    | .returned => .ok ()
    | .valueError message => .error (.validationError ("SPASSWORD: " ++ message))
    | .raised what => .error (.other what)
  else .ok ()

/-! ### The handlers -/

/-- The routes that let a caller set a password. -/
inductive PasswordRoute
  /-- `POST /users` -/
  | userPost
  /-- `PATCH /users/{id}` -/
  | userPatch
  /-- `POST /users/{id}/password` -/
  | userPasswordPost
  /-- the SCIM `POST` of a user -/
  | scimPost
  /-- the SCIM `PATCH` of a user -/
  | scimPatch
  /-- the SCIM `PUT` of a user -/
  | scimPut
  deriving DecidableEq, Repr

/-- A call of a method of the parent class. It reads the body of the request by itself. -/
structure ParentCall where
  route : PasswordRoute
  userId : Option String
  body : Json

/-- What the handlers find outside the repository. -/
structure Surroundings where
  veryFascistCheck : Json → CrackResult
  /-- `_normalize_dict`, `_denormalize` and `user_scim2key`, one after the other -/
  userScim2Key : Json → Except PyExc Json
  /-- the class of the SCIM parent has a method `patch_` -/
  patch_ : Bool
  parent : ParentCall → Except PyExc HttpResponse

/-- A handler, over the calls made on the parent so far. -/
abbrev Handler := EStateM PyExc (List ParentCall)

/-- A computation that makes no call. -/
def liftExcept {α : Type} : Except PyExc α → Handler α
  | .ok a => pure a
  | .error e => throw e

section Handlers

variable (conf : Conf) (outside : Surroundings)

/-- `super().method(…)` -/
def callParent (call : ParentCall) : Handler HttpResponse := do
  modify fun calls => calls ++ [call]
  liftExcept (outside.parent call)

/-- `make_response(msg, BAD_REQUEST)` with its header -/
def badRequest (e : PyExc) : Handler HttpResponse :=
  return ⟨.text e.text, 400, some "application/json"⟩

/-- The body that five of the handlers share, from `user_data` on. `except Exception as e` is
`rejected e`, and the subscript is inside the `try`. -/
def gated (userData : Json) (rejected : PyExc → Handler HttpResponse)
    (parent : Handler HttpResponse) : Handler HttpResponse := do
  let carries ← if conf.enabled then liftExcept (userData.contains "password") else pure false
  if carries then
    match userData.getItem "password" >>=
      CheckPassword.strongCheckPassword conf outside.veryFascistCheck with
    | .ok _ => parent
    | .error e => rejected e
  else parent

/-- `SPasswordUserResource.post` -/
def SPasswordUserResource.post (body : Json) : Handler HttpResponse := do
  let userData ← liftExcept (body.get "user")
  gated conf outside userData badRequest (callParent outside ⟨.userPost, none, body⟩)

/-- `SPasswordUserResource.patch`. The name `_` is not bound: evaluating the message raises. -/
def SPasswordUserResource.patch (userId : String) (body : Json) : Handler HttpResponse := do
  let userData ← liftExcept (body.get "user")
  gated conf outside userData (fun _ => throw (.other "NameError"))
    (callParent outside ⟨.userPatch, some userId, body⟩)

/-- `SPasswordUserPasswordResource.post` -/
def SPasswordUserPasswordResource.post (userId : String) (body : Json) :
    Handler HttpResponse := do
  let userData ← liftExcept (body.get "user")
  gated conf outside userData badRequest (callParent outside ⟨.userPasswordPost, some userId, body⟩)

/-- `SPasswordScimUserResource.post` -/
def SPasswordScimUserResource.post (body : Json) : Handler HttpResponse :=
  gated conf outside body badRequest (callParent outside ⟨.scimPost, none, body⟩)

/-- `SPasswordScimUserResource.patch` -/
def SPasswordScimUserResource.patch (userId : String) (body : Json) : Handler HttpResponse := do
  let user ← liftExcept (outside.userScim2Key body)
  gated conf outside user badRequest (callParent outside ⟨.scimPatch, some userId, body⟩)

/-- `SPasswordScimUserResource.put` -/
def SPasswordScimUserResource.put (userId : String) (body : Json) : Handler HttpResponse :=
  if outside.patch_ then callParent outside ⟨.scimPut, some userId, body⟩
  else throw (.attributeError "patch_")

/-- The handler of a route. The routes that create a user have no id. -/
def PasswordRoute.handler (userId : String) (body : Json) :
    PasswordRoute → Handler HttpResponse
  | .userPost => SPasswordUserResource.post conf outside body
  | .userPatch => SPasswordUserResource.patch conf outside userId body
  | .userPasswordPost => SPasswordUserPasswordResource.post conf outside userId body
  | .scimPost => SPasswordScimUserResource.post conf outside body
  | .scimPatch => SPasswordScimUserResource.patch conf outside userId body
  | .scimPut => SPasswordScimUserResource.put outside userId body

end Handlers

/-! ### The gate -/

/-- The call that hands a request on as it is. -/
def PasswordRoute.call (userId : String) (body : Json) : PasswordRoute → ParentCall
  | .userPost => ⟨.userPost, none, body⟩
  | .scimPost => ⟨.scimPost, none, body⟩
  | route => ⟨route, some userId, body⟩

/-- The calls a handler makes. -/
def Handler.calls (handler : Handler HttpResponse) : List ParentCall := final handler []

/-- How a handler ends. -/
def Handler.answer (handler : Handler HttpResponse) : Except PyExc HttpResponse :=
  match handler.run [] with
  | .ok response _ => .ok response
  | .error e _ => .error e

/-- The client sees a 4xx. -/
def ClientError : Except PyExc HttpResponse → Prop
  | .ok response => 400 ≤ response.status ∧ response.status < 500
  | .error e => 400 ≤ e.status ∧ e.status < 500

section Gate

variable (conf : Conf) (outside : Surroundings)

/-- `user_data` carries a password, and the check raises `e` on it. -/
def Weak (userData : Json) (e : PyExc) : Prop :=
  ∃ password, userData.member "password" = some password ∧
    CheckPassword.strongCheckPassword conf outside.veryFascistCheck password = .error e

/-- A handler is a gate for `user_data` before `call`: a password the check raises on is refused
and goes no further, and everything else is handed on as it is, once. -/
def Gates (userData : Json) (call : ParentCall) (handler : Handler HttpResponse) : Prop :=
  ((∃ e, Weak conf outside userData e) → ClientError handler.answer ∧ handler.calls = []) ∧
    ((¬ ∃ e, Weak conf outside userData e) →
      handler.calls = [call] ∧ handler.answer = outside.parent call)

/-- The part of a body that is Keystone's user: the member `user`, or the whole of a SCIM body,
which two of the routes convert first. A body without it carries nothing. -/
def PasswordRoute.userData (body : Json) : PasswordRoute → Json
  | .userPost | .userPatch | .userPasswordPost => (body.member "user").getD (.object [])
  | .scimPost => body
  | .scimPatch | .scimPut => (outside.userScim2Key body).toOption.getD (.object [])

/-- The strength gate, for one request. -/
def MeetsGate (route : PasswordRoute) (userId : String) (body : Json) : Prop :=
  Gates conf outside (route.userData outside body) (route.call userId body)
    (route.handler conf outside userId body)

/-- `user_data` is an object, or something else in which Python finds no `password`. -/
def Legible (userData : Json) : Prop :=
  (∃ fields, userData = .object fields) ∨ userData.contains "password" = .ok false

/-- The requests for which the handler of the route is the gate. -/
def OpensGate (body : Json) : PasswordRoute → Prop
  | .userPost | .userPasswordPost => ∃ userData, body.get "user" = .ok userData ∧ Legible userData
  | .userPatch => ∃ userData, body.get "user" = .ok userData ∧ Legible userData ∧
    ∀ e, ¬ Weak conf outside userData e
  | .scimPost => Legible body
  | .scimPatch => ∃ user, outside.userScim2Key body = .ok user ∧ Legible user
  | .scimPut => outside.patch_ = true ∧ ∀ e, ¬ Weak conf outside
    ((outside.userScim2Key body).toOption.getD (.object [])) e

end Gate

/-! ### The shared body -/

section Proofs

variable {conf : Conf} {outside : Surroundings} {userData : Json} {call : ParentCall}

@[simp] theorem run_liftExcept_ok {α : Type} (a : α) (calls : List ParentCall) :
    (liftExcept (.ok a)).run calls = .ok a calls := rfl

@[simp] theorem run_liftExcept_error {α : Type} (e : PyExc) (calls : List ParentCall) :
    (liftExcept (.error e) : Handler α).run calls = .error e calls := rfl

theorem calls_congr {handler handler' : Handler HttpResponse}
    (h : handler.run [] = handler'.run []) :
    handler.calls = handler'.calls ∧ handler.answer = handler'.answer := by
  rw [Handler.calls, Handler.calls, Handler.answer, Handler.answer, final, final, h]
  exact ⟨rfl, rfl⟩

/-- Two handlers that do the same are gates for the same. -/
theorem gates_congr {handler handler' : Handler HttpResponse}
    (h : handler.run [] = handler'.run []) :
    Gates conf outside userData call handler ↔ Gates conf outside userData call handler' := by
  obtain ⟨hcalls, hanswer⟩ := calls_congr h
  rw [Gates, Gates, hcalls, hanswer]

/-- The parent's method is called once, and its answer is the answer. -/
theorem callParent_spec (outside : Surroundings) (call : ParentCall) :
    (callParent outside call).calls = [call] ∧
      (callParent outside call).answer = outside.parent call := by
  cases hparent : outside.parent call <;>
    simp [Handler.calls, Handler.answer, final, callParent, hparent]

/-- What is not an object carries nothing. -/
theorem not_weak_of_not_object (h : ¬ ∃ fields, userData = .object fields) :
    ¬ ∃ e, Weak conf outside userData e := by
  rintro ⟨e, password, hmember, -⟩
  cases userData with
  | object fields => exact h ⟨fields, rfl⟩
  | _ => cases hmember

variable {rejected : PyExc → Handler HttpResponse} {parent : Handler HttpResponse}
  (henabled : conf.enabled = true)
include henabled

theorem run_gated_of_weak {e : PyExc} (h : Weak conf outside userData e) (calls : List ParentCall) :
    (gated conf outside userData rejected parent).run calls = (rejected e).run calls := by
  obtain ⟨password, hmember, hcheck⟩ := h
  cases userData with
  | object fields =>
    have hlookup : fields.lookup "password" = some password := hmember
    have htry : (Json.object fields).getItem "password" >>=
        CheckPassword.strongCheckPassword conf outside.veryFascistCheck = .error e := by
      rw [Json.getItem, hlookup]
      exact hcheck
    simp [gated, henabled, Json.contains, hlookup, htry]
  | _ => cases hmember

theorem run_gated_of_strong (hlegible : Legible userData) (h : ¬ ∃ e, Weak conf outside userData e)
    (calls : List ParentCall) :
    (gated conf outside userData rejected parent).run calls = parent.run calls := by
  by_cases hcontains : userData.contains "password" = .ok false
  · simp [gated, henabled, hcontains]
  · obtain ⟨fields, rfl⟩ := hlegible.resolve_right hcontains
    cases hlookup : fields.lookup "password" with
    | none => simp [Json.contains, hlookup] at hcontains
    | some password =>
      have htry : (Json.object fields).getItem "password" >>=
          CheckPassword.strongCheckPassword conf outside.veryFascistCheck = .ok () := by
        rw [Json.getItem, hlookup]
        cases hcheck : CheckPassword.strongCheckPassword conf outside.veryFascistCheck password with
        | ok _ => exact hcheck
        | error e => exact absurd ⟨e, password, hlookup, hcheck⟩ h
      simp [gated, henabled, Json.contains, hlookup, htry]

/-- Neither an object nor free of the word: the membership test raises, or the subscript does. -/
theorem run_gated_of_illegible (h : ¬ Legible userData) (rejected : PyExc → Handler HttpResponse)
    (parent : Handler HttpResponse) (calls : List ParentCall) :
    (∃ e, (gated conf outside userData rejected parent).run calls = .error e calls) ∨
      ∃ e, (gated conf outside userData rejected parent).run calls = (rejected e).run calls := by
  have hnot : ∀ fields, userData ≠ .object fields :=
    fun fields hobject => h (.inl ⟨fields, hobject⟩)
  cases hcontains : userData.contains "password" with
  | error e => exact .inl ⟨e, by simp [gated, henabled, hcontains]⟩
  | ok found =>
    cases found with
    | false => exact absurd (.inr hcontains) h
    | true =>
      have htry : userData.getItem "password" >>=
          CheckPassword.strongCheckPassword conf outside.veryFascistCheck =
            .error (.other "TypeError") := by
        cases userData with
        | object fields => exact absurd rfl (hnot fields)
        | _ => rfl
      exact .inr ⟨.other "TypeError", by simp [gated, henabled, hcontains, htry]⟩

/-- **The shared body is a gate** for what it can read, as long as what it does with a rejected
password is a refusal. -/
theorem gates_gated_iff (hquiet : ∀ e, (rejected e).calls = []) :
    Gates conf outside userData call
        (gated conf outside userData rejected (callParent outside call)) ↔
      Legible userData ∧ ∀ e, Weak conf outside userData e → ClientError (rejected e).answer := by
  by_cases hlegible : Legible userData
  · by_cases hweak : ∃ e, Weak conf outside userData e
    · obtain ⟨e, he⟩ := hweak
      have hunique : ∀ e', Weak conf outside userData e' → e' = e := by
        rintro e' ⟨password', hmember', hcheck'⟩
        obtain ⟨password, hmember, hcheck⟩ := he
        cases hmember.symm.trans hmember'
        cases hcheck.symm.trans hcheck'
        rfl
      rw [gates_congr (run_gated_of_weak henabled he []), Gates]
      constructor
      · intro hgates
        refine ⟨hlegible, fun e' he' => ?_⟩
        rw [hunique e' he']
        exact (hgates.1 ⟨e, he⟩).1
      · exact fun h => ⟨fun _ => ⟨h.2 e he, hquiet e⟩, fun hnone => absurd ⟨e, he⟩ hnone⟩
    · rw [gates_congr (run_gated_of_strong henabled hlegible hweak []), Gates]
      refine ⟨fun _ => ⟨hlegible, fun e he => absurd ⟨e, he⟩ hweak⟩, fun _ => ?_⟩
      exact ⟨fun h => absurd h hweak, fun _ => callParent_spec outside call⟩
  · refine iff_of_false ?_ fun h => hlegible h.1
    have hweak : ¬ ∃ e, Weak conf outside userData e :=
      not_weak_of_not_object fun hobject => hlegible (.inl hobject)
    rintro ⟨-, hpasses⟩
    have hcalls := (hpasses hweak).1
    rcases run_gated_of_illegible henabled hlegible rejected (callParent outside call) [] with
      ⟨e, hrun⟩ | ⟨e, hrun⟩
    · rw [Handler.calls, final_of_run_error hrun] at hcalls
      cases hcalls
    · rw [(calls_congr hrun).1, hquiet e] at hcalls
      cases hcalls

/-- The shared body after a lookup or a conversion that may raise. -/
theorem gates_lifted_iff (hquiet : ∀ e, (rejected e).calls = []) (found : Except PyExc Json) :
    Gates conf outside (found.toOption.getD (.object [])) call (do
        let userData ← liftExcept found
        gated conf outside userData rejected (callParent outside call)) ↔
      ∃ userData, found = .ok userData ∧ Legible userData ∧
        ∀ e, Weak conf outside userData e → ClientError (rejected e).answer := by
  cases found with
  | ok userData =>
    have hrun : (liftExcept (.ok userData) >>= fun userData =>
        gated conf outside userData rejected (callParent outside call)).run [] =
          (gated conf outside userData rejected (callParent outside call)).run [] := rfl
    rw [gates_congr hrun]
    refine (gates_gated_iff henabled hquiet).trans ⟨fun h => ⟨userData, rfl, h⟩, ?_⟩
    rintro ⟨userData', hfound, h⟩
    cases hfound
    exact h
  | error e =>
    refine iff_of_false ?_ fun ⟨userData, hfound, _⟩ => by cases hfound
    rintro ⟨-, hpasses⟩
    have hweak : ¬ ∃ e', Weak conf outside (.object []) e' := fun ⟨_, _, hmember, _⟩ => by
      cases hmember
    have hcalls := (hpasses hweak).1
    cases hcalls

end Proofs

/-! ### The six handlers -/

variable {conf : Conf}

/-- `.get('user', {})` finds the member, if there is an object to look in. -/
theorem toOption_get (body : Json) :
    (body.get "user").toOption.getD (.object []) = (body.member "user").getD (.object []) := by
  cases body <;> rfl

theorem calls_badRequest (e : PyExc) : (badRequest e).calls = [] := rfl

theorem clientError_badRequest (e : PyExc) : ClientError (badRequest e).answer :=
  ⟨le_refl 400, (by decide : 400 < 500)⟩

/-- **Strength gate.** With the extension on, a route is a gate for a request if and only if its
handler can read the body, and, on the two routes whose refusal is missing, there is nothing to
refuse: `PATCH /users/{id}` answers 500 to a password that is too weak, and the SCIM `PUT` does not
look at it. -/
theorem strength_gate_iff (henabled : conf.enabled = true) (outside : Surroundings)
    (route : PasswordRoute) (userId : String) (body : Json) :
    MeetsGate conf outside route userId body ↔ OpensGate conf outside body route := by
  have hbad : ∀ userData : Json, ∀ e, Weak conf outside userData e →
      ClientError (badRequest e).answer := fun _ e _ => clientError_badRequest e
  cases route with
  | userPost | userPasswordPost =>
    rw [MeetsGate, PasswordRoute.userData, ← toOption_get]
    refine (gates_lifted_iff henabled calls_badRequest _).trans (exists_congr fun userData => ?_)
    exact and_congr_right fun _ => and_iff_left (hbad userData)
  | userPatch =>
    rw [MeetsGate, PasswordRoute.userData, ← toOption_get]
    refine (gates_lifted_iff henabled (fun _ => rfl) _).trans (exists_congr fun userData => ?_)
    have hunbound : ¬ ClientError (throw (.other "NameError") : Handler HttpResponse).answer :=
      fun h => absurd h.2 (by decide)
    refine and_congr_right fun _ => and_congr_right fun _ => forall_congr' fun e => ?_
    exact ⟨fun h hweak => hunbound (h hweak), fun h hweak => absurd hweak h⟩
  | scimPost =>
    exact (gates_gated_iff henabled calls_badRequest).trans (and_iff_left (hbad body))
  | scimPatch =>
    refine (gates_lifted_iff henabled calls_badRequest _).trans (exists_congr fun user => ?_)
    exact and_congr_right fun _ => and_iff_left (hbad user)
  | scimPut =>
    cases hpatch : outside.patch_ with
    | false =>
      refine iff_of_false ?_ fun h => by rw [OpensGate, hpatch] at h; cases h.1
      have hrun : (SPasswordScimUserResource.put outside userId body).run [] =
          .error (.attributeError "patch_") [] := by
        simp [SPasswordScimUserResource.put, hpatch]
      rintro ⟨hrefuses, hpasses⟩
      by_cases hweak : ∃ e, Weak conf outside (PasswordRoute.scimPut.userData outside body) e
      · have hclient := (hrefuses hweak).1
        rw [PasswordRoute.handler, Handler.answer, hrun] at hclient
        exact absurd hclient.2 (by decide)
      · have hcalls := (hpasses hweak).1
        rw [PasswordRoute.handler, Handler.calls, final_of_run_error hrun] at hcalls
        cases hcalls
    | true =>
      have hrun : (SPasswordScimUserResource.put outside userId body).run [] =
          (callParent outside ⟨.scimPut, some userId, body⟩).run [] := by
        simp [SPasswordScimUserResource.put, hpatch]
      obtain ⟨hcalls, hanswer⟩ := callParent_spec outside ⟨.scimPut, some userId, body⟩
      rw [MeetsGate, PasswordRoute.handler, gates_congr hrun, OpensGate, hpatch]
      constructor
      · rintro ⟨hrefuses, -⟩
        refine ⟨rfl, fun e he => ?_⟩
        have hnone := (hrefuses ⟨e, he⟩).2
        rw [hcalls] at hnone
        cases hnone
      · exact fun h => ⟨fun ⟨e, he⟩ => absurd he (h.2 e), fun _ => ⟨hcalls, hanswer⟩⟩

/-- A dictionary of one word, a SCIM body in Keystone's own words, and parents that create what
they are asked for. -/
def Sample.outside : Surroundings where
  veryFascistCheck
    | .string "weak" => .valueError "it is too short"
    | .string _ => .returned
    | _ => .raised "TypeError"
  userScim2Key := .ok
  patch_ := false
  parent _ := .ok ⟨.text "", 201, none⟩

/-- The body of a user with this password. -/
def Sample.body (password : String) : Json :=
  .object [("user", .object [("name", .string "alice"), ("password", .string password)])]

/-- A weak password on the route that creates a user, and on the one that changes a password. -/
theorem strength_gate_iff_post :
    MeetsGate Sample.conf Sample.outside .userPost "alice" (Sample.body "weak") ∧
      MeetsGate Sample.conf Sample.outside .userPasswordPost "alice" (Sample.body "weak") := by
  have hlegible : ∃ userData, (Sample.body "weak").get "user" = .ok userData ∧ Legible userData :=
    ⟨_, rfl, .inl ⟨_, rfl⟩⟩
  exact ⟨(strength_gate_iff rfl Sample.outside .userPost "alice" _).mpr hlegible,
    (strength_gate_iff rfl Sample.outside .userPasswordPost "alice" _).mpr hlegible⟩

/-- The same password on the route that updates a user: the check raises, and the client sees a
500. -/
theorem weak_password_crashes_patch :
    let handler := PasswordRoute.userPatch.handler Sample.conf Sample.outside "alice"
      (Sample.body "weak")
    ¬ MeetsGate Sample.conf Sample.outside .userPatch "alice" (Sample.body "weak") ∧
      handler.answer = .error (.other "NameError") ∧ (PyExc.other "NameError").status = 500 := by
  refine ⟨fun h => ?_, rfl, rfl⟩
  have hweak : Weak Sample.conf Sample.outside (PasswordRoute.userPatch.userData Sample.outside
      (Sample.body "weak")) (.validationError "SPASSWORD: it is too short") :=
    ⟨.string "weak", rfl, rfl⟩
  exact absurd (h.1 ⟨_, hweak⟩).1.2 (by decide)

end KeystoneSpassword
