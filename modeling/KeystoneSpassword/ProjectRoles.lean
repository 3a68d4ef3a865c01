import KeystoneSpassword.Lib.Loops
import KeystoneSpassword.ResourceOutcomes

/-!
# The roles of a user in its projects

`SPasswordUserProjectRolesResource.get` of `spassword.py` answers with one flat list: an entry for
every role of the user in every project. It is filled by two nested loops, and each turn asks
Keystone again, so any of the lookups may raise.

The answer loses nothing. It comes only if every lookup has returned, and the entries that carry
the id of a project are the roles of the user in it, in Keystone's order.

## Main definitions

* `AssignmentApi` — what Keystone answers
* `SPasswordUserProjectRolesResource.get`

## Main results

* `project_roles_exact`
-/

namespace KeystoneSpassword

open StateProgram

variable {w w' : World} {u : String}

/-- A project of `list_projects_for_user`. -/
structure Project where
  id : String
  name : String
  deriving DecidableEq, Repr

/-- What Keystone's assignment and role APIs answer. `getRole` gives the name of the role. -/
structure AssignmentApi where
  listProjectsForUser : String → Except PyExc (List Project)
  getRolesForUserAndProject : String → String → Except PyExc (List String)
  getRole : String → Except PyExc String

/-- One entry of the answer. -/
structure ProjectRole where
  domain : String
  project : String
  projectName : String
  user : String
  userName : String
  role : String
  roleName : String
  deriving DecidableEq, Repr, Inhabited

/-- The answer of the handler. -/
structure ProjectRolesResponse where
  body : List ProjectRole
  status : ℕ
  contentType : Option String
  deriving DecidableEq, Repr

namespace SPasswordUserProjectRolesResource

/-- `get` -/
def get (api : AssignmentApi) (allowed : Bool) (userId : String) : Py ProjectRolesResponse := do
  SPasswordResource.enforceCall allowed
  let userInfo ← getUser userId
  let userProjects ← ofExcept (api.listProjectsForUser userId)
  let mut userProjectRoles : List ProjectRole := []
  for userProject in userProjects do
    let roles ← ofExcept (api.getRolesForUserAndProject userId userProject.id)
    for role in roles do
      let roleName ← ofExcept (api.getRole role)
      userProjectRoles := userProjectRoles ++ [⟨userInfo.domainId, userProject.id,
        userProject.name, userId, userInfo.name, role, roleName⟩]
  return ⟨userProjectRoles, 200, some "application/json"⟩

/-! ### The loops -/

variable {api : AssignmentApi}

/-- The entry of one role. -/
def entry (api : AssignmentApi) (userId : String) (userInfo : User) (userProject : Project)
    (role : String) : Except PyExc ProjectRole := do
  let roleName ← api.getRole role
  return ⟨userInfo.domainId, userProject.id, userProject.name, userId, userInfo.name, role,
    roleName⟩

/-- The entries of one project. -/
def entries (api : AssignmentApi) (userId : String) (userInfo : User) (userProject : Project) :
    Except PyExc (List ProjectRole) := do
  let roles ← api.getRolesForUserAndProject userId userProject.id
  roles.mapM (entry api userId userInfo userProject)

theorem run_ofExcept_eq_ok {α : Type} {x : Except PyExc α} {a : α} :
    (ofExcept x).run w = .ok a w' ↔ x = .ok a ∧ w = w' := by
  cases x with
  | ok b => simp
  | error e => simp

theorem ofExcept_bind {α β : Type} (x : Except PyExc α) (f : α → Except PyExc β) :
    (ofExcept (x >>= f) : Py β) = ofExcept x >>= fun a => ofExcept (f a) := by
  cases x <;> rfl

theorem ofExcept_mapM {α β : Type} (f : α → Except PyExc β) (xs : List α) :
    (ofExcept (xs.mapM f) : Py (List β)) = xs.mapM fun x => ofExcept (f x) := by
  induction xs with
  | nil => rfl
  | cons x xs ih =>
    rw [List.mapM_cons, List.mapM_cons, ofExcept_bind]
    refine congrArg (ofExcept (f x) >>= ·) (funext fun y => ?_)
    rw [ofExcept_bind, ih]
    rfl

section Loops

variable (api : AssignmentApi) (u : String) (userInfo : User)

/-- The inner loop. -/
theorem forIn_roles (p : Project) (roles : List String) (acc : List ProjectRole) :
    (forIn roles acc fun role acc => do
      let roleName ← ofExcept (api.getRole role)
      pure (.yield (acc ++ [⟨userInfo.domainId, p.id, p.name, u, userInfo.name, role,
        roleName⟩])) : Py (List ProjectRole)) =
      (fun found => acc ++ found) <$> ofExcept (roles.mapM (entry api u userInfo p)) := by
  have hbody (role : String) (acc : List ProjectRole) : (do
      let roleName ← ofExcept (api.getRole role)
      pure (.yield (acc ++ [⟨userInfo.domainId, p.id, p.name, u, userInfo.name, role,
        roleName⟩])) : Py (ForInStep (List ProjectRole))) =
      (fun found => .yield (acc ++ [found])) <$> ofExcept (entry api u userInfo p role) := by
    rw [entry, ofExcept_bind, map_bind]
    rfl
  rw [Loops.forIn_append hbody, ofExcept_mapM]
  simp

/-- The outer loop. -/
theorem forIn_projects (projects : List Project) :
    (forIn projects [] fun p acc => do
      let roles ← ofExcept (api.getRolesForUserAndProject u p.id)
      let acc ← forIn roles acc fun role acc => do
        let roleName ← ofExcept (api.getRole role)
        pure (.yield (acc ++ [⟨userInfo.domainId, p.id, p.name, u, userInfo.name, role,
          roleName⟩]))
      pure (.yield acc) : Py (List ProjectRole)) =
      List.flatten <$> ofExcept (projects.mapM (entries api u userInfo)) := by
  have hbody (p : Project) (acc : List ProjectRole) : (do
      let roles ← ofExcept (api.getRolesForUserAndProject u p.id)
      let acc ← forIn roles acc fun role acc => do
        let roleName ← ofExcept (api.getRole role)
        pure (.yield (acc ++ [⟨userInfo.domainId, p.id, p.name, u, userInfo.name, role,
          roleName⟩]))
      pure (.yield acc) : Py (ForInStep (List ProjectRole))) =
      (fun found => .yield (acc ++ id found)) <$> ofExcept (entries api u userInfo p) := by
    rw [entries, ofExcept_bind, map_bind]
    simp only [forIn_roles, map_eq_pure_bind, bind_assoc, pure_bind, id]
  rw [Loops.forIn_append hbody, ofExcept_mapM]
  simp

/-- **The two loops are two collections**, one in the other. -/
theorem get_eq (allowed : Bool) :
    get api allowed u = do
      SPasswordResource.enforceCall allowed
      let userInfo ← getUser u
      let userProjects ← ofExcept (api.listProjectsForUser u)
      let founds ← ofExcept (userProjects.mapM (entries api u userInfo))
      return ⟨founds.flatten, 200, some "application/json"⟩ := by
  rw [get]
  simp only [forIn_projects, bind_map_left]

end Loops

/-! ### The answer -/

/-- Every lookup of the loops returns. -/
def LookedUp (api : AssignmentApi) (u : String) (projects : List Project) : Prop :=
  ∀ p ∈ projects, ∃ roles, api.getRolesForUserAndProject u p.id = .ok roles ∧
    ∀ role ∈ roles, ∃ roleName, api.getRole role = .ok roleName

/-- An entry says of a project and a role what Keystone says. -/
structure Truthful (api : AssignmentApi) (p : Project) (e : ProjectRole) : Prop where
  project : e.project = p.id
  projectName : e.projectName = p.name
  roleName : api.getRole e.role = .ok e.roleName

variable {userInfo : User} {p : Project}

theorem entry_ok {role : String} {e : ProjectRole} (h : entry api u userInfo p role = .ok e) :
    e.role = role ∧ Truthful api p e := by
  cases hname : api.getRole role with
  | error err =>
    rw [entry, hname] at h
    cases h
  | ok roleName =>
    rw [entry, hname] at h
    obtain rfl := Except.ok.inj h
    exact ⟨rfl, rfl, rfl, hname⟩

/-- The entries of a project are its roles, each with its name. -/
theorem entries_ok {found : List ProjectRole} (h : entries api u userInfo p = .ok found) :
    api.getRolesForUserAndProject u p.id = .ok (found.map ProjectRole.role) ∧
      ∀ e ∈ found, Truthful api p e := by
  cases hroles : api.getRolesForUserAndProject u p.id with
  | error err =>
    rw [entries, hroles] at h
    cases h
  | ok roles =>
    have hfound : roles.mapM (entry api u userInfo p) = .ok found := by
      rw [entries, hroles] at h
      exact h
    obtain ⟨made, hmade, rfl⟩ := Loops.exists_of_mapM hfound
    refine ⟨?_, fun e he => ?_⟩
    · have hrole : roles.map (fun role => (made role).role) = roles :=
        (List.map_congr_left fun role hrole => (entry_ok (hmade role hrole)).1).trans
          (List.map_id roles)
      rw [List.map_map]
      exact congrArg Except.ok hrole.symm
    · obtain ⟨role, hrole, rfl⟩ := List.mem_map.mp he
      exact (entry_ok (hmade role hrole)).2

theorem entries_of_lookedUp {projects : List Project} (h : LookedUp api u projects)
    (hp : p ∈ projects) : ∃ found, entries api u userInfo p = .ok found := by
  obtain ⟨roles, hroles, hnames⟩ := h p hp
  have hmade : ∀ role ∈ roles, entry api u userInfo p role = .ok ⟨userInfo.domainId, p.id, p.name,
      u, userInfo.name, role, (api.getRole role).toOption.getD ""⟩ := by
    intro role hrole
    obtain ⟨roleName, hname⟩ := hnames role hrole
    rw [entry, hname]
    rfl
  exact ⟨_, by rw [entries, hroles]; exact Loops.mapM_of_ok hmade⟩

theorem lookedUp_of_entries {projects : List Project}
    (h : ∀ p ∈ projects, ∃ found, entries api u userInfo p = .ok found) :
    LookedUp api u projects := by
  intro p hp
  obtain ⟨found, hfound⟩ := h p hp
  obtain ⟨hroles, htruthful⟩ := entries_ok hfound
  refine ⟨_, hroles, fun role hrole => ?_⟩
  obtain ⟨e, he, rfl⟩ := List.mem_map.mp hrole
  exact ⟨_, (htruthful e he).roleName⟩

/-- What an answer has been made of. -/
theorem run_get_iff {allowed : Bool} {resp : ProjectRolesResponse} :
    (get api allowed u).run w = .ok resp w' ↔ allowed = true ∧ w' = w ∧
      ∃ userRecord projects founds, w.users u = some userRecord ∧
        api.listProjectsForUser u = .ok projects ∧
        projects.mapM (entries api u (userRecord.toUser u)) = .ok founds ∧
        resp = ⟨founds.flatten, 200, some "application/json"⟩ := by
  rw [get_eq]
  constructor
  · intro hrun
    obtain ⟨_, w₁, hallowed, hrun⟩ := exists_of_bind_ok hrun
    cases allowed with
    | false => cases hallowed
    | true =>
      cases hallowed
      obtain ⟨user, w₂, huser, hrun⟩ := exists_of_bind_ok hrun
      cases hrecord : w.users u with
      | none =>
        rw [run_getUser_none w hrecord] at huser
        cases huser
      | some userRecord =>
        rw [run_getUser_some w hrecord] at huser
        cases huser
        obtain ⟨projects, w₃, hlist, hrun⟩ := exists_of_bind_ok hrun
        obtain ⟨hprojects, rfl⟩ := run_ofExcept_eq_ok.mp hlist
        obtain ⟨founds, w₄, hloops, hrun⟩ := exists_of_bind_ok hrun
        obtain ⟨hfounds, rfl⟩ := run_ofExcept_eq_ok.mp hloops
        cases hrun
        exact ⟨rfl, rfl, userRecord, projects, founds, rfl, hprojects, hfounds, rfl⟩
  · rintro ⟨rfl, rfl, userRecord, projects, founds, huser, hprojects, hfounds, rfl⟩
    simp [SPasswordResource.enforceCall, run_getUser_some w' huser, hprojects, hfounds]

/-- **The answer loses nothing.** The handler answers if and only if the call is allowed, the user
exists and every lookup of the two loops returns. In an answer, the entries with the id of a project
are the user's roles in it, in Keystone's order, and every entry is true of a project of the user.
Nothing is written. -/
theorem project_roles_exact (hids : ∀ projects, api.listProjectsForUser u = .ok projects →
      (projects.map Project.id).Nodup) (allowed : Bool) (w : World) :
    ((∃ resp w', (get api allowed u).run w = .ok resp w') ↔ allowed = true ∧ w.users u ≠ none ∧
      ∃ projects, api.listProjectsForUser u = .ok projects ∧ LookedUp api u projects) ∧
    ∀ resp w', (get api allowed u).run w = .ok resp w' →
      w' = w ∧ ∃ projects, api.listProjectsForUser u = .ok projects ∧
        (∀ p ∈ projects, api.getRolesForUserAndProject u p.id =
          .ok ((resp.body.filter (·.project = p.id)).map ProjectRole.role)) ∧
        ∀ e ∈ resp.body, ∃ p ∈ projects, Truthful api p e := by
  refine ⟨⟨?_, ?_⟩, ?_⟩
  · rintro ⟨resp, w', hrun⟩
    obtain ⟨hallowed, -, userRecord, projects, founds, huser, hprojects, hfounds, -⟩ :=
      run_get_iff.mp hrun
    exact ⟨hallowed, by simp [huser], projects, hprojects,
      lookedUp_of_entries (Loops.ok_of_mapM hfounds)⟩
  · rintro ⟨hallowed, huser, projects, hprojects, hlooked⟩
    obtain ⟨userRecord, huser⟩ := Option.ne_none_iff_exists'.mp huser
    have hfound : ∀ p ∈ projects, entries api u (userRecord.toUser u) p =
        .ok ((entries api u (userRecord.toUser u) p).toOption.getD []) := by
      intro p hp
      obtain ⟨found, h⟩ : ∃ found, entries api u (userRecord.toUser u) p = .ok found :=
        entries_of_lookedUp hlooked hp
      rw [h]
      rfl
    exact ⟨_, w, run_get_iff.mpr ⟨hallowed, rfl, userRecord, projects, _, huser, hprojects,
      Loops.mapM_of_ok hfound, rfl⟩⟩
  · intro resp w' hrun
    obtain ⟨-, hw, userRecord, projects, founds, huser, hprojects, hfounds, rfl⟩ :=
      run_get_iff.mp hrun
    obtain ⟨find, hfind, rfl⟩ := Loops.exists_of_mapM hfounds
    refine ⟨hw, projects, hprojects, fun p hp => ?_, fun e he => ?_⟩
    · have hkey : ∀ p ∈ projects, ∀ e ∈ find p, e.project = p.id :=
        fun p hp e he => ((entries_ok (hfind p hp)).2 e he).project
      have hsplit := Loops.filter_flatMap (hids projects hprojects) hkey hp
      rw [← List.flatMap_def, hsplit]
      exact (entries_ok (hfind p hp)).1
    · obtain ⟨found, hfound, he⟩ := List.mem_flatten.mp he
      obtain ⟨p, hp, rfl⟩ := List.mem_map.mp hfound
      exact ⟨p, hp, (entries_ok (hfind p hp)).2 e he⟩

/-- `alice` has two roles in one project and one in another. -/
theorem project_roles_exact_two :
    let api : AssignmentApi :=
      { listProjectsForUser := fun _ => .ok [⟨"p1", "city"⟩, ⟨"p2", "park"⟩]
        getRolesForUserAndProject := fun _ p => .ok (if p = "p1" then ["r1", "r2"] else ["r1"])
        getRole := fun role => .ok (if role = "r1" then "admin" else "member") }
    ∀ resp w', (get api true "alice").run (.initial Sample.users) = .ok resp w' →
      w' = .initial Sample.users ∧ ∃ projects, api.listProjectsForUser "alice" = .ok projects ∧
        (∀ p ∈ projects, api.getRolesForUserAndProject "alice" p.id =
          .ok ((resp.body.filter (·.project = p.id)).map ProjectRole.role)) ∧
        ∀ e ∈ resp.body, ∃ p ∈ projects, Truthful api p e := by
  intro api
  have hids : ∀ projects, api.listProjectsForUser "alice" = .ok projects →
      (projects.map Project.id).Nodup := by
    intro projects h
    obtain rfl := Except.ok.inj h
    decide
  exact (project_roles_exact hids true (.initial Sample.users)).2

end SPasswordUserProjectRolesResource

end KeystoneSpassword
