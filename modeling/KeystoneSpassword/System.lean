import KeystoneSpassword.Lib.Runs
import KeystoneSpassword.Identity
import KeystoneSpassword.Resources
import Mathlib.Data.Int.ConditionallyCompleteOrder
import Mathlib.Tactic.Linarith

/-!
# The system

What can be asked of a Keystone with the extension, one call at a time, and the states that a
sequence of calls reaches.

## Operations

`Op` lists the calls: the changes of Keystone's users with the notifications they deliver,
`authenticate`, the calls of the manager, and the requests. Each carries what it finds outside
the extension, so a run is a list of operations and nothing else is left open: the base driver's
answers, the mail server, the generated codes and the enforcer's decisions are all arguments.
Only the clock is shared by a run.

A call that raises is a step like any other. It leaves the state it had reached.

## Main definitions

* `Request`, `Op`, and `Op.program`, the program of the source that answers it
* `step`, `Reachable`
-/

namespace KeystoneSpassword

open StateProgram

/-- A request to one of the routes. -/
inductive Request
  | recoverPassword (userId : String) (uuid : ShortCode) (server : SmtpServer)
  | resetPassword (userId code : String) (newPassword : NewPassword) (fault : Option PyExc)
      (server : SmtpServer)
  | modifySndfa (userId : String) (enable : Option Json) (allowed : Bool)
  | getSndfa (userId : String) (allowed : Bool)
  | checkSndfaCode (userId code : String)
  | askForCheckEmailCode (userId : String) (uuid : ShortCode) (server : SmtpServer)
      (allowed : Bool)
  | checkEmailCode (userId code : String)
  | modifyBlack (userId : String) (enable : Option Json) (allowed : Bool)
  | getBlack (userId : String) (allowed : Bool)

/-- A call. -/
inductive Op
  /-- Keystone creates a user, and delivers the created event -/
  | createUser (userId : String) (userRecord : UserRecord)
  /-- Keystone merges a record into a user's, and delivers the updated event -/
  | updateUser (userId : String) (userRecord : UserRecord)
  /-- Keystone deletes a user, and delivers the deleted event -/
  | deleteUser (userId : String)
  | authenticate (userId password : String) (env : AuthEnv)
  | userModifySndfa (userId : String) (enable : Bool)
  | userGetSndfa (userId : String)
  | userAskCheckEmailCode (userId : String) (uuid : ShortCode)
  | userCheckEmailCode (userId code : String)
  | alreadyUserCheckEmail (userId : String)
  | userCheckSndfaCode (userId code : String)
  | userModifyBlack (userId : String) (enable : Bool)
  | userGetBlack (userId : String)
  | userGetPwdExpiration (userId : String)
  | request (r : Request)

section Calls

variable (conf : Conf) (clock : ℕ → Time)

/-- The handler of a request. -/
def Request.program : Request → Py HttpResponse
  | .recoverPassword u uuid server => SPasswordResource.recoverPassword conf uuid server u
  | .resetPassword u c newPassword fault server =>
    SPasswordResource.resetPassword conf clock newPassword fault server u c
  | .modifySndfa u enable allowed => SPasswordResource.modifySndfa conf allowed enable u
  | .getSndfa u allowed => SPasswordResource.getSndfa allowed u
  | .checkSndfaCode u c => SPasswordResource.checkSndfaCode conf clock u c
  | .askForCheckEmailCode u uuid server allowed =>
    SPasswordResource.askForCheckEmailCode conf allowed uuid server u
  | .checkEmailCode u c => SPasswordResource.checkEmailCode u c
  | .modifyBlack u enable allowed => SPasswordResource.modifyBlack conf allowed enable u
  | .getBlack u allowed => SPasswordResource.getBlack conf allowed u

/-- The program of a call, without its result. -/
def Op.program : Op → Py Unit
  | .createUser u userRecord => IdentityApi.createUser conf clock u userRecord
  | .updateUser u userRecord =>
    IdentityApi.updateUser conf clock u fun old => old.merge userRecord
  | .deleteUser u => IdentityApi.deleteUser conf u
  | .authenticate u password env => do let _ ← Identity.authenticate conf clock env u password
  | .userModifySndfa u enable => do let _ ← SPasswordManager.userModifySndfa u enable
  | .userGetSndfa u => do let _ ← SPasswordManager.userGetSndfa u
  | .userAskCheckEmailCode u uuid => do
    let _ ← SPasswordManager.userAskCheckEmailCode .manager u uuid
  | .userCheckEmailCode u c => do let _ ← SPasswordManager.userCheckEmailCode u c
  | .alreadyUserCheckEmail u => do let _ ← SPasswordManager.alreadyUserCheckEmail u
  | .userCheckSndfaCode u c => do let _ ← SPasswordManager.userCheckSndfaCode clock u c
  | .userModifyBlack u enable => do let _ ← SPasswordManager.userModifyBlack u enable
  | .userGetBlack u => do let _ ← SPasswordManager.userGetBlack u
  | .userGetPwdExpiration u => do let _ ← SPasswordManager.userGetPwdExpiration conf u
  | .request r => do let _ ← r.program conf clock

/-- The state after a call, whether it returned or raised. -/
def step (w : World) (op : Op) : World := final (op.program conf clock) w

/-- A login, as a call of the system. -/
theorem step_authenticate (w : World) (u password : String) (env : AuthEnv) :
    step conf clock w (.authenticate u password env) =
      final (Identity.authenticate conf clock env u password) w :=
  final_bind_reads (fun _ _ => rfl) w

/-- A request, as a call of the system. -/
theorem step_request (w : World) (r : Request) :
    step conf clock w (.request r) = final (r.program conf clock) w :=
  final_bind_reads (fun _ _ => rfl) w

/-- The state after a sequence of calls. -/
def run (w : World) (ops : List Op) : World := Machine.run (step conf clock) w ops

/-- The states a sequence of calls reaches from users the extension has never seen. -/
def Reachable (w : World) : Prop := ∃ users ops, w = run conf clock (.initial users) ops

variable {conf clock}

theorem reachable_initial (users : String → Option UserRecord) :
    Reachable conf clock (.initial users) := ⟨users, [], rfl⟩

theorem Reachable.run {w : World} (h : Reachable conf clock w) (ops : List Op) :
    Reachable conf clock (run conf clock w ops) := by
  obtain ⟨users, ops₀, rfl⟩ := h
  exact ⟨users, ops₀ ++ ops, (Machine.run_append _ _ _ _).symm⟩

theorem Reachable.step {w : World} (h : Reachable conf clock w) (op : Op) :
    Reachable conf clock (step conf clock w op) := h.run [op]

/-- What holds initially and is kept by every call holds in every reachable state. -/
theorem Reachable.induction {I : World → Prop} (hinit : ∀ users, I (.initial users))
    (hstep : ∀ w op, I w → I (KeystoneSpassword.step conf clock w op)) {w : World}
    (h : Reachable conf clock w) : I w := by
  obtain ⟨users, ops, rfl⟩ := h
  exact Machine.run_invariant (P := fun _ _ => True) (fun s op _ => hstep s op)
    (Machine.along_of_forall (fun _ _ => trivial) _ ops) (hinit users)

end Calls

/-! ### A small deployment

One user with an address, and a base driver that knows the user's password. Concrete runs of the
system are runs of this deployment. -/

namespace Sample

/-- Both halves of the extension on, one hour of second-factor window. -/
def conf : Conf := { Conf.default with enabled := true, sndfa := true, sndfaTimeWindow := 1 }

/-- The record of the user `alice`. -/
def alice : UserRecord := ⟨"Alice", "default", some (.text "alice@a.example"), "secret"⟩

def users : String → Option UserRecord := fun u => if u = "alice" then some alice else none

/-- The base driver lets `"secret"` through, and `uuid4` gives `code`. -/
def env (code : ShortCode) : AuthEnv where
  base u password :=
    .check (if password = "secret" then .user (alice.toUser u) else .assertionError)
  uuid := code
  server := .up

/-- Each reading of the clock is one microsecond later. -/
def ticking (n : ℕ) : Time := n

theorem monotone_ticking : Monotone ticking := fun _ _ h => Int.ofNat_le.mpr h

/-- Each reading of the clock is one hour later, a whole window. -/
def hourly (n : ℕ) : Time := hours n

/-- A code for the mails of this deployment. -/
def code : ShortCode := ⟨"a1b2c3", rfl⟩

/-- The code that verifies the address. -/
def emailCode : ShortCode := ⟨"d4e5f6", rfl⟩

/-- The password that a reset draws. -/
def newPassword : NewPassword := ⟨"0123abcd4567", rfl⟩

/-- A login with the correct password. -/
def login : Op := .authenticate "alice" "secret" (env code)

/-- A login with a wrong password. -/
def guess : Op := .authenticate "alice" "guess" (env code)

/-- A login, the address verified, and the second factor switched on. -/
def setUp : List Op :=
  [login, .userAskCheckEmailCode "alice" emailCode, .userCheckEmailCode "alice" emailCode.code,
    .userModifySndfa "alice" true]

end Sample

end KeystoneSpassword
