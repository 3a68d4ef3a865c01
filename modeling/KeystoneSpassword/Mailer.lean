import KeystoneSpassword.Model
import Mathlib.Tactic.SplitIfs

/-!
# The mailer

`class SendMail` of `mailer.py`. The SMTP server and Python's `email` package are outside the
extension, so what they do in one call is a parameter, `SmtpServer`, and `send_email` is modelled
on top of it with every `try` it has: a `gaierror` at the connection, an authentication error at
the login and any exception of `sendmail` make it return `False`, and everything else goes through
to the caller, `quit` in the `finally` clause included.

The message is made before the first `try`. The address goes into its header as it is stored, so
`as_string` raises when the address is neither a text nor `None`, and may raise for a text, one
with a line break for instance. An address that is `None` makes a message, and then `sendmail`
raises.

## Main definitions

* `SmtpServer` — what one call meets outside the extension
* `SendMail.delivery` — whether the message was handed over, and how `send_email` ends
* `SendMail.sendEmail`
-/

namespace KeystoneSpassword

/-- How the connection attempt ends. -/
inductive SmtpConnect
  | ok
  /-- the host name does not resolve -/
  | gaierror
  /-- any other exception, a refused or timed-out connection for instance -/
  | raised
  deriving DecidableEq, Repr

/-- How the login ends. -/
inductive SmtpLogin
  | ok
  | authenticationError
  | raised
  deriving DecidableEq, Repr

/-- What one call of `send_email` meets outside the extension: each step succeeds or raises. The
first one is no step of the server, `as_string` on the message, for an address it can write at
all. -/
structure SmtpServer where
  asString : Bool
  connect : SmtpConnect
  ehlo : Bool
  starttls : Bool
  login : SmtpLogin
  sendmail : Bool
  quit : Bool
  deriving DecidableEq, Repr

/-- A server on which every step succeeds. -/
def SmtpServer.up : SmtpServer := ⟨true, .ok, true, true, .ok, true, true⟩

/-- The header of a message can hold the address. -/
def Address.writable : Address → Bool
  | .text _ | .null => true
  | .other _ => false

/-- `smtplib` can send to the address. -/
def Address.isText : Address → Bool
  | .text _ => true
  | .null | .other _ => false

theorem Address.writable_of_isText {dest : Address} (h : dest.isText = true) :
    dest.writable = true := by
  cases dest <;> first | rfl | cases h

/-- The record has an address that a message can be made for. -/
def UserRecord.Addressable (userRecord : UserRecord) : Prop :=
  ∃ address, userRecord.email = some address ∧ address.writable = true

/-- An update without the key `email` keeps the address, and any other brings its own. -/
theorem UserRecord.Addressable.merge {old new : UserRecord} (h : old.Addressable)
    (hnew : ∀ address, new.email = some address → address.writable = true) :
    (old.merge new).Addressable := by
  obtain ⟨address, haddress, hwritable⟩ := h
  cases hemail : new.email with
  | none => exact ⟨address, by simp [UserRecord.merge, hemail, haddress], hwritable⟩
  | some address' =>
    exact ⟨address', by simp [UserRecord.merge, hemail], hnew address' hemail⟩

namespace SendMail

/-- The test for a login: both the user and the password are configured. -/
def wantsLogin (conf : Conf) : Bool := conf.smtpUser != "" && conf.smtpPassword != ""

/-- Whether the server took the message, and how `send_email` ends. -/
def delivery (conf : Conf) (server : SmtpServer) (dest : Address) : Bool × Except PyExc Bool :=
  if !(server.asString && dest.writable) then (false, .error (.smtp "as_string"))
  else match server.connect with
  | .gaierror => (false, .ok false)
  | .raised => (false, .error (.smtp "connect"))
  | .ok =>
    if conf.smtpTls && !server.ehlo then (false, .error (.smtp "ehlo"))
    else if conf.smtpTls && !server.starttls then (false, .error (.smtp "starttls"))
    else if wantsLogin conf && server.login == .authenticationError then (false, .ok false)
    else if wantsLogin conf && server.login == .raised then (false, .error (.smtp "login"))
    -- `quit` runs in the `finally` clause: its exception replaces the value being returned
    else if !server.quit then (server.sendmail && dest.isText, .error (.smtp "quit"))
    else (server.sendmail && dest.isText, .ok (server.sendmail && dest.isText))

/-- `send_email`. The user the mail is about is noted in the history only. -/
def sendEmail (conf : Conf) (server : SmtpServer) (userId : String) (mail : Mail) : Py Bool := do
  record (.mailed userId mail (delivery conf server mail.dest).1)
  ofExcept (delivery conf server mail.dest).2

/-- `send_email` returns, with `True` or `False`. -/
def Returns (conf : Conf) (server : SmtpServer) (dest : Address) : Prop :=
  ∃ sent, (delivery conf server dest).2 = .ok sent

instance (conf : Conf) (server : SmtpServer) (dest : Address) :
    Decidable (Returns conf server dest) :=
  match h : (delivery conf server dest).2 with
  | .ok sent => .isTrue ⟨sent, h⟩
  | .error _ => .isFalse fun ⟨_, h'⟩ => by rw [h] at h'; cases h'

/-- What `send_email` lets through is the exception of one of its steps. -/
theorem delivery_error {conf : Conf} {server : SmtpServer} {dest : Address} {e : PyExc}
    (h : (delivery conf server dest).2 = .error e) : ∃ what, e = .smtp what := by
  rw [delivery] at h
  split at h
  · cases h
    exact ⟨_, rfl⟩
  split at h
  · cases h
  · cases h
    exact ⟨_, rfl⟩
  · split_ifs at h <;> cases h <;> exact ⟨_, rfl⟩

/-- When `send_email` returns: there is a message, and either the host name does not resolve, or
every step up to the login succeeds and neither the login nor `quit` raises what is not caught. -/
theorem returns_iff (conf : Conf) (server : SmtpServer) (dest : Address) :
    Returns conf server dest ↔ (server.asString = true ∧ dest.writable = true) ∧
      (server.connect = .gaierror ∨
        server.connect = .ok ∧
          (conf.smtpTls = true → server.ehlo = true ∧ server.starttls = true) ∧
          (wantsLogin conf = true ∧ server.login = .authenticationError ∨
            (wantsLogin conf = true → server.login ≠ .raised) ∧ server.quit = true)) := by
  rcases server with ⟨asString, connect, ehlo, starttls, login, sendmail, quit⟩
  cases hwritten : asString && dest.writable with
  | false =>
    have hnot : ¬ (asString = true ∧ dest.writable = true) := by
      rw [← Bool.and_eq_true, hwritten]
      simp
    simp [Returns, delivery, hwritten, hnot]
  | true =>
    rw [Bool.and_eq_true] at hwritten
    cases connect with
    | gaierror => simp [Returns, delivery, hwritten]
    | raised => simp [Returns, delivery, hwritten]
    | ok =>
      cases htls : conf.smtpTls <;> cases ehlo <;> cases starttls <;>
        cases hlogin : wantsLogin conf <;> cases login <;> cases quit <;>
        simp [Returns, delivery, htls, hlogin, hwritten]

/-- Which address it is makes no difference to whether `send_email` returns, as long as there is a
message. -/
theorem returns_iff_of_writable {conf : Conf} {server : SmtpServer} {dest dest' : Address}
    (h : dest.writable = true) (h' : dest'.writable = true) :
    Returns conf server dest ↔ Returns conf server dest' := by
  rw [returns_iff, returns_iff, h, h']

@[simp] theorem run_sendEmail (conf : Conf) (server : SmtpServer) (u : String) (mail : Mail)
    (w : World) :
    (sendEmail conf server u mail).run w =
      (ofExcept (delivery conf server mail.dest).2).run
        (w.note (.mailed u mail (delivery conf server mail.dest).1)) := rfl

end SendMail

end KeystoneSpassword
