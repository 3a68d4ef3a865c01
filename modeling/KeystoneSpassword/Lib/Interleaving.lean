import KeystoneSpassword.Lib.Programs
import KeystoneSpassword.Lib.Runs
import Mathlib.Data.List.Basic

/-!
# Processes that take turns

A process is a program cut into atomic steps. Each step reads the shared state and changes it, and
what is left to do depends on what it has read. Between two steps of one process any number of
steps of other processes may happen, so what a process has read may be out of date when it is
used.

## What a process knows

`Process.Sound I G V U Q p s` says what `p` does from a moment on at which the state is `s`. The
others keep the invariant `I` and move the state along `G`, and so does each step of `p`; when `p`
is over it has an answer in `Q`. It is a weakest precondition, and its rules are equations: what has
been read before a step is a hypothesis after it, as long as it is stable along `G`.

A relation `G` that says "the history only grows" makes every fact about the past stable, and then
a process may rely on anything it can trace back to an event.

What is said of the steps of `p` alone are `V` and `U`. They are taken in states of `V`. Nothing is
proved of `V` and nothing depends on it: an answer may say in which states the call has looked at
what it is about, and in a pool these are the states of its turns (`Pool.ActsIn`). And they move the
state along `U`, which need not be stable and may differ from call to call.

## Pools

A `Pool` is the shared state and the calls in progress. A turn starts a call or lets one take a
step, and nobody has to get another turn: a call that never moves again is one whose server has
crashed.

## Main definitions

* `Process`, with `Process.atomic` and `Process.exec`
* `Process.Sound` — the weakest precondition under interference
* `Pool`, `Pool.turn`, `Pool.ActsIn`, `Pool.Sound`

## Main results

* `Process.sound_bind`, `Process.sound_atomic` — the rules
* `Pool.Sound.run` — sound processes keep the invariant in any order of steps
* `Pool.run_alone` — a call that is not interrupted is a program
-/

namespace Interleaving

open StateProgram

/-- A program in atomic steps: it is over, or it has a step to take. -/
inductive Process (ε σ α : Type)
  | done (answer : Except ε α)
  | act (next : σ → σ) (rest : σ → Process ε σ α)

variable {ε σ α β ι : Type}

/-- What a program returns or raises. -/
def answer (m : EStateM ε σ α) (s : σ) : Except ε α :=
  match m.run s with
  | .ok a _ => .ok a
  | .error e _ => .error e

theorem answer_of_run_ok {m : EStateM ε σ α} {s s' : σ} {a : α} (h : m.run s = .ok a s') :
    answer m s = .ok a := by rw [answer, h]

theorem answer_of_run_error {m : EStateM ε σ α} {s s' : σ} {e : ε} (h : m.run s = .error e s') :
    answer m s = .error e := by rw [answer, h]

/-- Two programs with the same runs. -/
theorem ext_of_run {m n : EStateM ε σ α} (h : ∀ s, m.run s = n.run s) : m = n := funext h

namespace Process

/-- One process after another. -/
def bind : Process ε σ α → (α → Process ε σ β) → Process ε σ β
  | .done (.ok a), f => f a
  | .done (.error e), _ => .done (.error e)
  | .act next rest, f => .act next fun s => (rest s).bind f

instance : Monad (Process ε σ) where
  pure a := .done (.ok a)
  bind := bind

/-- The process ends with an exception. -/
def raise (e : ε) : Process ε σ α := .done (.error e)

/-- A whole program as one step. -/
def atomic (m : EStateM ε σ α) : Process ε σ α := .act (final m) fun s => .done (answer m s)

/-- The process when nobody else moves. -/
def exec : Process ε σ α → EStateM ε σ α
  | .done (.ok a) => pure a
  | .done (.error e) => throw e
  | .act next rest => do
    let s ← get
    set (next s)
    exec (rest s)

theorem pure_bind (a : α) (f : α → Process ε σ β) : (pure a >>= f) = f a := rfl

@[simp] theorem exec_pure (a : α) : exec (pure a : Process ε σ α) = pure a := rfl

@[simp] theorem exec_raise (e : ε) : exec (raise e : Process ε σ α) = throw e := rfl

/-- One process after another, without interruption, is one program after another. -/
@[simp] theorem exec_bind (p : Process ε σ α) (f : α → Process ε σ β) :
    exec (p >>= f) = exec p >>= fun a => exec (f a) := by
  induction p with
  | done answer => cases answer <;> rfl
  | act next rest ih =>
    funext s
    exact congrFun (ih s) (next s)

@[simp] theorem exec_atomic (m : EStateM ε σ α) : exec (atomic m) = m := by
  funext s
  show (exec (.done (answer m s))).run (final m s) = m.run s
  rw [answer, final]
  cases hm : m.run s <;> rfl

theorem exec_ite {c : Prop} [Decidable c] (p q : Process ε σ α) :
    exec (if c then p else q) = if c then exec p else exec q := by split <;> rfl

/-! ### Interference -/

section Sound

variable (I : σ → Prop) (G : σ → σ → Prop) (V : σ → Prop) (U : σ → σ → Prop)

/-- From a moment on at which the state is `s`, every step of the process keeps `I` and moves along
`G` and `U`, and its answer is in `Q`, provided that the others keep `I` and move along `G`, and
that its own steps are taken in states of `V`. -/
def Sound (Q : Except ε α → σ → Prop) : Process ε σ α → σ → Prop
  | .done answer, s => Q answer s
  | .act next rest, s =>
    ∀ s', G s s' → I s' → V s' →
      I (next s') ∧ G s' (next s') ∧ U s' (next s') ∧ (rest s').Sound Q (next s')

variable {I G V U} {Q R : Except ε α → σ → Prop} {s s' : σ}

@[simp] theorem sound_pure (a : α) : (pure a : Process ε σ α).Sound I G V U Q s ↔ Q (.ok a) s :=
  Iff.rfl

@[simp] theorem sound_raise (e : ε) :
    (raise e : Process ε σ α).Sound I G V U Q s ↔ Q (.error e) s := Iff.rfl

/-- The rule for a step. -/
theorem sound_atomic (m : EStateM ε σ α) : (atomic m).Sound I G V U Q s ↔
    ∀ s', G s s' → I s' → V s' →
      I (final m s') ∧ G s' (final m s') ∧ U s' (final m s') ∧ Q (answer m s') (final m s') :=
  Iff.rfl

/-- The rule for a sequence: the first process ends where the second one is sound. -/
theorem sound_bind {Q : Except ε β → σ → Prop} (p : Process ε σ α) (f : α → Process ε σ β) :
    (p >>= f).Sound I G V U Q s ↔
      p.Sound I G V U (fun
        | .ok a => (f a).Sound I G V U Q
        | .error e => Q (.error e)) s := by
  induction p generalizing s with
  | done answer => cases answer <;> exact Iff.rfl
  | act next rest ih =>
    exact forall_congr' fun s' => forall_congr' fun _ => forall_congr' fun _ =>
      forall_congr' fun _ => and_congr_right fun _ => and_congr_right fun _ =>
        and_congr_right fun _ => ih s'

theorem Sound.mono {p : Process ε σ α} (h : p.Sound I G V U Q s) (hQR : ∀ a s, Q a s → R a s) :
    p.Sound I G V U R s := by
  induction p generalizing s with
  | done answer => exact hQR answer s h
  | act next rest ih =>
    intro s' hG hI hV
    obtain ⟨hI', hG', hU, hrest⟩ := h s' hG hI hV
    exact ⟨hI', hG', hU, ih s' hrest⟩

/-- What holds of a process now holds of it later, if its postcondition is stable. -/
theorem Sound.later [IsPreorder σ G] {p : Process ε σ α} (h : p.Sound I G V U Q s)
    (hQ : ∀ a s s', G s s' → Q a s → Q a s') (hG : G s s') : p.Sound I G V U Q s' := by
  cases p with
  | done answer => exact hQ answer s s' hG h
  | act next rest => exact fun s'' hG' hI => h s'' (trans_of G hG hG') hI

/-- A process ends later than it has begun. -/
theorem Sound.since [IsPreorder σ G] {p : Process ε σ α} (h : p.Sound I G V U Q s) :
    p.Sound I G V U (fun a s' => G s s' ∧ Q a s') s := by
  induction p generalizing s with
  | done answer => exact ⟨refl_of G s, h⟩
  | act next rest ih =>
    intro s' hG hI hV
    obtain ⟨hI', hG', hU, hrest⟩ := h s' hG hI hV
    exact ⟨hI', hG', hU, (ih s' hrest).mono fun _ _ ha =>
      ⟨trans_of G hG (trans_of G hG' ha.1), ha.2⟩⟩

end Sound

end Process

/-! ### Pools -/

/-- A call in progress: what was called, the state it was called in, and what is left to do. -/
structure Entry (ι ε σ α : Type) where
  call : ι
  origin : σ
  process : Process ε σ α

/-- The shared state, and the calls in progress. -/
structure Pool (ι ε σ α : Type) where
  state : σ
  entries : List (Entry ι ε σ α)

/-- A call is made, or the `k`-th call takes a step. -/
inductive Turn (ι : Type)
  | start (call : ι)
  | act (k : ℕ)

namespace Pool

variable (program : ι → Process ε σ α)

/-- One turn. A call that is over has no step to take. -/
def turn (p : Pool ι ε σ α) : Turn ι → Pool ι ε σ α
  | .start call => { p with entries := p.entries ++ [⟨call, p.state, program call⟩] }
  | .act k =>
    match p.entries[k]? with
    | some ⟨call, origin, .act next rest⟩ =>
      ⟨next p.state, p.entries.set k ⟨call, origin, rest p.state⟩⟩
    | some ⟨_, _, .done _⟩ | none => p

/-- The call that a turn makes. -/
def calls : Turn ι → List ι
  | .start call => [call]
  | .act _ => []

/-- The `k`-th call is not over. -/
def Pending (p : Pool ι ε σ α) (k : ℕ) : Prop :=
  ∃ call origin next rest, p.entries[k]? = some ⟨call, origin, .act next rest⟩

/-- In the course of the turns, the `k`-th call takes one of its steps in the state `s`. -/
def ActsIn (p : Pool ι ε σ α) (turns : List (Turn ι)) (k : ℕ) (s : σ) : Prop :=
  ∃ before after, turns = before ++ .act k :: after ∧
    (Machine.run (turn program) p before).Pending k ∧
      (Machine.run (turn program) p before).state = s

variable {program}

theorem ActsIn.cons {p : Pool ι ε σ α} {t : Turn ι} {turns : List (Turn ι)} {k : ℕ} {s : σ}
    (h : ActsIn program (p.turn program t) turns k s) : ActsIn program p (t :: turns) k s := by
  obtain ⟨before, after, rfl, hpending, rfl⟩ := h
  exact ⟨t :: before, after, rfl, hpending, rfl⟩

theorem actsIn_head {p : Pool ι ε σ α} {k : ℕ} (h : p.Pending k) (turns : List (Turn ι)) :
    ActsIn program p (.act k :: turns) k p.state := ⟨[], turns, rfl, h, rfl⟩

/-- Every call in progress will keep the invariant and end in its postcondition, which may mention
the call and the state it was made in. The `k`-th one takes its steps in states of `V k`, and they
do what its call may do. -/
structure Sound (I : σ → Prop) (G : σ → σ → Prop) (V : ℕ → σ → Prop) (U : ι → σ → σ → Prop)
    (post : ℕ → ι → σ → Except ε α → σ → Prop) (p : Pool ι ε σ α) : Prop where
  state : I p.state
  entries : ∀ (k : ℕ) (e : Entry ι ε σ α), p.entries[k]? = some e →
    e.process.Sound I G (V k) (U e.call) (post k e.call e.origin) p.state

variable {I : σ → Prop} {G : σ → σ → Prop} {V : ℕ → σ → Prop} {U : ι → σ → σ → Prop}
  {post : ℕ → ι → σ → Except ε α → σ → Prop}

theorem Sound.of_mem {p : Pool ι ε σ α} (h : p.Sound I G V U post) {e : Entry ι ε σ α}
    (he : e ∈ p.entries) :
    ∃ k, e.process.Sound I G (V k) (U e.call) (post k e.call e.origin) p.state := by
  obtain ⟨k, hk⟩ := List.mem_iff_getElem?.mp he
  exact ⟨k, h.entries k e hk⟩

theorem Sound.turn [IsPreorder σ G] {p : Pool ι ε σ α} (h : p.Sound I G V U post)
    (hpost : ∀ k call origin a s s', G s s' → post k call origin a s → post k call origin a s')
    (hprogram : ∀ k call s, I s → (program call).Sound I G (V k) (U call) (post k call s) s)
    {t : Turn ι} (hV : ∀ k, t = .act k → p.Pending k → V k p.state) :
    (p.turn program t).Sound I G V U post := by
  cases t with
  | start call =>
    refine ⟨h.state, fun k e he => ?_⟩
    change (p.entries ++ [⟨call, p.state, program call⟩])[k]? = some e at he
    rcases Nat.lt_trichotomy k p.entries.length with hlt | rfl | hgt
    · rw [List.getElem?_append_left hlt] at he
      exact h.entries k e he
    · rw [List.getElem?_concat_length] at he
      rw [← Option.some.inj he]
      exact hprogram _ call p.state h.state
    · rw [List.getElem?_eq_none (by simpa using Nat.succ_le_of_lt hgt)] at he
      cases he
  | act k =>
    rw [Pool.turn]
    split
    · rename_i call origin next rest hk
      obtain ⟨hI, hG, -, hrest⟩ := h.entries k _ hk p.state (refl_of G _) h.state
        (hV k rfl ⟨call, origin, next, rest, hk⟩)
      refine ⟨hI, fun j e he => ?_⟩
      change (p.entries.set k ⟨call, origin, rest p.state⟩)[j]? = some e at he
      by_cases hj : k = j
      · subst hj
        rw [List.getElem?_set_self (List.getElem?_eq_some_iff.mp hk).1] at he
        rw [← Option.some.inj he]
        exact hrest
      · rw [List.getElem?_set_ne hj] at he
        exact (h.entries j e he).later (hpost j e.call e.origin) hG
    all_goals exact h

/-- The turn of a call does what the call may do. -/
theorem Sound.act [IsPreorder σ G] {p : Pool ι ε σ α} (h : p.Sound I G V U post) {k : ℕ}
    {call : ι} {origin : σ} {next : σ → σ} {rest : σ → Process ε σ α}
    (hk : p.entries[k]? = some ⟨call, origin, .act next rest⟩) (hV : V k p.state) :
    U call p.state (next p.state) :=
  (h.entries k _ hk p.state (refl_of G _) h.state hV).2.2.1

/-- **Sound processes keep the invariant, whoever takes the turns.** -/
theorem Sound.run [IsPreorder σ G] {p : Pool ι ε σ α} (h : p.Sound I G V U post)
    (hpost : ∀ k call origin a s s', G s s' → post k call origin a s → post k call origin a s')
    (hprogram : ∀ k call s, I s → (program call).Sound I G (V k) (U call) (post k call s) s)
    {turns : List (Turn ι)} (hV : ∀ k s, ActsIn program p turns k s → V k s) :
    (Machine.run (Pool.turn program) p turns).Sound I G V U post := by
  induction turns generalizing p with
  | nil => exact h
  | cons t turns ih =>
    refine ih (h.turn hpost hprogram ?_) fun k s hacts => hV k s hacts.cons
    rintro k rfl hpending
    exact hV k p.state (actsIn_head hpending turns)

/-! ### A call that is not interrupted -/

/-- The turns of a call that nobody interrupts end where its program ends. -/
theorem run_alone (program : ι → Process ε σ α) (call : ι) (origin : σ)
    (entries : List (Entry ι ε σ α)) (process : Process ε σ α) (s : σ) :
    ∃ n, Machine.run (Pool.turn program) ⟨s, entries ++ [⟨call, origin, process⟩]⟩
        (List.replicate n (.act entries.length)) =
      ⟨final process.exec s, entries ++ [⟨call, origin, .done (answer process.exec s)⟩]⟩ := by
  induction process generalizing s with
  | done a => exact ⟨0, by cases a <;> rfl⟩
  | act next rest ih =>
    obtain ⟨n, hn⟩ := ih s (next s)
    refine ⟨n + 1, ?_⟩
    have hturn : Pool.turn program ⟨s, entries ++ [⟨call, origin, .act next rest⟩]⟩
        (.act entries.length) = ⟨next s, entries ++ [⟨call, origin, rest s⟩]⟩ := by
      simp [Pool.turn]
    rw [List.replicate_succ, Machine.run_cons, hturn, hn]
    rfl

end Pool

end Interleaving
