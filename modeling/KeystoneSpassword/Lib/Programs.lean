import Mathlib.Order.Defs.Unbundled
import Mathlib.Logic.Relation

/-!
# Programs over a state with exceptions

A program is an `EStateM ε σ α`: it returns a value or raises, and in both cases it leaves a
state behind. A raised exception does *not* roll the state back, which is what makes this the
right monad for code that commits to a database and raises afterwards.

## Where a program can go

`Within R m` says that every execution of `m` moves along `R`, whether it returns or raises. A
frame condition, an invariant and a step relation are all instances:

* frame: `R s s'` is `view s' = view s`
* invariant: `R s s'` is `I s → I s'`, packaged as `Preserves`
* simulation: `R` is the reflexive transitive closure of an abstract step relation

In each case `R` is a preorder, and for a preorder `Within` is closed under `pure`, `throw`
and `bind`. So a program is treated by treating the primitives it is built from.

## What a program returns and raises

`Ensures I Q E m` adds the values and the exceptions: from a state in `I`, `m` ends in one, with a
value in `Q` or an exception in `E`. A later part of a program may use what an earlier part has
returned, which `Within` cannot say. `RaisesOnly E m s` is about one state: from `s` the program
raises nothing outside `E`, and `Ends Q E m s` adds what it returns, and where.

## Two states

`Respects R m` says that from two related states `m` returns the same value or raises the same
exception, in related states. With `R` the equality of everything but a part of the state, it says
that `m` does not read that part. `Relates V R m n` is the same for two programs whose values are
related by `V`.

## Main definitions

* `StateProgram.final` — the state a program leaves, on either exit
* `StateProgram.Within`, `StateProgram.Preserves`, `StateProgram.Reads`
* `StateProgram.Ensures` — an invariant, with what is returned and what may be raised
* `StateProgram.RaisesOnly`, `StateProgram.Ends` — what one state may lead to
* `StateProgram.Respects`, `StateProgram.Relates` — programs from two related states

## Main results

* `StateProgram.Within.bind`, `Within.ite` — the structural rules
* `StateProgram.Reads.bind_cases` — a program that reads, before another
* `StateProgram.keeps_of_steps` — what the abstract steps keep, a run of them keeps
-/

namespace StateProgram

variable {ε σ α β : Type}

/-- `EStateM.run_throw` at every type of result. -/
@[simp] theorem run_throw (e : ε) (s : σ) : (throw e : EStateM ε σ α).run s = .error e s := rfl

/-- A pure function after a program. -/
@[simp] theorem run_map (f : α → β) (m : EStateM ε σ α) (s : σ) :
    (f <$> m).run s =
      match m.run s with
      | .ok a s' => .ok (f a) s'
      | .error e s' => .error e s' := by
  rw [map_eq_pure_bind, EStateM.run_bind]
  rfl

/-- The state a program leaves behind, whether it returned or raised. -/
def final (m : EStateM ε σ α) (s : σ) : σ :=
  match m.run s with
  | .ok _ s' => s'
  | .error _ s' => s'

theorem final_of_run_ok {m : EStateM ε σ α} {s s' : σ} {a : α} (h : m.run s = .ok a s') :
    final m s = s' := by rw [final, h]

theorem final_of_run_error {m : EStateM ε σ α} {s s' : σ} {e : ε} (h : m.run s = .error e s') :
    final m s = s' := by rw [final, h]

theorem final_congr {m : EStateM ε σ α} {n : EStateM ε σ α} {s t : σ} (h : m.run s = n.run t) :
    final m s = final n t := by rw [final, final, h]

@[simp] theorem final_pure (a : α) (s : σ) : final (pure a : EStateM ε σ α) s = s := rfl

@[simp] theorem final_throw (e : ε) (s : σ) : final (throw e : EStateM ε σ α) s = s := rfl

/-- Sequencing, on the states: the second program runs only if the first one returned. -/
theorem final_bind (m : EStateM ε σ α) (f : α → EStateM ε σ β) (s : σ) :
    final (m >>= f) s =
      match m.run s with
      | .ok a s' => final (f a) s'
      | .error _ s' => s' := by
  rw [final, EStateM.run_bind]
  cases m.run s <;> rfl

/-- A sequence that returns has run both programs to their ends. -/
theorem exists_of_bind_ok {m : EStateM ε σ α} {f : α → EStateM ε σ β} {s s' : σ} {b : β}
    (h : (m >>= f).run s = .ok b s') :
    ∃ a s₁, m.run s = .ok a s₁ ∧ (f a).run s₁ = .ok b s' := by
  rw [EStateM.run_bind] at h
  cases hm : m.run s with
  | ok a s₁ =>
    rw [hm] at h
    exact ⟨a, s₁, rfl, h⟩
  | error e s₁ =>
    rw [hm] at h
    cases h

/-- A handler has no say in a program that returns. -/
theorem run_tryCatch_of_ok {m : EStateM ε σ α} {handle : ε → EStateM ε σ α} {s s' : σ} {a : α}
    (h : m.run s = .ok a s') : (tryCatch m handle).run s = .ok a s' := by
  show EStateM.tryCatch m handle s = _
  delta EStateM.tryCatch
  dsimp only
  rw [show m s = .ok a s' from h]

/-- A handler starts where the program has raised: nothing is rolled back. -/
theorem run_tryCatch_of_error {m : EStateM ε σ α} {handle : ε → EStateM ε σ α} {s s' : σ} {e : ε}
    (h : m.run s = .error e s') : (tryCatch m handle).run s = (handle e).run s' := by
  show EStateM.tryCatch m handle s = _
  delta EStateM.tryCatch
  dsimp only
  rw [show m s = .error e s' from h]
  rfl

/-- Every execution of `m` moves along `R`. -/
def Within (R : σ → σ → Prop) (m : EStateM ε σ α) : Prop := ∀ s, R s (final m s)

/-- `m` keeps the invariant `I`, also when it raises. -/
def Preserves (I : σ → Prop) (m : EStateM ε σ α) : Prop := Within (fun s s' => I s → I s') m

section Structural

variable {R : σ → σ → Prop} [IsPreorder σ R]

theorem within_pure (a : α) : Within R (pure a : EStateM ε σ α) := fun s => refl_of R s

theorem within_throw (e : ε) : Within R (throw e : EStateM ε σ α) := fun s => refl_of R s

theorem Within.bind {m : EStateM ε σ α} {f : α → EStateM ε σ β} (hm : Within R m)
    (hf : ∀ a, Within R (f a)) : Within R (m >>= f) := by
  intro s
  have h := hm s
  rw [final_bind]
  cases hrun : m.run s with
  | ok a s' =>
    rw [final_of_run_ok hrun] at h
    exact trans_of R h (hf a s')
  | error e s' =>
    rw [final_of_run_error hrun] at h
    exact h

end Structural

/-- Both branches move along `R`; each may use what the test said. -/
theorem Within.ite {R : σ → σ → Prop} {c : Prop} [Decidable c] {m n : EStateM ε σ α}
    (hm : c → Within R m) (hn : ¬ c → Within R n) : Within R (if c then m else n) := by
  by_cases h : c
  · rw [if_pos h]; exact hm h
  · rw [if_neg h]; exact hn h

/-- `m` leaves every state as it found it. -/
def Reads (m : EStateM ε σ α) : Prop := ∀ s, final m s = s

theorem Reads.within {R : σ → σ → Prop} [IsPreorder σ R] {m : EStateM ε σ α} (h : Reads m) :
    Within R m := by
  intro s
  rw [h s]
  exact refl_of R s

/-- A program that reads is over, or the rest runs in the same state. -/
theorem Reads.bind_cases {m : EStateM ε σ α} (h : Reads m) (f : α → EStateM ε σ β) (s : σ) :
    (∃ e, m.run s = .error e s ∧ (m >>= f).run s = .error e s) ∨
      ∃ a, m.run s = .ok a s ∧ (m >>= f).run s = (f a).run s := by
  have hs := h s
  rw [EStateM.run_bind]
  cases hrun : m.run s with
  | ok a s' =>
    rw [final_of_run_ok hrun] at hs
    subst hs
    exact .inr ⟨a, rfl, rfl⟩
  | error e s' =>
    rw [final_of_run_error hrun] at hs
    subst hs
    exact .inl ⟨e, rfl, rfl⟩

/-- How a sequence ends that begins with a program that reads. -/
theorem Reads.bind_run {Q : EStateM.Result ε σ β → Prop} {m : EStateM ε σ α} (h : Reads m)
    {f : α → EStateM ε σ β} {s : σ} (herror : ∀ e, Q (.error e s)) (hf : ∀ a, Q ((f a).run s)) :
    Q ((m >>= f).run s) := by
  rcases h.bind_cases f s with ⟨e, -, hrun⟩ | ⟨a, -, hrun⟩
  · rw [hrun]
    exact herror e
  · rw [hrun]
    exact hf a

theorem Reads.bind {m : EStateM ε σ α} {f : α → EStateM ε σ β} (hm : Reads m)
    (hf : ∀ a, Reads (f a)) : Reads (m >>= f) := by
  intro s
  rcases hm.bind_cases f s with ⟨e, -, h⟩ | ⟨a, -, h⟩
  · exact final_of_run_error h
  · rw [final_congr h]
    exact hf a s

/-- What only reads at the end does not change the state that is left. -/
theorem final_bind_reads {m : EStateM ε σ α} {f : α → EStateM ε σ β} (hf : ∀ a, Reads (f a))
    (s : σ) : final (m >>= f) s = final m s := by
  rw [final_bind, final]
  cases m.run s with
  | ok a s' => exact hf a s'
  | error e s' => rfl

theorem reads_pure (a : α) : Reads (pure a : EStateM ε σ α) := fun _ => rfl

/-! ### Values and exceptions -/

/-- From a state in `I`, `m` ends in one, with a value in `Q` or an exception in `E`. -/
def Ensures (I : σ → Prop) (Q : α → Prop) (E : ε → Prop) (m : EStateM ε σ α) : Prop :=
  ∀ s, I s → match m.run s with
    | .ok a s' => I s' ∧ Q a
    | .error e s' => I s' ∧ E e

section Ensures

variable {I : σ → Prop} {Q : α → Prop} {E : ε → Prop} {m : EStateM ε σ α}

theorem ensures_pure {a : α} (ha : Q a) : Ensures I Q E (pure a) := fun _ hs => ⟨hs, ha⟩

theorem ensures_throw {e : ε} (he : E e) : Ensures I Q E (throw e) := fun _ hs => ⟨hs, he⟩

theorem Ensures.bind {f : α → EStateM ε σ β} {R : β → Prop} (hm : Ensures I Q E m)
    (hf : ∀ a, Q a → Ensures I R E (f a)) : Ensures I R E (m >>= f) := by
  intro s hs
  have h := hm s hs
  rw [EStateM.run_bind]
  cases hrun : m.run s with
  | ok a s' =>
    rw [hrun] at h
    exact hf a h.2 s' h.1
  | error e s' =>
    rw [hrun] at h
    exact h

/-- Both branches may use what the test said. -/
theorem Ensures.ite {c : Prop} [Decidable c] {n : EStateM ε σ α} (hm : c → Ensures I Q E m)
    (hn : ¬ c → Ensures I Q E n) : Ensures I Q E (if c then m else n) := by
  by_cases h : c
  · rw [if_pos h]; exact hm h
  · rw [if_neg h]; exact hn h

/-- What never raises raises nothing but what is admitted. -/
theorem Ensures.of_never (h : Ensures I Q (fun _ => False) m) : Ensures I Q E m := by
  intro s hs
  have hs' := h s hs
  cases hrun : m.run s with
  | ok a s' =>
    rw [hrun] at hs'
    exact hs'
  | error e s' =>
    rw [hrun] at hs'
    exact hs'.2.elim

theorem Ensures.preserves (h : Ensures I Q E m) : Preserves I m := by
  intro s hs
  have hs' := h s hs
  rw [final]
  cases hrun : m.run s <;> rw [hrun] at hs' <;> exact hs'.1

/-- What is raised is one of the exceptions. -/
theorem Ensures.raises (h : Ensures I Q E m) {s s' : σ} {e : ε} (hs : I s)
    (hrun : m.run s = .error e s') : E e := by
  have hs' := h s hs
  rw [hrun] at hs'
  exact hs'.2

end Ensures

/-- From `s` the program raises nothing outside `E`. -/
def RaisesOnly (E : ε → Prop) (m : EStateM ε σ α) (s : σ) : Prop :=
  ∀ e s', m.run s = .error e s' → E e

section RaisesOnly

variable {E : ε → Prop} {m : EStateM ε σ α} {s : σ}

theorem raisesOnly_of_ok {a : α} {s' : σ} (h : m.run s = .ok a s') : RaisesOnly E m s := by
  intro e s'' hrun
  rw [h] at hrun
  cases hrun

theorem raisesOnly_of_error {e : ε} {s' : σ} (h : m.run s = .error e s') (he : E e) :
    RaisesOnly E m s := by
  intro e' s'' hrun
  rw [h] at hrun
  cases hrun
  exact he

theorem raisesOnly_pure (a : α) : RaisesOnly E (pure a : EStateM ε σ α) s := raisesOnly_of_ok rfl

theorem raisesOnly_throw {e : ε} (he : E e) : RaisesOnly E (throw e : EStateM ε σ α) s :=
  raisesOnly_of_error rfl he

theorem raisesOnly_congr {t : σ} {n : EStateM ε σ α} (h : m.run s = n.run t)
    (hn : RaisesOnly E n t) : RaisesOnly E m s := by
  intro e s' hrun
  exact hn e s' (h ▸ hrun)

/-- The second program starts where the first one has returned. -/
theorem RaisesOnly.bind {f : α → EStateM ε σ β} (hm : RaisesOnly E m s)
    (hf : ∀ a s', m.run s = .ok a s' → RaisesOnly E (f a) s') : RaisesOnly E (m >>= f) s := by
  intro e s' hrun
  rw [EStateM.run_bind] at hrun
  cases hm' : m.run s with
  | ok a s₁ =>
    rw [hm'] at hrun
    exact hf a s₁ hm' e s' hrun
  | error e₁ s₁ =>
    rw [hm'] at hrun
    cases hrun
    exact hm e s' hm'

theorem raisesOnly_bind_of_ok {f : α → EStateM ε σ β} {a : α} {s' : σ} (h : m.run s = .ok a s')
    (hf : RaisesOnly E (f a) s') : RaisesOnly E (m >>= f) s := by
  refine (raisesOnly_of_ok h).bind fun a' s'' hrun => ?_
  rw [h] at hrun
  cases hrun
  exact hf

theorem raisesOnly_bind_of_error {f : α → EStateM ε σ β} {e : ε} {s' : σ}
    (h : m.run s = .error e s') (he : E e) : RaisesOnly E (m >>= f) s := by
  refine (raisesOnly_of_error h he).bind fun a s'' hrun => ?_
  rw [h] at hrun
  cases hrun

theorem RaisesOnly.ite {c : Prop} [Decidable c] {n : EStateM ε σ α}
    (hm : c → RaisesOnly E m s) (hn : ¬ c → RaisesOnly E n s) :
    RaisesOnly E (if c then m else n) s := by
  by_cases h : c
  · rw [if_pos h]; exact hm h
  · rw [if_neg h]; exact hn h

end RaisesOnly

/-- From `s` the program raises nothing outside `E`, and what it returns, in the state it returns
it in, is in `Q`. -/
def Ends (Q : α → σ → Prop) (E : ε → Prop) (m : EStateM ε σ α) (s : σ) : Prop :=
  RaisesOnly E m s ∧ ∀ a s', m.run s = .ok a s' → Q a s'

section Ends

variable {Q : α → σ → Prop} {E : ε → Prop} {m : EStateM ε σ α} {s : σ}

theorem ends_of_ok {a : α} {s' : σ} (h : m.run s = .ok a s') (ha : Q a s') : Ends Q E m s := by
  refine ⟨raisesOnly_of_ok h, fun a' s'' hrun => ?_⟩
  rw [h] at hrun
  cases hrun
  exact ha

theorem ends_of_error {e : ε} {s' : σ} (h : m.run s = .error e s') (he : E e) : Ends Q E m s := by
  refine ⟨raisesOnly_of_error h he, fun a s'' hrun => ?_⟩
  rw [h] at hrun
  cases hrun

theorem ends_pure {a : α} (ha : Q a s) : Ends Q E (pure a) s := ends_of_ok rfl ha

theorem ends_throw {e : ε} (he : E e) : Ends Q E (throw e) s := ends_of_error rfl he

/-- The second program starts where the first one has returned. -/
theorem Ends.bind {R : β → σ → Prop} {f : α → EStateM ε σ β} (hm : Ends Q E m s)
    (hf : ∀ a s', Q a s' → Ends R E (f a) s') : Ends R E (m >>= f) s := by
  refine ⟨hm.1.bind fun a s' hrun => (hf a s' (hm.2 a s' hrun)).1, fun b s'' hrun => ?_⟩
  obtain ⟨a, s', hrun', hrest⟩ := exists_of_bind_ok hrun
  exact (hf a s' (hm.2 a s' hrun')).2 b s'' hrest

theorem ends_bind_of_ok {R : β → σ → Prop} {f : α → EStateM ε σ β} {a : α} {s' : σ}
    (h : m.run s = .ok a s') (hf : Ends R E (f a) s') : Ends R E (m >>= f) s := by
  refine (ends_of_ok (Q := fun b t => b = a ∧ t = s') h ⟨rfl, rfl⟩).bind ?_
  rintro _ _ ⟨rfl, rfl⟩
  exact hf

theorem ends_bind_of_error {f : α → EStateM ε σ β} {R : β → σ → Prop} {e : ε} {s' : σ}
    (h : m.run s = .error e s') (he : E e) : Ends R E (m >>= f) s :=
  (ends_of_error (Q := fun _ _ => False) h he).bind fun _ _ hfalse => hfalse.elim

theorem ends_congr {t : σ} {n : EStateM ε σ α} (h : m.run s = n.run t) (hn : Ends Q E n t) :
    Ends Q E m s :=
  ⟨raisesOnly_congr h hn.1, fun a s' hrun => hn.2 a s' (h ▸ hrun)⟩

theorem Ends.ite {c : Prop} [Decidable c] {n : EStateM ε σ α} (hm : c → Ends Q E m s)
    (hn : ¬ c → Ends Q E n s) : Ends Q E (if c then m else n) s := by
  by_cases h : c
  · rw [if_pos h]; exact hm h
  · rw [if_neg h]; exact hn h

end Ends

/-! ### One program from two states -/

/-- The same value or the same exception, in related states. -/
inductive Alike (R : σ → σ → Prop) :
    EStateM.Result ε σ α → EStateM.Result ε σ α → Prop
  | ok (a : α) {s t : σ} (h : R s t) : Alike R (.ok a s) (.ok a t)
  | error (e : ε) {s t : σ} (h : R s t) : Alike R (.error e s) (.error e t)

/-- From related states the program ends alike. -/
def Respects (R : σ → σ → Prop) (m : EStateM ε σ α) : Prop :=
  ∀ s t, R s t → Alike R (m.run s) (m.run t)

section Respects

variable {R : σ → σ → Prop} {m : EStateM ε σ α}

theorem respects_pure (a : α) : Respects R (pure a : EStateM ε σ α) := fun _ _ h => .ok a h

theorem respects_throw (e : ε) : Respects R (throw e : EStateM ε σ α) := fun _ _ h => .error e h

theorem respects_modify {f : σ → σ} (hf : ∀ s t, R s t → R (f s) (f t)) :
    Respects R (modify f : EStateM ε σ Unit) := fun s t h => .ok () (hf s t h)

theorem Respects.bind {f : α → EStateM ε σ β} (hm : Respects R m) (hf : ∀ a, Respects R (f a)) :
    Respects R (m >>= f) := by
  intro s t h
  rw [EStateM.run_bind, EStateM.run_bind]
  have hst := hm s t h
  generalize m.run s = x at hst
  generalize m.run t = y at hst
  cases hst with
  | ok a h' => exact hf a _ _ h'
  | error e h' => exact .error e h'

theorem Respects.ite {c : Prop} [Decidable c] {n : EStateM ε σ α} (hm : Respects R m)
    (hn : Respects R n) : Respects R (if c then m else n) := by
  by_cases h : c
  · rwa [if_pos h]
  · rwa [if_neg h]

end Respects

/-! ### Two programs from two states -/

/-- Related values or the same exception, in related states. -/
inductive AlikeUpTo (V : α → β → Prop) (R : σ → σ → Prop) :
    EStateM.Result ε σ α → EStateM.Result ε σ β → Prop
  | ok {a : α} {b : β} (hab : V a b) {s t : σ} (h : R s t) : AlikeUpTo V R (.ok a s) (.ok b t)
  | error (e : ε) {s t : σ} (h : R s t) : AlikeUpTo V R (.error e s) (.error e t)

/-- From related states the two programs end alike. -/
def Relates (V : α → β → Prop) (R : σ → σ → Prop) (m : EStateM ε σ α) (n : EStateM ε σ β) : Prop :=
  ∀ s t, R s t → AlikeUpTo V R (m.run s) (n.run t)

section Relates

variable {γ δ : Type} {V : α → β → Prop} {W : γ → δ → Prop} {R : σ → σ → Prop}

theorem AlikeUpTo.mono {R' : σ → σ → Prop} (hR : ∀ s t, R s t → R' s t)
    {x : EStateM.Result ε σ α} {y : EStateM.Result ε σ β} (h : AlikeUpTo V R x y) :
    AlikeUpTo V R' x y := by
  cases h with
  | ok hab h => exact .ok hab (hR _ _ h)
  | error e h => exact .error e (hR _ _ h)

theorem relates_pure {a : α} {b : β} (hab : V a b) :
    Relates V R (pure a : EStateM ε σ α) (pure b) := fun _ _ h => .ok hab h

theorem relates_throw (e : ε) : Relates V R (throw e : EStateM ε σ α) (throw e) :=
  fun _ _ h => .error e h

theorem relates_modify {V : Unit → Unit → Prop} {f g : σ → σ} (hV : V () ())
    (hfg : ∀ s t, R s t → R (f s) (g t)) :
    Relates V R (modify f : EStateM ε σ Unit) (modify g) := fun s t h => .ok hV (hfg s t h)

/-- One program is a pair of programs. -/
theorem Respects.relates {V : α → α → Prop} {m : EStateM ε σ α} (h : Respects R m)
    (hV : ∀ a, V a a) : Relates V R m m := by
  intro s t hst
  have halike := h s t hst
  generalize m.run s = x at halike
  generalize m.run t = y at halike
  cases halike with
  | ok a h' => exact .ok (hV a) h'
  | error e h' => exact .error e h'

theorem Relates.bind {m : EStateM ε σ α} {n : EStateM ε σ β} {f : α → EStateM ε σ γ}
    {g : β → EStateM ε σ δ} (hm : Relates V R m n)
    (hf : ∀ a b, V a b → Relates W R (f a) (g b)) : Relates W R (m >>= f) (n >>= g) := by
  intro s t h
  rw [EStateM.run_bind, EStateM.run_bind]
  have hst := hm s t h
  generalize m.run s = x at hst
  generalize n.run t = y at hst
  cases hst with
  | ok hab h' => exact hf _ _ hab _ _ h'
  | error e h' => exact .error e h'

theorem Relates.ite {c : Prop} [Decidable c] {m m' : EStateM ε σ α} {n n' : EStateM ε σ β}
    (hm : Relates V R m n) (hn : Relates V R m' n') :
    Relates V R (if c then m else m') (if c then n else n') := by
  by_cases h : c
  · rwa [if_pos h, if_pos h]
  · rwa [if_neg h, if_neg h]

end Relates

/-- Keeping an invariant is a preorder on states, so the structural rules apply to it. -/
instance isPreorder_keeps (I : σ → Prop) : IsPreorder σ (fun s s' => I s → I s') where
  refl _ h := h
  trans _ _ _ h₁ h₂ h := h₂ (h₁ h)

/-- What the steps of an abstract machine keep, its runs keep. -/
theorem keeps_of_steps {R : σ → σ → Prop} {I : σ → Prop} (hI : ∀ s s', R s s' → I s → I s')
    {s s' : σ} (hsteps : Relation.ReflTransGen R s s') (hs : I s) : I s' := by
  induction hsteps with
  | refl => exact hs
  | tail _ hstep ih => exact hI _ _ hstep ih

end StateProgram
