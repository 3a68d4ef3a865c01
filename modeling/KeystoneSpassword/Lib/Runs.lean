import Mathlib.Data.List.Induction
import Mathlib.Data.Nat.Notation
import Mathlib.Logic.Basic

/-!
# Runs of a deterministic machine

A machine is a step function `step : σ → ι → σ`: a state and an input give the next state. A run
feeds it a list of inputs, the first one first.

## Conditions along a run

`Along step P s inputs` says that every input of the run meets `P` in the state it is fed to. It
is the form in which a statement about runs assumes something of each step, and
`run_invariant` is the rule that goes with it.

`Since step P Q s inputs` looks back from the end of a run: one of its inputs has met `P`, and none
after that one has met `Q`. `since_snoc` follows it along the run, and `since_of_run` is its rule.

## Main definitions

* `Machine.run`, `Machine.Along`, `Machine.Since`

## Main results

* `Machine.run_invariant` — what every step that meets the condition keeps, the run keeps
* `Machine.run_iff_along` — a property of states, and the condition under which a step keeps it
* `Machine.along_congr` — two conditions along a run
* `Machine.run_erased` — a run, and the same run without some of its inputs
* `Machine.along_append` — a condition along a run, cut in two
* `Machine.since_of_run` — what only an input that meets `P` can bring about goes back to one
* `Machine.run_simulates`, `Machine.along_simulates` — a machine seen as another one, step by step
-/

namespace Machine

variable {σ ι : Type} (step : σ → ι → σ)

/-- The state after the inputs, the first one first. -/
def run (s : σ) (inputs : List ι) : σ := inputs.foldl step s

@[simp] theorem run_nil (s : σ) : run step s [] = s := rfl

@[simp] theorem run_cons (s : σ) (i : ι) (inputs : List ι) :
    run step s (i :: inputs) = run step (step s i) inputs := rfl

theorem run_append (s : σ) (inputs inputs' : List ι) :
    run step s (inputs ++ inputs') = run step (run step s inputs) inputs' := by
  rw [run, List.foldl_append]
  rfl

theorem run_snoc (s : σ) (inputs : List ι) (i : ι) :
    run step s (inputs ++ [i]) = step (run step s inputs) i := by
  rw [run_append]
  rfl

/-- Every input of the run meets `P` in the state it is fed to. -/
def Along (P : σ → ι → Prop) : σ → List ι → Prop
  | _, [] => True
  | s, i :: inputs => P s i ∧ Along P (step s i) inputs

variable {step} {P : σ → ι → Prop} {I : σ → Prop}

instance decidableAlong [∀ s i, Decidable (P s i)] :
    ∀ s inputs, Decidable (Along step P s inputs)
  | _, [] => isTrue trivial
  | s, i :: inputs =>
    have := decidableAlong (step s i) inputs
    inferInstanceAs (Decidable (P s i ∧ Along step P (step s i) inputs))

@[simp] theorem along_nil (s : σ) : Along step P s [] := trivial

@[simp] theorem along_cons (s : σ) (i : ι) (inputs : List ι) :
    Along step P s (i :: inputs) ↔ P s i ∧ Along step P (step s i) inputs := Iff.rfl

theorem along_append (s : σ) (inputs inputs' : List ι) :
    Along step P s (inputs ++ inputs') ↔
      Along step P s inputs ∧ Along step P (run step s inputs) inputs' := by
  induction inputs generalizing s with
  | nil => simp
  | cons i inputs ih => rw [List.cons_append, along_cons, along_cons, run_cons, ih, and_assoc]

theorem along_snoc (s : σ) (inputs : List ι) (i : ι) :
    Along step P s (inputs ++ [i]) ↔ Along step P s inputs ∧ P (run step s inputs) i := by
  rw [along_append, along_cons]
  simp

theorem Along.mono {Q : σ → ι → Prop} {s : σ} {inputs : List ι} (h : Along step P s inputs)
    (hPQ : ∀ s i, P s i → Q s i) : Along step Q s inputs := by
  induction inputs generalizing s with
  | nil => trivial
  | cons i inputs ih => exact ⟨hPQ _ _ h.1, ih h.2⟩

theorem along_of_forall (h : ∀ s i, P s i) (s : σ) (inputs : List ι) : Along step P s inputs := by
  induction inputs generalizing s with
  | nil => trivial
  | cons i inputs ih => exact ⟨h s i, ih _⟩

/-- Two conditions along a run that agree where the invariant holds, if the first one keeps it. -/
theorem along_congr {Q : σ → ι → Prop} (hI : ∀ s i, I s → P s i → I (step s i))
    (hPQ : ∀ s i, I s → (P s i ↔ Q s i)) {s : σ} (hs : I s) (inputs : List ι) :
    Along step P s inputs ↔ Along step Q s inputs := by
  induction inputs generalizing s with
  | nil => exact Iff.rfl
  | cons i inputs ih =>
    rw [along_cons, along_cons, hPQ s i hs]
    exact and_congr_right fun h => ih (hI s i hs ((hPQ s i hs).mpr h))

/-- Two conditions that agree on the inputs of the run. -/
theorem along_congr_of_mem {Q : σ → ι → Prop} {inputs : List ι}
    (hPQ : ∀ i ∈ inputs, ∀ s, P s i ↔ Q s i) (s : σ) :
    Along step P s inputs ↔ Along step Q s inputs := by
  induction inputs generalizing s with
  | nil => exact Iff.rfl
  | cons i inputs ih =>
    rw [along_cons, along_cons, hPQ i List.mem_cons_self s]
    exact and_congr_right fun _ => ih (fun j hj => hPQ j (List.mem_cons_of_mem i hj)) _

/-- Two conditions along a run are one. -/
theorem along_and {Q : σ → ι → Prop} (s : σ) (inputs : List ι) :
    Along step (fun s i => P s i ∧ Q s i) s inputs ↔
      Along step P s inputs ∧ Along step Q s inputs := by
  induction inputs generalizing s with
  | nil => simp
  | cons i inputs ih => rw [along_cons, along_cons, along_cons, ih, and_and_and_comm]

/-- What every step that meets the condition keeps, a run whose steps meet it keeps. -/
theorem run_invariant (hstep : ∀ s i, P s i → I s → I (step s i)) {s : σ} {inputs : List ι}
    (h : Along step P s inputs) (hs : I s) : I (run step s inputs) := by
  induction inputs generalizing s with
  | nil => exact hs
  | cons i inputs ih => exact ih h.2 (hstep s i h.1 hs)

/-- A property of states that a step keeps exactly when its input meets the condition holds after
a run exactly when it held before and every input of the run meets it. -/
theorem run_iff_along {J : σ → Prop} (hI : ∀ s i, I s → I (step s i))
    (hJ : ∀ s i, I s → (J (step s i) ↔ J s ∧ P s i)) {s : σ} (hs : I s) (inputs : List ι) :
    J (run step s inputs) ↔ J s ∧ Along step P s inputs := by
  induction inputs generalizing s with
  | nil => simp
  | cons i inputs ih => rw [run_cons, ih (hI s i hs), hJ s i hs, along_cons, and_assoc]

/-- Two runs of a machine, the second without the inputs that are marked `false`: a relation that
a kept input keeps on both sides, and an erased one on the first, relates the states they reach. -/
theorem run_erased {R : σ → σ → Prop} {inputs : List (ι × Bool)}
    (hkept : ∀ i, (i, true) ∈ inputs → ∀ s t, R s t → R (step s i) (step t i))
    (herased : ∀ i, (i, false) ∈ inputs → ∀ s t, R s t → R (step s i) t) {s t : σ} (h : R s t) :
    R (run step s (inputs.map Prod.fst))
      (run step t ((inputs.filter Prod.snd).map Prod.fst)) := by
  induction inputs generalizing s t with
  | nil => exact h
  | cons input inputs ih =>
    obtain ⟨i, kept⟩ := input
    have ih' : ∀ {s t}, R s t → R (run step s (inputs.map Prod.fst))
        (run step t ((inputs.filter Prod.snd).map Prod.fst)) := fun h' =>
      ih (fun j hj => hkept j (List.mem_cons_of_mem _ hj))
        (fun j hj => herased j (List.mem_cons_of_mem _ hj)) h'
    cases kept with
    | true => exact ih' (hkept i List.mem_cons_self s t h)
    | false => exact ih' (herased i List.mem_cons_self s t h)

/-! ### Looking back -/

/-- An input of the run has met `P`, and none after it has met `Q`. -/
def Since (step : σ → ι → σ) (P Q : σ → ι → Prop) (s : σ) (inputs : List ι) : Prop :=
  ∃ older i newer, inputs = older ++ i :: newer ∧ P (run step s older) i ∧
    Along step (fun s i => ¬ Q s i) (step (run step s older) i) newer

section Since

variable {Q R : σ → ι → Prop} {s : σ}

@[simp] theorem not_since_nil : ¬ Since step P Q s [] := by
  rintro ⟨older, i, newer, h, -⟩
  cases older <;> cases h

/-- The last input decides, or leaves it to the inputs before it. -/
theorem since_snoc (inputs : List ι) (i : ι) :
    Since step P Q s (inputs ++ [i]) ↔
      P (run step s inputs) i ∨ ¬ Q (run step s inputs) i ∧ Since step P Q s inputs := by
  constructor
  · rintro ⟨older, j, newer, h, hP, hQ⟩
    rcases newer.eq_nil_or_concat with rfl | ⟨newer, k, rfl⟩
    · obtain ⟨rfl, hi⟩ := List.append_inj' h rfl
      cases hi
      exact .inl hP
    · rw [List.concat_eq_append, ← List.cons_append, ← List.append_assoc] at h
      obtain ⟨rfl, hi⟩ := List.append_inj' h rfl
      cases hi
      rw [List.concat_eq_append, along_snoc] at hQ
      rw [run_append, run_cons]
      exact .inr ⟨hQ.2, older, j, newer, rfl, hP, hQ.1⟩
  · rintro (hP | ⟨hQ, older, j, newer, rfl, hP, hnewer⟩)
    · exact ⟨inputs, i, [], rfl, hP, trivial⟩
    · refine ⟨older, j, newer ++ [i], by simp, hP, ?_⟩
      rw [run_append, run_cons] at hQ
      exact (along_snoc ..).mpr ⟨hnewer, hQ⟩

theorem not_since_of_forall {inputs : List ι} (h : ∀ i ∈ inputs, ∀ s, ¬ P s i) :
    ¬ Since step P Q s inputs := by
  rintro ⟨older, i, newer, rfl, hP, -⟩
  exact h i (by simp) _ hP

theorem since_or (inputs : List ι) :
    Since step (fun s i => P s i ∨ R s i) Q s inputs ↔
      Since step P Q s inputs ∨ Since step R Q s inputs := by
  induction inputs using List.reverseRecOn with
  | nil => simp
  | append_singleton inputs i ih =>
    rw [since_snoc, since_snoc, since_snoc, ih]
    tauto

/-- If no input has met `R` since the latest one that met `Q`, none has met either. -/
theorem Since.or_right {inputs : List ι} (h : Since step P Q s inputs)
    (hR : ¬ Since step R Q s inputs) : Since step P (fun s i => Q s i ∨ R s i) s inputs := by
  induction inputs using List.reverseRecOn with
  | nil => exact absurd h not_since_nil
  | append_singleton inputs i ih =>
    rw [since_snoc] at h hR ⊢
    rcases h with hP | ⟨hQ, h⟩
    · exact .inl hP
    · exact .inr ⟨fun h' => h'.elim hQ fun h' => hR (.inl h'), ih h fun h' => hR (.inr ⟨hQ, h'⟩)⟩

/-- The input that met `P` lies between any input that met `R` and now. -/
theorem Since.not_since {Q' : σ → ι → Prop} {inputs : List ι} (h : Since step P Q s inputs)
    (hP : ∀ s i, P s i → Q' s i ∧ ¬ R s i) (hR : ∀ s i, R s i → Q s i) :
    ¬ Since step R Q' s inputs := by
  induction inputs using List.reverseRecOn with
  | nil => exact not_since_nil
  | append_singleton inputs i ih =>
    rw [since_snoc] at h ⊢
    rcases h with h | ⟨hQ, h⟩
    · rintro (hR' | ⟨hQ', -⟩)
      · exact (hP _ _ h).2 hR'
      · exact hQ' (hP _ _ h).1
    · rintro (hR' | ⟨-, h'⟩)
      · exact hQ (hR _ _ hR')
      · exact ih h h'

/-- Two conditions that agree where the invariant holds. -/
theorem since_congr_right (hI : ∀ s i, I s → I (step s i))
    (hQR : ∀ s i, I s → (Q s i ↔ R s i)) (hs : I s) (inputs : List ι) :
    Since step P Q s inputs ↔ Since step P R s inputs := by
  induction inputs using List.reverseRecOn with
  | nil => simp
  | append_singleton inputs i ih =>
    have hrun : I (run step s inputs) :=
      run_invariant (fun s i _ => hI s i) (along_of_forall (fun _ _ => trivial) s inputs) hs
    rw [since_snoc, since_snoc, ih, hQR _ i hrun]

/-- What holds at the end of the run, but not at its start, and what no input brings about but one
that meets `P`, goes back to such an input. If whatever meets `Q` ends it, none has done so
since. -/
theorem since_of_run {J : σ → Prop} (hI : ∀ s i, I s → I (step s i))
    (hJ : ∀ s i, I s → J (step s i) → P s i ∨ ¬ Q s i ∧ J s) (hs : I s) (h₀ : ¬ J s)
    {inputs : List ι} (h : J (run step s inputs)) : Since step P Q s inputs := by
  induction inputs using List.reverseRecOn with
  | nil => exact absurd h h₀
  | append_singleton inputs i ih =>
    have hrun : I (run step s inputs) :=
      run_invariant (fun s i _ => hI s i) (along_of_forall (fun _ _ => trivial) s inputs) hs
    rw [run_snoc] at h
    exact (since_snoc ..).mpr ((hJ _ i hrun h).imp_right fun h' => ⟨h'.1, ih h'.2⟩)

end Since

/-! ### Seeing one machine as another

`abs` reads a state of the second machine off a state of the first. What one step of the first
does is a step of the second, on an input that depends on the state the step was made in. -/

section Simulation

variable {σ' ι' : Type} {step' : σ' → ι' → σ'} {P' : σ' → ι' → Prop}

/-- The inputs of the second machine, along a run of the first. -/
def seenAs (step : σ → ι → σ) (input : σ → ι → ι') : σ → List ι → List ι'
  | _, [] => []
  | s, i :: inputs => input s i :: seenAs step input (step s i) inputs

variable {abs : σ → σ'} {input : σ → ι → ι'} (hI : ∀ s i, I s → I (step s i))
include hI

theorem run_simulates (hstep : ∀ s i, I s → abs (step s i) = step' (abs s) (input s i)) {s : σ}
    (hs : I s) (inputs : List ι) :
    run step' (abs s) (seenAs step input s inputs) = abs (run step s inputs) := by
  induction inputs generalizing s with
  | nil => rfl
  | cons i inputs ih =>
    rw [seenAs, run_cons, run_cons, ← hstep s i hs]
    exact ih (hI s i hs)

theorem along_simulates (hstep : ∀ s i, I s → abs (step s i) = step' (abs s) (input s i))
    (hP : ∀ s i, I s → (P' (abs s) (input s i) ↔ P s i)) {s : σ} (hs : I s) (inputs : List ι) :
    Along step' P' (abs s) (seenAs step input s inputs) ↔ Along step P s inputs := by
  induction inputs generalizing s with
  | nil => exact Iff.rfl
  | cons i inputs ih =>
    rw [seenAs, along_cons, along_cons, hP s i hs, ← hstep s i hs, ih (hI s i hs)]

end Simulation

end Machine
