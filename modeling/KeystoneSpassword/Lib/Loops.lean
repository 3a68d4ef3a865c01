import Mathlib.Data.List.Nodup

/-!
# Loops that collect

A loop that appends to a list what it finds for each element is `mapM`, in any lawful monad: the
same calls in the same order, and so the same first exception. Nested loops over one accumulator
are nested collections.

What such a loop has collected can be taken apart again when every item carries a key of the
element it was found for, and the keys are distinct.

## Main results

* `Loops.forIn_append` — the loop is a `mapM`
* `Loops.mapM_of_ok`, `Loops.exists_of_mapM` — in `Except` it returns if and only if every call does
* `Loops.filter_flatMap` — the items of one element
-/

namespace Loops

variable {α β : Type}

/-- A loop that appends what it makes of what the body finds. -/
theorem forIn_append {γ : Type} {m : Type → Type} [Monad m] [LawfulMonad m]
    {body : α → List γ → m (ForInStep (List γ))} {find : α → m β} {emit : β → List γ}
    (hbody : ∀ x acc, body x acc = (fun found => .yield (acc ++ emit found)) <$> find x)
    (xs : List α) (acc : List γ) :
    forIn xs acc body = (fun founds => acc ++ founds.flatMap emit) <$> xs.mapM find := by
  induction xs generalizing acc with
  | nil => simp
  | cons x xs ih =>
    simp only [List.forIn_cons, hbody, List.mapM_cons, map_eq_pure_bind, bind_assoc, pure_bind]
    refine congrArg (find x >>= ·) (funext fun found => ?_)
    rw [ih, map_eq_pure_bind]
    simp

section Except

variable {ε : Type} {f : α → Except ε β} {xs : List α}

theorem mapM_of_ok {g : α → β} (h : ∀ x ∈ xs, f x = .ok (g x)) : xs.mapM f = .ok (xs.map g) := by
  induction xs with
  | nil => rfl
  | cons x xs ih =>
    obtain ⟨hx, hxs⟩ := List.forall_mem_cons.mp h
    rw [List.mapM_cons, hx, ih hxs]
    rfl

/-- The loop does not get past a call that raises. -/
theorem ok_of_mapM {ys : List β} (h : xs.mapM f = .ok ys) : ∀ x ∈ xs, ∃ y, f x = .ok y := by
  induction xs generalizing ys with
  | nil => exact fun x hx => absurd hx List.not_mem_nil
  | cons x xs ih =>
    rw [List.mapM_cons] at h
    cases hx : f x with
    | error e =>
      rw [hx] at h
      cases h
    | ok y =>
      cases hxs : xs.mapM f with
      | error e =>
        rw [hx, hxs] at h
        cases h
      | ok ys' => exact List.forall_mem_cons.mpr ⟨⟨y, hx⟩, ih hxs⟩

/-- A loop that returns has found one thing for each element. -/
theorem exists_of_mapM [Inhabited β] {ys : List β} (h : xs.mapM f = .ok ys) :
    ∃ g : α → β, (∀ x ∈ xs, f x = .ok (g x)) ∧ ys = xs.map g := by
  have hfound : ∀ x ∈ xs, f x = .ok ((f x).toOption.getD default) := by
    intro x hx
    obtain ⟨y, hy⟩ := ok_of_mapM h x hx
    rw [hy]
    rfl
  rw [mapM_of_ok hfound] at h
  exact ⟨_, hfound, (Except.ok.inj h).symm⟩

end Except

/-- With distinct keys, the items found for an element are those with its key. -/
theorem filter_flatMap {κ : Type} [DecidableEq κ] {key : α → κ} {keyOf : β → κ} {xs : List α}
    {find : α → List β} (hkeys : (xs.map key).Nodup)
    (hfind : ∀ x ∈ xs, ∀ b ∈ find x, keyOf b = key x) {x : α} (hx : x ∈ xs) :
    (xs.flatMap find).filter (keyOf · = key x) = find x := by
  induction xs with
  | nil => exact absurd hx List.not_mem_nil
  | cons y xs ih =>
    obtain ⟨hnew, hkeys'⟩ := List.nodup_cons.mp hkeys
    obtain ⟨hy, hxs⟩ := List.forall_mem_cons.mp hfind
    rw [List.flatMap_cons, List.filter_append]
    rcases List.mem_cons.mp hx with rfl | hmem
    · -- the head keeps all of its items, and nobody else has its key
      have hself : (find x).filter (keyOf · = key x) = find x :=
        List.filter_eq_self.mpr fun b hb => decide_eq_true (hy b hb)
      have hrest : (xs.flatMap find).filter (keyOf · = key x) = [] := by
        refine List.filter_eq_nil_iff.mpr fun b hb => ?_
        obtain ⟨x', hx', hb'⟩ := List.mem_flatMap.mp hb
        rw [decide_eq_true_eq, hxs x' hx' b hb']
        exact fun h => hnew (h ▸ List.mem_map_of_mem hx')
      rw [hself, hrest, List.append_nil]
    · have hother : (find y).filter (keyOf · = key x) = [] := by
        refine List.filter_eq_nil_iff.mpr fun b hb => ?_
        rw [decide_eq_true_eq, hy b hb]
        exact fun h => hnew (h ▸ List.mem_map_of_mem hmem)
      rw [hother, List.nil_append]
      exact ih hkeys' hxs hmem

end Loops
