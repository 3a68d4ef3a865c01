import Mathlib.Algebra.Order.Group.Defs
import Mathlib.Data.Nat.Notation
import Mathlib.Logic.Basic

/-!
# Histories

A history is a list of events, the newest first. A program that keeps one writes it and never
reads it, so a statement about what happened is a statement about a list.

## Three views

* a *register* is the value written last: each event writes a value, clears the register, or
  leaves it alone
* a *counter* is the number of hits since the last reset
* a history is *justified* when each of its events is allowed by the events before it

The first two are what a state component that follows the history is compared with. The third is
how a property of every event of every run is stated, and it is closed under cutting a history.

## Main definitions

* `History.register`, `History.countSince`, `History.Justified`, `History.Spaced`

## Main results

* `History.register_eq_some_iff` — the write that a register holds, and nothing since
* `History.justified_iff` — the recursive form agrees with the one over all decompositions
* `History.Spaced.countP_le` — dates that are apart are few
-/

namespace History

variable {α β : Type}

/-! ### Registers -/

/-- The value written last. `write e` is `none` when `e` leaves the register alone, and
`some v` when it sets it to `v`, where `v = none` clears it. -/
def register (write : α → Option (Option β)) : List α → Option β
  | [] => none
  | e :: log =>
    match write e with
    | some v => v
    | none => register write log

section Register

variable {write : α → Option (Option β)}

@[simp] theorem register_nil : register write [] = none := rfl

theorem register_cons_of_write {e : α} {v : Option β} (h : write e = some v) (log : List α) :
    register write (e :: log) = v := by rw [register, h]

theorem register_cons_of_none {e : α} (h : write e = none) (log : List α) :
    register write (e :: log) = register write log := by rw [register, h]

theorem register_append_of_none {newer : List α} (h : ∀ e ∈ newer, write e = none)
    (log : List α) : register write (newer ++ log) = register write log := by
  induction newer with
  | nil => rfl
  | cons e newer ih =>
    rw [List.cons_append, register_cons_of_none (h e List.mem_cons_self)]
    exact ih fun e' he' => h e' (List.mem_cons_of_mem e he')

/-- A register that holds a value was set to it by some event, and no event since has touched
it. -/
theorem register_eq_some_iff {log : List α} {v : β} :
    register write log = some v ↔
      ∃ newer e older, log = newer ++ e :: older ∧ write e = some (some v) ∧
        ∀ e' ∈ newer, write e' = none := by
  constructor
  · intro h
    induction log with
    | nil => cases h
    | cons e log ih =>
      cases hw : write e with
      | some w =>
        rw [register_cons_of_write hw] at h
        exact ⟨[], e, log, rfl, by rw [hw, h], by simp⟩
      | none =>
        rw [register_cons_of_none hw] at h
        obtain ⟨newer, e', older, rfl, he', hnewer⟩ := ih h
        refine ⟨e :: newer, e', older, rfl, he', ?_⟩
        intro e'' he''
        rcases List.mem_cons.mp he'' with rfl | he''
        · exact hw
        · exact hnewer _ he''
  · rintro ⟨newer, e, older, rfl, he, hnewer⟩
    rw [register_append_of_none hnewer, register_cons_of_write he]

/-- If the newer events set the register and never clear it, it holds a value that one of them
has set. -/
theorem register_of_mem {newer : List α} (hclear : ∀ e ∈ newer, write e ≠ some none)
    (hset : ∃ e ∈ newer, ∃ v, write e = some (some v)) (log : List α) :
    ∃ e ∈ newer, ∃ v, write e = some (some v) ∧ register write (newer ++ log) = some v := by
  induction newer with
  | nil => simp at hset
  | cons e newer ih =>
    rw [List.cons_append]
    cases hw : write e with
    | some v =>
      rw [register_cons_of_write hw]
      cases v with
      | none => exact absurd hw (hclear e List.mem_cons_self)
      | some v => exact ⟨e, List.mem_cons_self, v, hw, rfl⟩
    | none =>
      rw [register_cons_of_none hw]
      obtain ⟨e', he', v, hv⟩ := hset
      have hmem : e' ∈ newer := by
        rcases List.mem_cons.mp he' with rfl | he'
        · rw [hw] at hv
          cases hv
        · exact he'
      obtain ⟨e'', he'', hv''⟩ := ih (fun e₁ h₁ => hclear e₁ (List.mem_cons_of_mem e h₁))
        ⟨e', hmem, v, hv⟩
      exact ⟨e'', List.mem_cons_of_mem e he'', hv''⟩

/-- A value that no newer event has set was there before them, and none of them has touched it. -/
theorem unwritten_of_append {newer log : List α} {v : β}
    (hset : ∀ e ∈ newer, ∀ v', write e ≠ some (some v'))
    (h : register write (newer ++ log) = some v) : ∀ e ∈ newer, write e = none := by
  induction newer with
  | nil => simp
  | cons e newer ih =>
    rw [List.cons_append] at h
    have he : write e = none := by
      cases hw : write e with
      | none => rfl
      | some v' =>
        rw [register_cons_of_write hw] at h
        exact absurd (by rw [hw, h]) (hset e List.mem_cons_self v)
    rw [register_cons_of_none he] at h
    intro e' he'
    rcases List.mem_cons.mp he' with rfl | he'
    · exact he
    · exact ih (fun e'' he'' => hset e'' (List.mem_cons_of_mem e he'')) h e' he'

theorem register_of_append {newer log : List α} {v : β}
    (hset : ∀ e ∈ newer, ∀ v', write e ≠ some (some v'))
    (h : register write (newer ++ log) = some v) : register write log = some v := by
  rwa [register_append_of_none (unwritten_of_append hset h)] at h

/-- A register that is set stays set until an event clears it. -/
theorem register_append_ne_none {newer log : List α} (hclear : ∀ e ∈ newer, write e ≠ some none)
    (h : register write log ≠ none) : register write (newer ++ log) ≠ none := by
  induction newer with
  | nil => exact h
  | cons e newer ih =>
    rw [List.cons_append]
    cases hw : write e with
    | none =>
      rw [register_cons_of_none hw]
      exact ih fun e' he' => hclear e' (List.mem_cons_of_mem e he')
    | some v =>
      rw [register_cons_of_write hw]
      rintro rfl
      exact hclear e List.mem_cons_self hw

end Register

/-! ### Counters -/

/-- The events since the last reset. -/
def since (reset : α → Bool) (log : List α) : List α := log.takeWhile fun e => !reset e

/-- The number of hits since the last reset. -/
def countSince (hit reset : α → Bool) (log : List α) : ℕ := (since reset log).countP hit

section Counter

variable {hit reset : α → Bool}

@[simp] theorem since_nil : since reset [] = [] := rfl

theorem since_cons_of_reset {e : α} (h : reset e = true) (log : List α) :
    since reset (e :: log) = [] := by simp [since, h]

theorem since_append_of_not {newer : List α} (h : ∀ e ∈ newer, reset e = false) (log : List α) :
    since reset (newer ++ log) = newer ++ since reset log := by
  induction newer with
  | nil => rfl
  | cons e newer ih =>
    have he : reset e = false := h e List.mem_cons_self
    have ih' := ih fun e' he' => h e' (List.mem_cons_of_mem e he')
    rw [since] at ih' ⊢
    simp [he, ih']

theorem of_mem_since {e : α} {log : List α} (h : e ∈ since reset log) :
    e ∈ log ∧ reset e = false := by
  have hall : (since reset log).all (fun e => !reset e) = true := List.all_takeWhile
  exact ⟨(List.takeWhile_subset _) h, by simpa using List.all_eq_true.mp hall e h⟩

@[simp] theorem countSince_nil : countSince hit reset [] = 0 := rfl

theorem countSince_cons_of_reset {e : α} (h : reset e = true) (log : List α) :
    countSince hit reset (e :: log) = 0 := by rw [countSince, since_cons_of_reset h]; rfl

theorem countSince_append_of_not {newer : List α} (h : ∀ e ∈ newer, reset e = false)
    (log : List α) :
    countSince hit reset (newer ++ log) = newer.countP hit + countSince hit reset log := by
  rw [countSince, since_append_of_not h, List.countP_append]
  rfl

end Counter

/-! ### Justified histories -/

/-- Every event is allowed by the events before it. -/
def Justified (P : α → List α → Prop) : List α → Prop
  | [] => True
  | e :: log => P e log ∧ Justified P log

section Justified

variable {P : α → List α → Prop}

@[simp] theorem justified_nil : Justified P [] := trivial

@[simp] theorem justified_cons (e : α) (log : List α) :
    Justified P (e :: log) ↔ P e log ∧ Justified P log := Iff.rfl

instance decidableJustified [∀ e log, Decidable (P e log)] : ∀ log, Decidable (Justified P log)
  | [] => isTrue trivial
  | e :: log =>
    have := decidableJustified log
    inferInstanceAs (Decidable (P e log ∧ Justified P log))

theorem justified_iff {log : List α} :
    Justified P log ↔ ∀ newer e older, log = newer ++ e :: older → P e older := by
  constructor
  · intro h newer
    induction newer generalizing log with
    | nil => rintro e older rfl; exact h.1
    | cons e' newer ih => rintro e older rfl; exact ih h.2 e older rfl
  · intro h
    induction log with
    | nil => trivial
    | cons e log ih => exact ⟨h [] e log rfl, ih fun newer e' older heq =>
        h (e :: newer) e' older (by rw [heq]; rfl)⟩

theorem Justified.of_append {newer older : List α} (h : Justified P (newer ++ older)) :
    Justified P older := by
  induction newer with
  | nil => exact h
  | cons e newer ih => exact ih h.2

/-- Events that need no justification add nothing to be justified. -/
theorem justified_append_of_forall {newer : List α} (h : ∀ e ∈ newer, ∀ older, P e older)
    (log : List α) : Justified P (newer ++ log) ↔ Justified P log := by
  induction newer with
  | nil => rfl
  | cons e newer ih =>
    rw [List.cons_append, justified_cons, ih fun e' he' => h e' (List.mem_cons_of_mem e he')]
    exact and_iff_right (h e List.mem_cons_self _)

/-- A justified history may be cut at any event. -/
theorem Justified.at {log newer older : List α} {e : α} (h : Justified P log)
    (hlog : log = newer ++ e :: older) : P e older :=
  justified_iff.mp h newer e older hlog

end Justified

/-! ### Spaced dates -/

/-- Each date, the newest first, comes at least `gap` after the ones before it. -/
def Spaced {τ : Type} [LE τ] [Add τ] (gap : τ) (dates : List τ) : Prop :=
  dates.Pairwise fun newer older => older + gap ≤ newer

/-- In `n` gaps there is room for `n` spaced dates. -/
theorem Spaced.length_le {τ : Type} [AddCommGroup τ] [LinearOrder τ] [IsOrderedAddMonoid τ]
    {gap start : τ} {dates : List τ} (h : Spaced gap dates) {n : ℕ}
    (hin : ∀ t ∈ dates, start ≤ t ∧ t < start + n • gap) : dates.length ≤ n := by
  induction dates generalizing n with
  | nil => exact Nat.zero_le n
  | cons t older ih =>
    obtain ⟨hstart, hend⟩ := hin t List.mem_cons_self
    obtain ⟨hgap, holder⟩ := List.pairwise_cons.mp h
    cases n with
    | zero =>
      rw [zero_nsmul, add_zero] at hend
      exact absurd hend hstart.not_gt
    | succ n =>
      refine Nat.succ_le_succ (ih holder fun s hs => ⟨(hin s (List.mem_cons_of_mem t hs)).1, ?_⟩)
      have hlt : s + gap < start + n • gap + gap := by
        rw [add_assoc, ← succ_nsmul]
        exact (hgap s hs).trans_lt hend
      exact lt_of_add_lt_add_right hlt

theorem Spaced.countP_le {τ : Type} [AddCommGroup τ] [LinearOrder τ] [IsOrderedAddMonoid τ]
    {gap : τ} {dates : List τ} (h : Spaced gap dates) (start : τ) (n : ℕ) :
    dates.countP (fun t => start ≤ t ∧ t < start + n • gap) ≤ n := by
  have hin : ∀ t ∈ dates.filter fun t => start ≤ t ∧ t < start + n • gap,
      start ≤ t ∧ t < start + n • gap := fun t ht => of_decide_eq_true (List.mem_filter.mp ht).2
  have hspaced : Spaced gap (dates.filter fun t => start ≤ t ∧ t < start + n • gap) :=
    h.sublist List.filter_sublist
  rw [List.countP_eq_length_filter]
  exact hspaced.length_le hin

end History
