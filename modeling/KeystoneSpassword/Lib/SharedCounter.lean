import KeystoneSpassword.Lib.Runs
import Mathlib.Algebra.BigOperators.Group.Finset.Piecewise
import Mathlib.Algebra.Order.BigOperators.Group.Finset
import Mathlib.Algebra.Order.Ring.Nat
import Mathlib.Data.Fintype.BigOperators
import Mathlib.Data.Int.Notation

/-!
# A shared counter without a lock

Finitely many processes each add one to a counter that may not exist yet. A process waits, reads
the counter, and later writes back what it read plus one: an update if there was a counter to
read, an insert otherwise. An update overwrites whatever is stored by then. An insert fails if
somebody else has inserted in between. A process may also leave without reading.

## The count and the schedule

The question is which schedules lose an increment. `total_iff` answers it exactly: the counter
ends up with one more for each process if and only if nobody leaves and every process writes
while the counter is still what the process had read. The invariant behind it, `Bounded`, bounds
the counter, and every value that is held, by the number of writes so far. A value read before
somebody else's write is below that bound, and no later write makes up for it.

## Main definitions

* `SharedCounter.Local`, `Turn`, `State`, `step`
* `SharedCounter.Undisturbed` — the condition on one turn

## Main results

* `SharedCounter.total_iff`
-/

namespace SharedCounter

/-- Where a process is. -/
inductive Local
  | waiting
  /-- has read this, and is to write -/
  | holding (seen : Option ℤ)
  /-- is through, with its increment written or not -/
  | done (written : Bool)
  deriving DecidableEq

/-- What a process does when it is its turn. -/
inductive Turn
  | idle
  | leave
  | read
  | write
  deriving DecidableEq

/-- The counter, and where each process is. -/
structure State (ι : Type) where
  counter : Option ℤ
  locals : ι → Local

/-- One turn of a process. A turn that does not fit where the process is does nothing. -/
def Local.next (counter : Option ℤ) : Local → Turn → Option ℤ × Local
  | .waiting, .leave => (counter, .done false)
  | .waiting, .read => (counter, .holding counter)
  | .holding (some v), .write => (counter.map fun _ => v + 1, .done true)
  | .holding none, .write =>
    match counter with
    | none => (some 1, .done true)
    | some v => (some v, .done false)
  | l, _ => (counter, l)

variable {ι : Type} [DecidableEq ι]

/-- A process takes its turn. -/
def step (s : State ι) (t : ι × Turn) : State ι :=
  let next := (s.locals t.1).next s.counter t.2
  ⟨next.1, Function.update s.locals t.1 next.2⟩

/-- The turn loses nothing: nobody leaves, and who writes finds the counter as it was read. -/
def Undisturbed (s : State ι) (t : ι × Turn) : Prop :=
  match s.locals t.1, t.2 with
  | .waiting, .leave => False
  | .holding seen, .write => seen = s.counter
  | _, _ => True

/-- What a turn did, and when nothing was lost by it. -/
inductive Took (s : State ι) (i : ι) : State ι → Prop → Prop
  | idled : Took s i s True
  | left (hi : s.locals i = .waiting) :
    Took s i ⟨s.counter, Function.update s.locals i (.done false)⟩ False
  | looked (hi : s.locals i = .waiting) :
    Took s i ⟨s.counter, Function.update s.locals i (.holding s.counter)⟩ True
  | updated (v : ℤ) (hi : s.locals i = .holding (some v)) :
    Took s i ⟨s.counter.map fun _ => v + 1, Function.update s.locals i (.done true)⟩
      (some v = s.counter)
  | inserted (hi : s.locals i = .holding none) (hnone : s.counter = none) :
    Took s i ⟨some 1, Function.update s.locals i (.done true)⟩ (none = s.counter)
  | collided (hi : s.locals i = .holding none) (v : ℤ) (hsome : s.counter = some v) :
    Took s i ⟨s.counter, Function.update s.locals i (.done false)⟩ (none = s.counter)

theorem step_took (s : State ι) (t : ι × Turn) : Took s t.1 (step s t) (Undisturbed s t) := by
  have hidle : ∀ l, s.locals t.1 = l →
      (⟨s.counter, Function.update s.locals t.1 l⟩ : State ι) = s :=
    fun l hl => by rw [← hl, Function.update_eq_self]
  cases hi : s.locals t.1 with
  | waiting =>
    cases hturn : t.2 <;> simp only [step, Undisturbed, hi, hturn, Local.next]
    case leave => exact .left hi
    case read => exact .looked hi
    all_goals rw [hidle _ hi]; exact .idled
  | holding seen =>
    cases hturn : t.2 <;> simp only [step, Undisturbed, hi, hturn, Local.next]
    case write =>
      cases seen with
      | some v => exact .updated v hi
      | none =>
        cases hc : s.counter with
        | none => simpa only [hc] using Took.inserted hi hc
        | some v => simpa only [hc] using Took.collided hi v hc
    all_goals rw [hidle _ hi]; exact .idled
  | done written =>
    simp only [step, Undisturbed, hi, Local.next]
    rw [hidle _ hi]
    exact .idled

/-- What the others hold is untouched by a turn after which nothing is held. -/
theorem holding_of_update {s : State ι} {i j : ι} {l : Local} {seen : Option ℤ}
    (hl : ∀ v, l ≠ .holding v) (hj : Function.update s.locals i l j = .holding seen) :
    s.locals j = .holding seen := by
  by_cases hji : j = i
  · rw [hji, Function.update_self] at hj
    exact absurd hj (hl seen)
  · rwa [Function.update_of_ne hji] at hj

/-! ### How many have written -/

/-- One for a process that has written. -/
def Local.weight : Local → ℕ
  | .done true => 1
  | _ => 0

theorem Local.weight_le_one (l : Local) : l.weight ≤ 1 := by
  rcases l with _ | _ | _ | _ <;> simp [weight]

variable [Fintype ι]

/-- The number of processes that have written. -/
def written (s : State ι) : ℕ := ∑ i, (s.locals i).weight

section Update

variable {s : State ι} {i : ι} {l : Local} {c : Option ℤ}

theorem written_update :
    written ⟨c, Function.update s.locals i l⟩ + (s.locals i).weight =
      written s + l.weight := by
  have hafter : written ⟨c, Function.update s.locals i l⟩ =
      l.weight + ∑ j ∈ Finset.univ \ {i}, (s.locals j).weight := by
    rw [← Finset.sum_update_of_mem (Finset.mem_univ i)]
    exact Finset.sum_congr rfl fun j _ => Function.apply_update (fun _ => Local.weight) _ _ _ j
  have hbefore : written s =
      (s.locals i).weight + ∑ j ∈ Finset.univ \ {i}, (s.locals j).weight := by
    rw [← Finset.sum_update_of_mem (Finset.mem_univ i), Function.update_eq_self]
    rfl
  omega

theorem written_of_unwritten (hi : (s.locals i).weight = 0) (hl : l.weight = 0) :
    written ⟨c, Function.update s.locals i l⟩ = written s := by
  have h := written_update (s := s) (i := i) (l := l) (c := c)
  omega

theorem written_of_written (hi : (s.locals i).weight = 0) :
    written ⟨c, Function.update s.locals i (.done true)⟩ = written s + 1 := by
  have h : _ + _ = _ + Local.weight (.done true) :=
    written_update (s := s) (i := i) (l := .done true) (c := c)
  rw [hi] at h
  exact h

end Update

omit [DecidableEq ι] in
theorem written_le_card (s : State ι) : written s ≤ Fintype.card ι := by
  refine (Finset.sum_le_card_nsmul _ _ 1 fun i _ => Local.weight_le_one _).trans ?_
  simp

omit [DecidableEq ι] in
/-- All have written if each has. -/
theorem written_eq_card_iff (s : State ι) :
    written s = Fintype.card ι ↔ ∀ i, s.locals i = .done true := by
  have hle : ∀ i ∈ Finset.univ, (s.locals i).weight ≤ 1 := fun i _ => Local.weight_le_one _
  have hcard : Fintype.card ι = ∑ _i : ι, 1 := by simp
  rw [hcard, written, Finset.sum_eq_sum_iff_of_le hle]
  refine forall_congr' fun i => ?_
  rcases s.locals i with _ | _ | _ | _ <;> simp [Local.weight]

/-! ### The bound -/

/-- Starting from `a`, neither the counter nor a value that is held is ahead of the writes. A
value that is not the stored one is behind them. -/
structure Bounded (a : ℤ) (s : State ι) : Prop where
  counter : s.counter.getD 0 ≤ a + written s
  held : ∀ i seen, s.locals i = .holding seen → (seen.isSome → s.counter.isSome) ∧
    (seen = s.counter ∨ seen.getD 0 < a + written s)

/-- Starting from `a`, nothing is lost so far. -/
structure Exact (a : ℤ) (s : State ι) : Prop where
  counter : s.counter.getD 0 = a + written s
  kept : ∀ i, s.locals i ≠ .done false

omit [DecidableEq ι] in
/-- No value that is held is ahead of the writes. -/
theorem Bounded.held_le {a : ℤ} {s : State ι} (h : Bounded a s) {i : ι} {seen : Option ℤ}
    (hi : s.locals i = .holding seen) : seen.getD 0 ≤ a + written s := by
  rcases (h.held i seen hi).2 with rfl | hlt
  · exact h.counter
  · exact hlt.le

theorem bounded_step {a : ℤ} {s : State ι} (t : ι × Turn) (h : Bounded a s) :
    Bounded a (step s t) := by
  have htook := step_took s t
  generalize step s t = s' at htook
  generalize Undisturbed s t = ok at htook
  cases htook with
  | idled => exact h
  | left hi | collided hi v hsome =>
    have hw : written _ = written s :=
      written_of_unwritten (c := s.counter) (l := .done false) (by rw [hi]; rfl) rfl
    constructor
    · rw [hw]
      exact h.counter
    · intro j seen hj
      rw [hw]
      exact h.held j seen (holding_of_update (by simp) hj)
  | looked hi =>
    have hw : written _ = written s :=
      written_of_unwritten (c := s.counter) (l := .holding s.counter) (by rw [hi]; rfl) rfl
    constructor
    · rw [hw]
      exact h.counter
    · intro j seen hj
      rw [hw]
      by_cases hjt : j = t.1
      · simp only [hjt, Function.update_self, Local.holding.injEq] at hj
        exact ⟨fun hseen => hj ▸ hseen, .inl hj.symm⟩
      · exact h.held j seen (by simpa [Function.update_of_ne hjt] using hj)
  | updated v hi =>
    have hw : written _ = written s + 1 :=
      written_of_written (c := s.counter.map fun _ => v + 1) (by rw [hi]; rfl)
    obtain ⟨c, hc⟩ := Option.isSome_iff_exists.mp ((h.held t.1 _ hi).1 rfl)
    have hv : v ≤ a + written s := h.held_le hi
    constructor
    · rw [hw, hc]
      simp only [Option.map_some, Option.getD_some]
      omega
    · intro j seen hj
      have hj' := h.held_le (holding_of_update (by simp) hj)
      exact ⟨fun _ => by simp [hc], .inr (by rw [hw]; omega)⟩
  | inserted hi hnone =>
    have hw : written _ = written s + 1 :=
      written_of_written (c := some 1) (by rw [hi]; rfl)
    have hzero : (0 : ℤ) ≤ a + written s := h.held_le hi
    constructor
    · rw [hw]
      simp only [Option.getD_some]
      omega
    · intro j seen hj
      have hj' := h.held_le (holding_of_update (by simp) hj)
      exact ⟨fun _ => rfl, .inr (by rw [hw]; omega)⟩

/-- A turn keeps the count exact if and only if it loses nothing. -/
theorem exact_step_iff {a : ℤ} {s : State ι} (t : ι × Turn) (h : Bounded a s) :
    Exact a (step s t) ↔ Exact a s ∧ Undisturbed s t := by
  have htook := step_took s t
  generalize step s t = s' at htook
  generalize Undisturbed s t = ok at htook
  have hkept : ∀ {l : Local}, s.locals t.1 ≠ .done false → l ≠ .done false →
      ((∀ i, Function.update s.locals t.1 l i ≠ .done false) ↔ ∀ i, s.locals i ≠ .done false) := by
    intro l hi hl
    rw [Function.forall_update_iff s.locals (p := fun _ l => l ≠ .done false)]
    exact ⟨fun hall i => by by_cases hit : i = t.1; exacts [hit ▸ hi, hall.2 i hit],
      fun hall => ⟨hl, fun i _ => hall i⟩⟩
  cases htook with
  | idled => rw [and_true]
  | left hi =>
    refine ⟨fun hexact => absurd (Function.update_self ..) (hexact.kept t.1), fun hfalse => ?_⟩
    exact hfalse.2.elim
  | looked hi =>
    have hw : written _ = written s :=
      written_of_unwritten (c := s.counter) (l := .holding s.counter) (by rw [hi]; rfl) rfl
    have hk := hkept (l := .holding s.counter) (by simp [hi]) (by simp)
    rw [and_true]
    exact ⟨fun hexact => ⟨by rw [← hw]; exact hexact.counter, hk.mp hexact.kept⟩,
      fun hexact => ⟨by rw [hw]; exact hexact.counter, hk.mpr hexact.kept⟩⟩
  | updated v hi =>
    have hw : written _ = written s + 1 :=
      written_of_written (c := s.counter.map fun _ => v + 1) (by rw [hi]; rfl)
    have hk := hkept (l := .done true) (by simp [hi]) (by simp)
    obtain ⟨hsome, hseen⟩ := h.held t.1 _ hi
    obtain ⟨c, hc⟩ := Option.isSome_iff_exists.mp (hsome rfl)
    constructor
    · intro hexact
      have hcount := hexact.counter
      rw [hw] at hcount
      simp only [hc, Option.map_some, Option.getD_some] at hcount
      have heq : some v = s.counter := by
        refine hseen.resolve_right fun hlt => ?_
        simp only [Option.getD_some] at hlt
        omega
      refine ⟨⟨?_, hk.mp hexact.kept⟩, heq⟩
      rw [← heq, Option.getD_some]
      omega
    · rintro ⟨hexact, heq⟩
      have hcount := hexact.counter
      rw [← heq, Option.getD_some] at hcount
      refine ⟨?_, hk.mpr hexact.kept⟩
      rw [hw]
      simp only [hc, Option.map_some, Option.getD_some]
      omega
  | inserted hi hnone =>
    have hw : written _ = written s + 1 :=
      written_of_written (c := some 1) (by rw [hi]; rfl)
    have hk := hkept (l := .done true) (by simp [hi]) (by simp)
    constructor
    · intro hexact
      have hcount := hexact.counter
      rw [hw] at hcount
      simp only [Option.getD_some] at hcount
      refine ⟨⟨?_, hk.mp hexact.kept⟩, hnone.symm⟩
      rw [hnone, Option.getD_none]
      omega
    · rintro ⟨hexact, -⟩
      have hcount := hexact.counter
      rw [hnone, Option.getD_none] at hcount
      refine ⟨?_, hk.mpr hexact.kept⟩
      rw [hw]
      simp only [Option.getD_some]
      omega
  | collided hi v hsome =>
    refine ⟨fun hexact => absurd (Function.update_self ..) (hexact.kept t.1), fun hnone => ?_⟩
    rw [hsome] at hnone
    cases hnone.2

/-! ### The count -/

section Count

variable {s : State ι} (hstart : ∀ i, s.locals i = .waiting)
include hstart

theorem bounded_run (turns : List (ι × Turn)) :
    Bounded (s.counter.getD 0) (Machine.run step s turns) := by
  have hnone : written s = 0 := Finset.sum_eq_zero fun i _ => by rw [hstart]; rfl
  have hbounded : Bounded (s.counter.getD 0) s :=
    ⟨by simp [hnone], fun i seen hi => by rw [hstart] at hi; cases hi⟩
  exact Machine.run_invariant (P := fun _ _ => True) (fun _ t _ h => bounded_step t h)
    (Machine.along_of_forall (fun _ _ => trivial) _ _) hbounded

/-- A schedule that counts every process has let every process write. -/
theorem done_of_total (turns : List (ι × Turn))
    (htotal : (Machine.run step s turns).counter.getD 0 = s.counter.getD 0 + Fintype.card ι) :
    ∀ i, (Machine.run step s turns).locals i = .done true := by
  have hbounded := (bounded_run hstart turns).counter
  have hle := written_le_card (Machine.run step s turns)
  exact (written_eq_card_iff _).mp (by omega)

/-- **Which schedules lose nothing.** -/
theorem total_iff (turns : List (ι × Turn))
    (hdone : ∀ i, ∃ ok, (Machine.run step s turns).locals i = .done ok) :
    ((Machine.run step s turns).counter.getD 0 = s.counter.getD 0 + Fintype.card ι ↔
      Machine.Along step Undisturbed s turns) := by
  have hbounded : Bounded (s.counter.getD 0) s := bounded_run hstart []
  have hexact : Exact (s.counter.getD 0) s := by
    have hnone : written s = 0 := Finset.sum_eq_zero fun i _ => by rw [hstart]; rfl
    exact ⟨by simp [hnone], fun i hi => by rw [hstart] at hi; cases hi⟩
  have hiff := Machine.run_iff_along (I := Bounded (s.counter.getD 0))
    (fun _ t h => bounded_step t h) (fun _ t h => exact_step_iff t h) hbounded turns
  rw [and_iff_right hexact] at hiff
  rw [← hiff]
  constructor
  · intro htotal
    have hall := done_of_total hstart turns htotal
    refine ⟨by rw [htotal, (written_eq_card_iff _).mpr hall], fun i hi => ?_⟩
    rw [hall i] at hi
    cases hi
  · intro hfinally
    have hcard : written (Machine.run step s turns) = Fintype.card ι := by
      refine (written_eq_card_iff _).mpr fun i => ?_
      obtain ⟨ok, hok⟩ := hdone i
      cases ok with
      | true => exact hok
      | false => exact absurd hok (hfinally.kept i)
    rw [hfinally.counter, hcard]

end Count

end SharedCounter
