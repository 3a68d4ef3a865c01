import Mathlib.Data.List.Nodup
import Mathlib.Data.PEquiv

/-!
# Tables with two unique columns

A table that maps one thing to another keeps both sides unique: no key occurs twice, and no value.
Such a table is a partial bijection, and what the database does to its rows is what happens to the
bijection.

`one` is the query that expects exactly one row. On a unique column it cannot find several.

## Main definitions

* `Table` — the rows, with both columns unique
* `Table.toPEquiv` — the partial bijection
* `add`, `keep` — a pair is added, and pairs are dropped

## Main results

* `Table.one_filter_key` — the query by a unique column
* `Table.toPEquiv_insert`, `Table.toPEquiv_deleteWhere` — what an insert and a delete mean
-/

namespace Tables

variable {ρ κ ν : Type}

/-! ### Queries -/

/-- Why a query for one row fails. -/
inductive QueryError
  | noResultFound
  | multipleResultsFound
  deriving DecidableEq, Repr

/-- The only row. -/
def one : List ρ → Except QueryError ρ
  | [] => .error .noResultFound
  | [row] => .ok row
  | _ :: _ :: _ => .error .multipleResultsFound

/-- Rows that a unique column tells apart: a query by that column finds one row at most. -/
theorem one_filter_eq [DecidableEq κ] {key : ρ → κ} {rows : List ρ} (h : (rows.map key).Nodup)
    (k : κ) : one (rows.filter (key · = k)) =
      (rows.find? (key · = k)).elim (.error .noResultFound) .ok := by
  induction rows with
  | nil => rfl
  | cons row rows ih =>
    rw [List.map_cons, List.nodup_cons] at h
    by_cases hk : key row = k
    · have hrest : rows.filter (key · = k) = [] := by
        refine List.filter_eq_nil_iff.mpr fun row' hrow' hk' => h.1 ?_
        rw [hk, ← of_decide_eq_true hk']
        exact List.mem_map_of_mem hrow'
      simp [hk, hrest, one]
    · simpa [hk] using ih h.2

/-- A row is found by its unique column. -/
theorem find?_eq_some_iff_mem [DecidableEq κ] {key : ρ → κ} {rows : List ρ}
    (h : (rows.map key).Nodup) {k : κ} {row : ρ} :
    rows.find? (key · = k) = some row ↔ row ∈ rows ∧ key row = k := by
  constructor
  · intro hfind
    exact ⟨List.mem_of_find?_eq_some hfind, by simpa using List.find?_some hfind⟩
  · rintro ⟨hmem, rfl⟩
    cases hfind : rows.find? (key · = key row) with
    | none =>
      have hne := List.find?_eq_none.mp hfind row hmem
      simp at hne
    | some row' =>
      have hkey : key row' = key row := by simpa using List.find?_some hfind
      rw [List.inj_on_of_nodup_map h (List.mem_of_find?_eq_some hfind) hmem hkey]

/-! ### Partial bijections -/

section Bijections

variable (f : κ ≃. ν)

/-- A pair is added, unless one of its sides is taken. -/
def add [DecidableEq κ] [DecidableEq ν] (k : κ) (v : ν) : κ ≃. ν :=
  if h : f k = none ∧ f.symm v = none then
    { toFun := Function.update f k (some v)
      invFun := Function.update f.symm v (some k)
      inv := fun a b => by
        have hiff : f.symm b = some a ↔ f a = some b := f.eq_some_iff
        by_cases ha : a = k
        · subst ha
          by_cases hb : b = v
          · subst hb
            simp
          · rw [Function.update_of_ne hb, hiff, h.1, Function.update_self]
            simp [Ne.symm hb]
        · by_cases hb : b = v
          · subst hb
            rw [Function.update_of_ne ha, ← hiff, h.2, Function.update_self]
            simp [Ne.symm ha]
          · rwa [Function.update_of_ne ha, Function.update_of_ne hb] }
  else f

/-- Only some pairs are kept. -/
def keep (p : κ → ν → Bool) : κ ≃. ν where
  toFun k := (f k).filter (p k)
  invFun v := (f.symm v).filter (p · v)
  inv k v := by
    simp only [Option.filter_eq_some_iff]
    exact and_congr_left fun _ => f.mem_iff_mem

variable {f}

theorem add_eq_some_iff [DecidableEq κ] [DecidableEq ν] {k k' : κ} {v v' : ν} (hk : f k = none)
    (hv : f.symm v = none) : add f k v k' = some v' ↔ f k' = some v' ∨ k' = k ∧ v' = v := by
  rw [add, dif_pos ⟨hk, hv⟩]
  show Function.update f k (some v) k' = some v' ↔ _
  by_cases h : k' = k
  · subst h
    simp [hk, eq_comm]
  · rw [Function.update_of_ne h]
    simp [h]

theorem add_of_taken [DecidableEq κ] [DecidableEq ν] {k : κ} {v : ν}
    (h : ¬ (f k = none ∧ f.symm v = none)) : add f k v = f := dif_neg h

theorem keep_eq_some_iff {p : κ → ν → Bool} {k : κ} {v : ν} :
    keep f p k = some v ↔ f k = some v ∧ p k v = true := Option.filter_eq_some_iff

end Bijections

/-! ### Tables -/

/-- Rows with two unique columns. -/
structure Table (key : ρ → κ) (value : ρ → ν) where
  rows : List ρ
  keys : (rows.map key).Nodup
  values : (rows.map value).Nodup

namespace Table

variable {key : ρ → κ} {value : ρ → ν}

/-- No rows. -/
def empty : Table key value := ⟨[], .nil, .nil⟩

variable (T : Table key value)

/-- A row is inserted, unless one of its columns is taken. -/
def insert [DecidableEq κ] [DecidableEq ν] (row : ρ) : Option (Table key value) :=
  if h : key row ∉ T.rows.map key ∧ value row ∉ T.rows.map value then
    some {
      rows := T.rows.concat row
      keys := by simpa using List.nodup_append.mpr ⟨T.keys, by simp, by
        rintro k hk _ hrow rfl
        exact h.1 (List.mem_singleton.mp hrow ▸ hk)⟩
      values := by simpa using List.nodup_append.mpr ⟨T.values, by simp, by
        rintro v hv _ hrow rfl
        exact h.2 (List.mem_singleton.mp hrow ▸ hv)⟩ }
  else none

/-- Some rows are deleted. -/
def deleteWhere (p : ρ → Bool) : Table key value where
  rows := T.rows.filter (!p ·)
  keys := T.keys.sublist (List.filter_sublist.map key)
  values := T.values.sublist (List.filter_sublist.map value)

/-- The row of a key. -/
def lookup [DecidableEq κ] (k : κ) : Option ρ := T.rows.find? (key · = k)

/-- The row of a value. -/
def lookupValue [DecidableEq ν] (v : ν) : Option ρ := T.rows.find? (value · = v)

theorem nodup_rows : T.rows.Nodup := T.keys.of_map

variable {T}

theorem lookup_eq_some_iff [DecidableEq κ] {k : κ} {row : ρ} :
    T.lookup k = some row ↔ row ∈ T.rows ∧ key row = k := find?_eq_some_iff_mem T.keys

theorem lookupValue_eq_some_iff [DecidableEq ν] {v : ν} {row : ρ} :
    T.lookupValue v = some row ↔ row ∈ T.rows ∧ value row = v := find?_eq_some_iff_mem T.values

/-- A query by the key. -/
theorem one_filter_key [DecidableEq κ] (k : κ) : one (T.rows.filter (key · = k)) =
    (T.lookup k).elim (.error .noResultFound) .ok := one_filter_eq T.keys k

variable [DecidableEq κ] [DecidableEq ν] (T)

/-- The partial bijection from the keys to the values. -/
def toPEquiv : κ ≃. ν where
  toFun k := (T.lookup k).map value
  invFun v := (T.lookupValue v).map key
  inv k v := by
    simp only [Option.map_eq_some_iff, lookup_eq_some_iff, lookupValue_eq_some_iff]
    exact exists_congr fun row => by tauto

variable {T}

theorem toPEquiv_apply (k : κ) : T.toPEquiv k = (T.lookup k).map value := rfl

theorem toPEquiv_symm_apply (v : ν) : T.toPEquiv.symm v = (T.lookupValue v).map key := rfl

theorem toPEquiv_eq_some_iff {k : κ} {v : ν} :
    T.toPEquiv k = some v ↔ ∃ row ∈ T.rows, key row = k ∧ value row = v := by
  rw [toPEquiv_apply, Option.map_eq_some_iff]
  simp only [lookup_eq_some_iff, and_assoc]

/-- If the unique columns are all there is to a row, the bijection has the pairs of the rows. -/
theorem toPEquiv_entry_iff (row : ρ)
    (hext : ∀ row row', key row = key row' → value row = value row' → row = row') :
    T.toPEquiv (key row) = some (value row) ↔ row ∈ T.rows := by
  rw [toPEquiv_eq_some_iff]
  constructor
  · rintro ⟨row', hrow', hkey, hvalue⟩
    rwa [← hext row' row hkey hvalue]
  · exact fun hrow => ⟨row, hrow, rfl, rfl⟩

theorem toPEquiv_eq_none_iff {k : κ} : T.toPEquiv k = none ↔ k ∉ T.rows.map key := by
  rw [toPEquiv_apply, Option.map_eq_none_iff, lookup, List.find?_eq_none]
  simp

theorem toPEquiv_symm_eq_none_iff {v : ν} : T.toPEquiv.symm v = none ↔ v ∉ T.rows.map value := by
  rw [toPEquiv_symm_apply, Option.map_eq_none_iff, lookupValue, List.find?_eq_none]
  simp

/-- A row is inserted exactly if neither side of it is taken. -/
theorem insert_eq_none_iff {row : ρ} : T.insert row = none ↔
    ¬ (T.toPEquiv (key row) = none ∧ T.toPEquiv.symm (value row) = none) := by
  rw [toPEquiv_eq_none_iff, toPEquiv_symm_eq_none_iff, insert]
  split_ifs with h
  · exact iff_of_false (by simp) (not_not.mpr h)
  · exact iff_of_true rfl h

/-- The rows after an insert. -/
theorem mem_insert {row row' : ρ} {T' : Table key value} (h : T.insert row = some T') :
    row' ∈ T'.rows ↔ row' ∈ T.rows ∨ row' = row := by
  rw [insert] at h
  split_ifs at h
  cases h
  simp

/-- **An insert adds a pair**, or nothing. -/
theorem toPEquiv_insert (row : ρ) :
    ((T.insert row).getD T).toPEquiv = add T.toPEquiv (key row) (value row) := by
  by_cases hfree : T.toPEquiv (key row) = none ∧ T.toPEquiv.symm (value row) = none
  · obtain ⟨T', hT'⟩ := Option.ne_none_iff_exists'.mp
      (fun hnone => insert_eq_none_iff.mp hnone hfree)
    rw [hT', Option.getD_some]
    refine PEquiv.ext fun k => Option.ext fun v => ?_
    rw [add_eq_some_iff hfree.1 hfree.2, toPEquiv_eq_some_iff, toPEquiv_eq_some_iff]
    simp only [mem_insert hT', or_and_right, exists_or, exists_eq_left]
    rw [@eq_comm _ k, @eq_comm _ v]
  · rw [insert_eq_none_iff.mpr hfree, Option.getD_none, add_of_taken hfree]

/-- **A delete drops pairs.** -/
theorem toPEquiv_deleteWhere {p : ρ → Bool} {q : κ → ν → Bool}
    (h : ∀ row, q (key row) (value row) = !p row) :
    (T.deleteWhere p).toPEquiv = keep T.toPEquiv q := by
  refine PEquiv.ext fun k => Option.ext fun v => ?_
  rw [keep_eq_some_iff, toPEquiv_eq_some_iff, toPEquiv_eq_some_iff]
  constructor
  · rintro ⟨row, hrow, rfl, rfl⟩
    obtain ⟨hrow, hkept⟩ := List.mem_filter.mp hrow
    exact ⟨⟨row, hrow, rfl, rfl⟩, (h row).trans hkept⟩
  · rintro ⟨⟨row, hrow, rfl, rfl⟩, hkept⟩
    exact ⟨row, List.mem_filter.mpr ⟨hrow, (h row).symm.trans hkept⟩, rfl, rfl⟩

end Table

end Tables
