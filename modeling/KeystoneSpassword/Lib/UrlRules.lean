import Mathlib.Data.List.Basic
import Mathlib.Data.List.Pairwise

/-!
# URL rules

A web framework is given rules such as `/users/<string:user_id>/black` and finds the one that a
path fits. A rule is a list of segments, each a literal or a variable; a path fits it if it has as
many segments, the literals agree, and no variable is empty. The values of the variables are handed
to the handler by name.

## Matching and building

`urlFor` writes values into a rule and `matchUrl` reads them out of a path, and they are inverse:
a path fits a rule with certain values exactly if it is what `urlFor` builds from them. A value can
stand in a path as long as it is not empty and has no slash.

## Order of the rules

Frameworks differ in which rule they try first. Two rules `clash` if some segment tells them apart,
and in a table of rules that clash the order makes no difference.

## Main results

* `matchUrl_eq_some_iff` — matching is the inverse of building
* `route_eq_some_iff` — a table of rules that clash finds the rule that fits
-/

namespace UrlRules

/-! ### Paths -/

/-- The parts between the slashes. -/
def segments (url : String) : List String := (url.toList.splitOn '/').map String.ofList

/-- The parts with slashes between them. -/
def join (segs : List String) : String :=
  String.ofList (['/'].intercalate (segs.map String.toList))

theorem segments_ne_nil (url : String) : segments url ≠ [] := by
  simp [segments, List.splitOn_ne_nil]

@[simp] theorem join_segments (url : String) : join (segments url) = url := by
  have hchars : (segments url).map String.toList = url.toList.splitOn '/' := by
    simp [segments, Function.comp_def]
  rw [join, hchars, List.intercalate_splitOn, String.ofList_toList]

theorem segments_join {segs : List String} (hslash : ∀ s ∈ segs, '/' ∉ s.toList)
    (hne : segs ≠ []) : segments (join segs) = segs := by
  have hchars : (['/'].intercalate (segs.map String.toList)).splitOn '/' =
      segs.map String.toList := by
    refine List.splitOn_intercalate '/' (fun l hl => ?_) (by simpa using hne)
    obtain ⟨s, hs, rfl⟩ := List.mem_map.mp hl
    exact hslash s hs
  rw [segments, join, String.toList_ofList, hchars, List.map_map]
  simp [Function.comp_def]

/-- The parts of a list do not contain what separates them. -/
theorem not_mem_of_mem_splitOn {α : Type} [DecidableEq α] {a : α} {xs l : List α}
    (h : l ∈ xs.splitOn a) : a ∉ l := by
  induction xs generalizing l with
  | nil =>
    rw [List.splitOn_nil, List.mem_singleton] at h
    simp [h]
  | cons x xs ih =>
    rw [List.splitOn_cons_eq_if_modifyHead] at h
    split at h
    · rcases List.mem_cons.mp h with rfl | h
      · exact List.not_mem_nil
      · exact ih h
    · rename_i hx
      obtain ⟨head, tail, hparts⟩ := List.exists_cons_of_ne_nil (List.splitOn_ne_nil a xs)
      rw [hparts, List.modifyHead_cons] at h
      rcases List.mem_cons.mp h with rfl | h
      · have hhead : a ∉ head := ih (hparts ▸ List.mem_cons_self)
        intro hmem
        rcases List.mem_cons.mp hmem with rfl | hmem
        · simp at hx
        · exact hhead hmem
      · exact ih (hparts ▸ List.mem_cons_of_mem _ h)

/-- No part has a slash in it. -/
theorem not_mem_of_mem_segments {url s : String} (h : s ∈ segments url) : '/' ∉ s.toList := by
  obtain ⟨l, hl, rfl⟩ := List.mem_map.mp h
  rw [String.toList_ofList]
  exact not_mem_of_mem_splitOn hl

/-! ### Rules -/

/-- A part of a rule. -/
inductive Segment
  | lit (s : String)
  | var (name : String)
  deriving DecidableEq, Repr

/-- A part as it is written: `<string:name>` is a variable. -/
def Segment.parse (s : String) : Segment :=
  if "<string:".toList <+: s.toList ∧ s.toList.getLast? = some '>' then
    .var (String.ofList ((s.toList.drop 8).dropLast))
  else .lit s

/-- The parts of a rule. -/
def pattern (rule : String) : List Segment := (segments rule).map Segment.parse

/-- The values of the variables, by name, if the parts fit. -/
def matchSegments : List Segment → List String → Option (List (String × String))
  | [], [] => some []
  | .lit s :: p, x :: xs => if x = s then matchSegments p xs else none
  | .var name :: p, x :: xs =>
    if x = "" then none else (matchSegments p xs).map ((name, x) :: ·)
  | [], _ :: _ | _ :: _, [] => none

/-- The parts with values for the variables. -/
def fill : List Segment → List (String × String) → List String
  | [], _ => []
  | .lit s :: p, args => s :: fill p args
  | .var _ :: p, (_, x) :: args => x :: fill p args
  | .var _ :: p, [] => "" :: fill p []

/-- There is a value for each variable, and it can stand in a path. -/
def Fits : List Segment → List (String × String) → Prop
  | [], args => args = []
  | .lit _ :: p, args => Fits p args
  | .var name :: p, (n, x) :: args => n = name ∧ x ≠ "" ∧ '/' ∉ x.toList ∧ Fits p args
  | .var _ :: _, [] => False

/-- The values of the variables, if the path fits the rule. -/
def matchUrl (rule url : String) : Option (List (String × String)) :=
  matchSegments (pattern rule) (segments url)

/-- The path of a rule with values for the variables. -/
def urlFor (rule : String) (args : List (String × String)) : String :=
  join (fill (pattern rule) args)

theorem matchSegments_eq_some_iff {p : List Segment} {xs : List String}
    {args : List (String × String)} (hslash : ∀ x ∈ xs, '/' ∉ x.toList) :
    matchSegments p xs = some args ↔ Fits p args ∧ xs = fill p args := by
  induction p generalizing xs args with
  | nil => cases xs <;> cases args <;> simp [matchSegments, Fits, fill]
  | cons segment p ih =>
    cases xs with
    | nil => cases segment <;> rcases args with _ | ⟨⟨n, x⟩, args⟩ <;> simp [matchSegments, fill]
    | cons x xs =>
      have htail : ∀ y ∈ xs, '/' ∉ y.toList := fun y hy => hslash y (List.mem_cons_of_mem _ hy)
      cases segment with
      | lit s =>
        simp only [matchSegments, Fits, fill, List.cons.injEq]
        split
        · rename_i heq
          rw [ih htail]
          simp [heq]
        · rename_i hne
          simp [hne]
      | var name =>
        have hhead : '/' ∉ x.toList := hslash x List.mem_cons_self
        rcases args with _ | ⟨⟨n, y⟩, args⟩
        · simp only [matchSegments, Fits, fill, false_and, iff_false]
          split <;> simp
        · simp only [matchSegments, Fits, fill, List.cons.injEq]
          split
          · rename_i hempty
            subst hempty
            constructor
            · simp
            · rintro ⟨⟨-, hne, -⟩, rfl, -⟩
              exact absurd rfl hne
          · rename_i hne
            rw [Option.map_eq_some_iff]
            constructor
            · rintro ⟨args', hargs', heq⟩
              cases heq
              obtain ⟨hfits, hfill⟩ := (ih htail).mp hargs'
              exact ⟨⟨rfl, hne, hhead, hfits⟩, rfl, hfill⟩
            · rintro ⟨⟨rfl, -, -, hfits⟩, rfl, hfill⟩
              exact ⟨args, (ih htail).mpr ⟨hfits, hfill⟩, rfl⟩

/-- The parts of a filled rule have no slash in them. -/
theorem not_mem_of_mem_fill {p : List Segment} {args : List (String × String)}
    (hp : ∀ s, .lit s ∈ p → '/' ∉ s.toList) (hfits : Fits p args) {x : String}
    (hx : x ∈ fill p args) : '/' ∉ x.toList := by
  induction p generalizing args with
  | nil => cases hx
  | cons segment p ih =>
    have htail : ∀ s, .lit s ∈ p → '/' ∉ s.toList := fun s hs => hp s (List.mem_cons_of_mem _ hs)
    cases segment with
    | lit s =>
      rcases List.mem_cons.mp hx with rfl | hx
      · exact hp x List.mem_cons_self
      · exact ih htail hfits hx
    | var name =>
      rcases args with _ | ⟨⟨n, y⟩, args⟩
      · exact hfits.elim
      · obtain ⟨-, -, hslash, hfits⟩ := hfits
        rcases List.mem_cons.mp hx with rfl | hx
        · exact hslash
        · exact ih htail hfits hx

theorem lit_of_mem_pattern {rule s : String} (h : .lit s ∈ pattern rule) : '/' ∉ s.toList := by
  obtain ⟨part, hpart, hparse⟩ := List.mem_map.mp h
  rw [Segment.parse] at hparse
  split at hparse
  · cases hparse
  · rw [← Segment.lit.inj hparse]
    exact not_mem_of_mem_segments hpart

theorem fill_ne_nil {p : List Segment} (hp : p ≠ []) (args : List (String × String)) :
    fill p args ≠ [] := by
  rcases p with _ | ⟨_ | _, p⟩
  · exact absurd rfl hp
  · simp [fill]
  · rcases args with _ | ⟨⟨n, x⟩, args⟩ <;> simp [fill]

/-- **A path fits a rule exactly if it is built from it**, with the values that are read out. -/
theorem matchUrl_eq_some_iff {rule url : String} {args : List (String × String)} :
    matchUrl rule url = some args ↔ Fits (pattern rule) args ∧ url = urlFor rule args := by
  rw [matchUrl, matchSegments_eq_some_iff fun _ => not_mem_of_mem_segments]
  refine and_congr_right fun hfits => ?_
  have hne : fill (pattern rule) args ≠ [] :=
    fill_ne_nil (by simpa [pattern] using segments_ne_nil rule) args
  have hslash : ∀ x ∈ fill (pattern rule) args, '/' ∉ x.toList := fun x hx =>
    not_mem_of_mem_fill (fun s => lit_of_mem_pattern) hfits hx
  constructor
  · intro h
    rw [urlFor, ← h, join_segments]
  · rintro rfl
    exact segments_join hslash hne

/-! ### Tables of rules -/

/-- A segment tells the rules apart, or one of them is longer. -/
def clash : List Segment → List Segment → Bool
  | [], [] => false
  | [], _ :: _ | _ :: _, [] => true
  | .lit s :: p, .lit t :: q => s != t || clash p q
  | .var _ :: p, _ :: q | .lit _ :: p, .var _ :: q => clash p q

/-- Rules that clash fit no common path. -/
theorem not_both_of_clash {p q : List Segment} {xs : List String} {a b : List (String × String)}
    (h : clash p q = true) (hp : matchSegments p xs = some a) :
    matchSegments q xs ≠ some b := by
  induction p generalizing q xs a b with
  | nil =>
    rcases xs with _ | ⟨x, xs⟩
    · rcases q with _ | ⟨segment, q⟩
      · cases h
      · simp [matchSegments]
    · cases hp
  | cons segment p ih =>
    rcases xs with _ | ⟨x, xs⟩
    · cases segment <;> cases hp
    rcases q with _ | ⟨segment', q⟩
    · simp [matchSegments]
    have htail : ∃ a', matchSegments p xs = some a' := by
      cases segment with
      | lit s =>
        rw [matchSegments] at hp
        split at hp
        · exact ⟨a, hp⟩
        · cases hp
      | var name =>
        rw [matchSegments] at hp
        split at hp
        · cases hp
        · obtain ⟨a', ha', -⟩ := Option.map_eq_some_iff.mp hp
          exact ⟨a', ha'⟩
    obtain ⟨a', ha'⟩ := htail
    cases segment' with
    | lit t =>
      rw [matchSegments]
      split
      · rename_i hxt
        cases segment with
        | lit s =>
          rw [matchSegments] at hp
          split at hp
          · rename_i hxs
            have hclash : clash p q = true := by simpa [clash, hxt ▸ hxs] using h
            exact ih hclash ha'
          · cases hp
        | var name => exact ih h ha'
      · simp
    | var name =>
      have hclash : clash p q = true := by cases segment <;> exact h
      rw [matchSegments]
      split
      · simp
      · rw [ne_eq, Option.map_eq_some_iff]
        rintro ⟨b', hb', -⟩
        exact ih hclash ha' hb'

section Route

variable {ρ : Type}

/-- The first rule that fits, and the values of its variables. -/
def route (table : List (String × ρ)) (url : String) : Option (ρ × List (String × String)) :=
  table.findSome? fun entry => (matchUrl entry.1 url).map (entry.2, ·)

/-- **A table of rules that clash finds the rule that fits**, whatever the order. -/
theorem route_eq_some_iff {table : List (String × ρ)}
    (h : table.Pairwise fun e e' => clash (pattern e.1) (pattern e'.1) = true) {url : String}
    {r : ρ} {args : List (String × String)} :
    route table url = some (r, args) ↔
      ∃ rule, (rule, r) ∈ table ∧ matchUrl rule url = some args := by
  induction table with
  | nil => simp [route]
  | cons entry table ih =>
    obtain ⟨hentry, htable⟩ := List.pairwise_cons.mp h
    rw [route, List.findSome?_cons]
    cases hmatch : matchUrl entry.1 url with
    | none =>
      show route table url = some (r, args) ↔ _
      rw [ih htable]
      refine exists_congr fun rule => ?_
      rw [List.mem_cons]
      constructor
      · exact fun ⟨hmem, hrule⟩ => ⟨.inr hmem, hrule⟩
      · rintro ⟨rfl | hmem, hrule⟩
        · rw [hmatch] at hrule
          cases hrule
        · exact ⟨hmem, hrule⟩
    | some args' =>
      constructor
      · intro heq
        cases heq
        exact ⟨entry.1, List.mem_cons_self, hmatch⟩
      · rintro ⟨rule, hmem, hrule⟩
        rcases List.mem_cons.mp hmem with rfl | hmem
        · rw [hmatch] at hrule
          cases hrule
          rfl
        · exact absurd hrule (not_both_of_clash (hentry _ hmem) hmatch)

end Route

end UrlRules
