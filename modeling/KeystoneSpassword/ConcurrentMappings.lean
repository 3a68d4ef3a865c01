import KeystoneSpassword.IdRegistry

/-!
# Concurrent calls of the identity mapping

Several servers ask for the public id of one user, find none, and create one. The table takes one of
the new rows, and the servers whose row it refuses look for the one that was in the way. Between the
refusal and the search others may run, and may even delete that row.

What a call has been told is in the history of the table, which only grows. So a call can rely on it
whatever the others do, and as long as no mapping of the user is deleted, everybody is told the same
id.

## Main definitions

* `Directory.Accounted` — the table and its history agree
* `MappingCall.post` — what an answer says about the history

## Main results

* `concurrent_mappings_agree`
-/

namespace KeystoneSpassword

open StateProgram Interleaving Process Tables

variable {d d' : Directory} {e : LocalEntity} {id : String} {p : MappingPool}

/-! ### The history of the table -/

/-- The history only grows. -/
def Directory.Later (d d' : Directory) : Prop := d.log <:+ d'.log

instance : IsPreorder Directory Directory.Later where
  refl d := List.suffix_refl d.log
  trans _ _ _ h h' := List.IsSuffix.trans h h'

/-- The history says which rows there are: every row was mapped, and whatever was mapped is there or
was unmapped. -/
structure Directory.Accounted (d : Directory) : Prop where
  mapped : ∀ row ∈ d.mappings.rows, .mapped row ∈ d.log
  unmapped : ∀ row, .mapped row ∈ d.log → row ∈ d.mappings.rows ∨ .unmapped row ∈ d.log

theorem Directory.accounted_initial (groups : List Group) : (Directory.initial groups).Accounted :=
  ⟨fun _ h => absurd h List.not_mem_nil, fun _ h => absurd h List.not_mem_nil⟩

theorem Directory.Accounted.insert (h : d.Accounted) {row : IDMapping}
    {mappings : Table IDMapping.entity IDMapping.publicId}
    (hinsert : d.mappings.insert row = some mappings) :
    Directory.Accounted { d with mappings, log := .mapped row :: d.log } := by
  constructor
  · intro row' hrow'
    rcases (Table.mem_insert hinsert).mp hrow' with hrow' | rfl
    · exact List.mem_cons_of_mem _ (h.mapped row' hrow')
    · exact List.mem_cons_self
  · intro row' hrow'
    rcases List.mem_cons.mp hrow' with heq | hrow'
    · cases heq
      exact .inl ((Table.mem_insert hinsert).mpr (.inr rfl))
    · exact (h.unmapped row' hrow').imp (fun hmem => (Table.mem_insert hinsert).mpr (.inl hmem))
        (List.mem_cons_of_mem _)

theorem Directory.Accounted.deleteWhere (h : d.Accounted) (q : IDMapping → Bool) :
    Directory.Accounted { d with
      mappings := d.mappings.deleteWhere q
      log := (d.mappings.rows.filter q).map MappingEvent.unmapped ++ d.log } := by
  constructor
  · intro row hrow
    exact List.mem_append_right _ (h.mapped row (List.mem_filter.mp hrow).1)
  · intro row hrow
    have hmapped : .mapped row ∈ d.log := by
      rcases List.mem_append.mp hrow with hrow | hrow
      · obtain ⟨_, -, heq⟩ := List.mem_map.mp hrow
        cases heq
      · exact hrow
    rcases h.unmapped row hmapped with hmem | hgone
    · by_cases hq : q row = true
      · exact .inr (List.mem_append_left _ (List.mem_map_of_mem (List.mem_filter.mpr ⟨hmem, hq⟩)))
      · exact .inl (List.mem_filter.mpr ⟨hmem, by simpa using hq⟩)
    · exact .inr (List.mem_append_right _ hgone)

/-! ### What the steps know -/

section Rules

variable {α β : Type} {Q : Except QueryError β → Directory → Prop}

/-- From a moment on at which the database is `d`, the steps keep the table and its history in
agreement, and the answer is in `Q`, whatever other calls do. -/
abbrev Knows (Q : Except QueryError α → Directory → Prop) (p : Driving α) (d : Directory) : Prop :=
  p.Sound Directory.Accounted Directory.Later (fun _ => True) (fun _ _ => True) Q d

/-- A query reads a state that is accounted for. -/
theorem knows_query {f : Directory → α} {k : α → Driving β}
    (h : ∀ d', d.Later d' → d'.Accounted → Knows Q (k (f d')) d') :
    Knows Q (Mapping.query f >>= k) d := by
  rw [Knows, sound_bind, Mapping.query, sound_atomic]
  exact fun d' hlater haccounted _ =>
    ⟨haccounted, refl_of _ d', trivial, h d' hlater haccounted⟩

/-- Rows are deleted, and the history says so. -/
theorem knows_deleteRows {q : IDMapping → Bool} {k : Unit → Driving β}
    (h : ∀ d', Knows Q (k ()) d') : Knows Q (Mapping.deleteRows q >>= k) d := by
  rw [Knows, sound_bind, Mapping.deleteRows, sound_atomic]
  exact fun d' _ haccounted _ =>
    ⟨haccounted.deleteWhere q, List.suffix_append _ _, trivial, h _⟩

/-- A row is inserted, and the history says so, or one of its sides is taken. -/
theorem knows_insertRow {row : IDMapping} {k : Bool → Driving β}
    (hinserted : ∀ d', .mapped row ∈ d'.log → Knows Q (k true) d')
    (htaken : ∀ d', (∃ row', .mapped row' ∈ d'.log ∧
      (row'.entity = row.entity ∨ row'.publicId = row.publicId)) → Knows Q (k false) d') :
    Knows Q (Mapping.insertRow row >>= k) d := by
  rw [Knows, sound_bind, Mapping.insertRow, sound_atomic]
  intro d' _ haccounted _
  have hrun := Mapping.run_insertRow row d'
  rw [Mapping.insertRow, exec_atomic] at hrun
  cases hinsert : d'.mappings.insert row with
  | some mappings =>
    rw [hinsert] at hrun
    rw [final_of_run_ok hrun, answer_of_run_ok hrun]
    exact ⟨haccounted.insert hinsert, List.suffix_cons _ _, trivial,
      hinserted _ List.mem_cons_self⟩
  | none =>
    rw [hinsert] at hrun
    rw [final_of_run_ok hrun, answer_of_run_ok hrun]
    refine ⟨haccounted, refl_of _ d', trivial, htaken d' ?_⟩
    rw [Table.insert_eq_none_iff, Table.toPEquiv_eq_none_iff, Table.toPEquiv_symm_eq_none_iff,
      not_and_or, not_not, not_not] at hinsert
    rcases hinsert with hmem | hmem
    · obtain ⟨row', hrow', hentity⟩ := List.mem_map.mp hmem
      exact ⟨row', haccounted.mapped row' hrow', .inl hentity⟩
    · obtain ⟨row', hrow', hid⟩ := List.mem_map.mp hmem
      exact ⟨row', haccounted.mapped row' hrow', .inr hid⟩

end Rules

/-! ### What the calls return -/

/-- A public id that a call has found: the mapping was made. -/
def Found (e : LocalEntity) (d : Directory) (id : Option String) : Prop :=
  ∀ id', id = some id' → .mapped (e.row id') ∈ d.log

/-- The entity has no mapping: none of those that were made is left. -/
def Unmapped (e : LocalEntity) (d : Directory) : Prop :=
  ∀ row, .mapped row ∈ d.log → row.entity = e → .unmapped row ∈ d.log

/-- The search for the public id: for a user it ends with an id that was mapped, or at a moment at
which the user has no mapping. -/
theorem knows_getPublicId {Q : Except QueryError (Option String) → Directory → Prop}
    (h : ∀ d' id, d.Later d' →
      (e.entityType = .user → Found e d' id ∧ (id = none → Unmapped e d')) → Q (.ok id) d') :
    Knows Q (Mapping.getPublicId e) d := by
  rw [Mapping.getPublicId]
  cases htype : e.entityType with
  | user =>
    refine knows_query fun d' hlater haccounted => ?_
    rw [Mapping.one_mappings]
    cases hrow : d'.mappings.lookup e with
    | some row =>
      obtain ⟨hmem, rfl⟩ := Table.lookup_eq_some_iff.mp hrow
      refine h d' (some row.publicId) hlater fun _ => ⟨fun id hid => ?_, by simp⟩
      cases hid
      exact haccounted.mapped row hmem
    | none =>
      refine h d' none hlater fun _ => ⟨by simp [Found], fun _ row hmapped hentity => ?_⟩
      refine (haccounted.unmapped row hmapped).resolve_left fun hmem => ?_
      rw [Table.lookup_eq_some_iff.mpr ⟨hmem, hentity⟩] at hrow
      cases hrow
  | group =>
    have hgroup {d' : Directory} (hlater : d.Later d') (id : Option String) : Q (.ok id) d' :=
      h d' id hlater fun huser => by simp [htype] at huser
    refine knows_query fun d' hlater _ => ?_
    cases one (d'.groups.filter fun g => g.name = e.localId ∧ g.domainId = e.domainId) with
    | ok group => exact hgroup hlater _
    | error error =>
      cases error with
      | multipleResultsFound => exact hgroup hlater _
      | noResultFound =>
        refine knows_query fun d'' hlater' _ => ?_
        rw [Mapping.one_mappings]
        cases d''.mappings.lookup e <;> exact hgroup (trans_of _ hlater hlater') _

/-- The id was taken by a row of somebody else. -/
def TakenByOther (e : LocalEntity) (id : String) (d : Directory) : Prop :=
  ∃ row, .mapped row ∈ d.log ∧ row.publicId = id ∧ row.entity ≠ e

/-- Some mapping of the entity was deleted. -/
def Forgotten (e : LocalEntity) (d : Directory) : Prop :=
  ∃ row, .unmapped row ∈ d.log ∧ row.entity = e

/-- The creation: for a user it ends with an id that was mapped. If it ends with none, then the id
was taken by somebody else, or a mapping of the user was deleted meanwhile. -/
theorem knows_createIdMapping (generated : String) (publicId : Option String)
    {Q : Except QueryError (Option String) → Directory → Prop}
    (h : ∀ d' id, (e.entityType = .user → Found e d' id ∧
      (id = none → TakenByOther e (publicId.getD generated) d' ∨ Forgotten e d')) →
        Q (.ok id) d') :
    Knows Q (Mapping.createIdMapping generated e publicId) d := by
  refine knows_insertRow (fun d' hmapped => ?_) fun d' htaken => ?_
  · refine h d' _ fun _ => ⟨fun id hid => ?_, by simp⟩
    cases hid
    exact hmapped
  · refine knows_getPublicId fun d'' id hlater hfound => h d'' id fun huser => ?_
    obtain ⟨hfound, hnone⟩ := hfound huser
    obtain ⟨row, hmapped, hrow⟩ := htaken
    have hmapped' : .mapped row ∈ d''.log := hlater.subset hmapped
    refine ⟨hfound, fun hid => ?_⟩
    by_cases hentity : row.entity = e
    · exact .inr ⟨row, hnone hid row hmapped' hentity, hentity⟩
    · exact .inl ⟨row, hmapped', hrow.resolve_left hentity, hentity⟩

/-- What an answer says about the history. -/
def MappingCall.Says (answer : MappingAnswer) (d : Directory) : MappingCall → Prop
  | .getPublicId e => e.entityType = .user → ∀ id, answer = .publicId id → Found e d id
  | .createIdMapping generated e publicId => e.entityType = .user → ∀ id, answer = .publicId id →
    Found e d id ∧ (id = none → TakenByOther e (publicId.getD generated) d ∨ Forgotten e d)
  | .getIdMapping id => ∀ row, answer = .row (some row) → row.publicId = id ∧ .mapped row ∈ d.log
  | .getDomainMappingList domainId => ∀ rows, answer = .rows rows →
    ∀ row ∈ rows, row.domainId = domainId ∧ .mapped row ∈ d.log
  | .deleteIdMapping _ | .purgeMappings _ | .setGroups _ => answer = .nothing

theorem Found.later {id : Option String} (h : Found e d id) (hlater : d.Later d') :
    Found e d' id := fun id' hid => hlater.subset (h id' hid)

theorem MappingCall.Says.later {answer : MappingAnswer} {call : MappingCall}
    (h : call.Says answer d) (hlater : d.Later d') : call.Says answer d' := by
  cases call with
  | getPublicId e => exact fun huser id hid => (h huser id hid).later hlater
  | createIdMapping generated e publicId =>
    intro huser id hid
    obtain ⟨hfound, hnone⟩ := h huser id hid
    refine ⟨hfound.later hlater, fun hid => (hnone hid).imp ?_ ?_⟩
    · exact fun ⟨row, hmapped, hrow⟩ => ⟨row, hlater.subset hmapped, hrow⟩
    · exact fun ⟨row, hunmapped, hrow⟩ => ⟨row, hlater.subset hunmapped, hrow⟩
  | getIdMapping id => exact fun row hrow => ⟨(h row hrow).1, hlater.subset (h row hrow).2⟩
  | getDomainMappingList domainId =>
    intro rows hrows row hrow
    exact ⟨(h rows hrows row hrow).1, hlater.subset (h rows hrows row hrow).2⟩
  | deleteIdMapping _ | purgeMappings _ | setGroups _ => exact h

/-- Every call returns, and its answer is true. -/
def MappingCall.post (call : MappingCall) (_origin : Directory)
    (a : Except QueryError MappingAnswer) (d : Directory) : Prop :=
  ∃ answer, a = .ok answer ∧ call.Says answer d

theorem MappingCall.knows (call : MappingCall) (d : Directory) :
    Knows (call.post d) call.process d := by
  cases call with
  | getPublicId e =>
    rw [Knows, process, sound_bind]
    refine knows_getPublicId fun d' id _ hfound => ⟨_, rfl, fun huser id' hid => ?_⟩
    cases hid
    exact (hfound huser).1
  | createIdMapping generated e publicId =>
    rw [Knows, process, sound_bind]
    refine knows_createIdMapping generated publicId fun d' id hfound =>
      ⟨_, rfl, fun huser id' hid => ?_⟩
    cases hid
    exact hfound huser
  | getIdMapping id =>
    refine knows_query fun d' _ haccounted => ⟨_, rfl, fun row hrow => ?_⟩
    have hlookup : d'.mappings.lookupValue id = some row := MappingAnswer.row.inj hrow
    obtain ⟨hmem, hid⟩ := Table.lookupValue_eq_some_iff.mp hlookup
    exact ⟨hid, haccounted.mapped row hmem⟩
  | getDomainMappingList domainId =>
    refine knows_query fun d' _ haccounted => ⟨_, rfl, fun rows hrows row hrow => ?_⟩
    cases hrows
    obtain ⟨hmem, hdomain⟩ := List.mem_filter.mp hrow
    exact ⟨of_decide_eq_true hdomain, haccounted.mapped row hmem⟩
  | deleteIdMapping publicId | purgeMappings filter =>
    exact knows_deleteRows fun d' => ⟨_, rfl, rfl⟩
  | setGroups groups =>
    rw [Knows, process, sound_bind, sound_atomic]
    exact fun d' _ haccounted _ =>
      ⟨⟨haccounted.mapped, haccounted.unmapped⟩, List.suffix_refl _, trivial, _, rfl, rfl⟩

theorem MappingPool.Reachable.sound (h : p.Reachable) :
    p.Sound Directory.Accounted Directory.Later (fun _ _ => True) (fun _ _ _ => True)
      (fun _ => MappingCall.post) := by
  obtain ⟨groups, turns, rfl⟩ := h
  refine Pool.Sound.run ⟨Directory.accounted_initial groups, by simp⟩ ?_
    (fun _ call d _ => call.knows d) (fun _ _ _ => trivial)
  rintro _ call origin a d d' hlater ⟨answer, ha, hanswer⟩
  exact ⟨answer, ha, hanswer.later hlater⟩

/-! ### Agreement -/

/-- A call is over, and has answered. -/
def MappingPool.Answered (p : MappingPool) (call : MappingCall)
    (a : Except QueryError MappingAnswer) : Prop :=
  ∃ origin, (⟨call, origin, .done a⟩ : Entry MappingCall QueryError Directory MappingAnswer) ∈
    p.entries

/-- Somebody has been told that this is the public id of the entity. -/
def MappingPool.Told (p : MappingPool) (e : LocalEntity) (id : String) : Prop :=
  p.Answered (.getPublicId e) (.ok (.publicId (some id))) ∨
    ∃ generated publicId, p.Answered (.createIdMapping generated e publicId)
      (.ok (.publicId (some id)))

theorem MappingPool.Told.mapped (hp : p.Reachable) (huser : e.entityType = .user)
    (h : p.Told e id) : .mapped (e.row id) ∈ p.state.log := by
  rcases h with ⟨origin, hmem⟩ | ⟨generated, publicId, origin, hmem⟩
  · obtain ⟨-, answer, ha, hanswer⟩ := hp.sound.of_mem hmem
    cases ha
    exact hanswer huser _ rfl id rfl
  · obtain ⟨-, answer, ha, hanswer⟩ := hp.sound.of_mem hmem
    cases ha
    exact (hanswer huser _ rfl).1 id rfl

/-- **Everybody is told the same id.** However the steps of the calls interleave, as long as no
mapping of the user is deleted: whoever has asked for or created the public id of the user has been
told the id that is in the table now, and a creation that has come back without an id was refused
because its id belonged to somebody else. -/
theorem concurrent_mappings_agree (hp : p.Reachable) (huser : e.entityType = .user)
    (hkept : ∀ row, row.entity = e → .unmapped row ∉ p.state.log) :
    (∀ id, p.Told e id → e.row id ∈ p.state.mappings.rows) ∧
      (∀ id id', p.Told e id → p.Told e id' → id = id') ∧
      ∀ generated publicId,
        p.Answered (.createIdMapping generated e publicId) (.ok (.publicId none)) →
          TakenByOther e (publicId.getD generated) p.state := by
  have hmem (id : String) (h : p.Told e id) : e.row id ∈ p.state.mappings.rows :=
    (hp.sound.state.unmapped _ (h.mapped hp huser)).resolve_right (hkept _ rfl)
  refine ⟨hmem, fun id id' h h' => ?_, fun generated publicId ⟨origin, hentry⟩ => ?_⟩
  · have hrow := List.inj_on_of_nodup_map p.state.mappings.keys (hmem id h) (hmem id' h') rfl
    exact congrArg IDMapping.publicId hrow
  · obtain ⟨-, answer, ha, hanswer⟩ := hp.sound.of_mem hentry
    cases ha
    refine ((hanswer huser _ rfl).2 rfl).resolve_right ?_
    exact fun ⟨row, hunmapped, hentity⟩ => hkept row hentity hunmapped

/-- A user of a directory. -/
def Sample.bob : LocalEntity := ⟨"default", "bob", .user⟩

/-- Two servers create a mapping for the same user. The second one is faster, and the first one
finds its row. -/
theorem concurrent_mappings_agree_two :
    let p : MappingPool := Machine.run MappingPool.turn ⟨.initial [], []⟩
      [.start (.createIdMapping "first" Sample.bob none),
        .start (.createIdMapping "second" Sample.bob none), .act 1, .act 0, .act 0]
    p.Answered (.createIdMapping "first" Sample.bob none) (.ok (.publicId (some "second"))) ∧
      p.Answered (.createIdMapping "second" Sample.bob none) (.ok (.publicId (some "second"))) ∧
      Sample.bob.row "second" ∈ p.state.mappings.rows ∧
      ∀ id, p.Told Sample.bob id → id = "second" := by
  intro p
  have hp : p.Reachable := ⟨[], _, rfl⟩
  have hfirst : p.Answered (.createIdMapping "first" Sample.bob none)
      (.ok (.publicId (some "second"))) := ⟨_, List.mem_of_getElem? (i := 0) rfl⟩
  have hsecond : p.Answered (.createIdMapping "second" Sample.bob none)
      (.ok (.publicId (some "second"))) := ⟨_, List.mem_of_getElem? (i := 1) rfl⟩
  have hkept : ∀ row, row.entity = Sample.bob → .unmapped row ∉ p.state.log := by
    intro row _
    have hlog : p.state.log = [.mapped (Sample.bob.row "second")] := rfl
    simp [hlog]
  have htold : p.Told Sample.bob "second" := .inr ⟨_, _, hfirst⟩
  obtain ⟨hmem, hagree, -⟩ := concurrent_mappings_agree hp rfl hkept
  exact ⟨hfirst, hsecond, hmem _ htold, fun id hid => hagree _ _ hid htold⟩

end KeystoneSpassword
