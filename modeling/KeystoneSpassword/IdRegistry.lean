import KeystoneSpassword.IdMapping

/-!
# What the identity mapping is for

Entities and public ids correspond one to one, as far as they are mapped. `Registry` says this
without rows and queries, with a partial bijection. Keystone's groups stand beside it: a group that
Keystone knows by name has the id that Keystone gave it, whatever the bijection says.

The driver refines this, call by call. What follows from the bijection, such as that the two lookups
are inverse, is then read off there, and with it where Keystone's groups are in the way.

## Main definitions

* `Registry`, `Registry.next`, `Registry.Answers` — the abstract driver
* `Directory.registry` — the registry of a database

## Main results

* `id_mapping_refines` — runs of the driver are runs of the registry
* `public_id_round_trip_iff` — when a public id leads back to its entity
* `create_then_get_iff` — when the id that was created is the one that is found
-/

namespace KeystoneSpassword

open StateProgram Interleaving Tables

variable {d d' : Directory} {e : LocalEntity} {id : String}

/-! ### The registry -/

/-- Keystone's groups, and the public ids of the entities of directories. -/
structure Registry where
  groups : List Group
  ids : LocalEntity ≃. String

namespace Registry

/-- The groups with the name and the domain of the entity. -/
def named (r : Registry) (e : LocalEntity) : List Group :=
  r.groups.filter fun g => g.name = e.localId ∧ g.domainId = e.domainId

/-- The public id of an entity. Several groups of one name have none. -/
def publicId (r : Registry) (e : LocalEntity) : Option String :=
  match e.entityType with
  | .user => r.ids e
  | .group =>
    match r.named e with
    | [] => r.ids e
    | [group] => some group.id
    | _ :: _ :: _ => none

/-- Neither the entity nor the id is taken. -/
def Free (r : Registry) (e : LocalEntity) (id : String) : Prop :=
  r.ids e = none ∧ r.ids.symm id = none

instance (r : Registry) (e : LocalEntity) (id : String) : Decidable (r.Free e id) :=
  inferInstanceAs (Decidable (_ ∧ _))

/-- What a call makes of the registry. -/
def next (r : Registry) : MappingCall → Registry
  | .getPublicId _ | .getDomainMappingList _ | .getIdMapping _ => r
  | .createIdMapping generated e publicId =>
    { r with ids := add r.ids e (publicId.getD generated) }
  | .deleteIdMapping publicId => { r with ids := keep r.ids fun _ id => id ≠ publicId }
  | .purgeMappings filter => { r with ids := keep r.ids fun e id => !filter.matches (e.row id) }
  | .setGroups groups => { r with groups }

/-- What a call answers. A list of mappings is in no order. -/
def Answers (r : Registry) : MappingCall → MappingAnswer → Prop
  | .getPublicId e, a => a = .publicId (r.publicId e)
  | .getDomainMappingList domainId, a => ∃ rows, a = .rows rows ∧ rows.Nodup ∧
    ∀ row, row ∈ rows ↔ row.domainId = domainId ∧ r.ids row.entity = some row.publicId
  | .getIdMapping id, a => a = .row ((r.ids.symm id).map (·.row id))
  | .createIdMapping generated e publicId, a =>
    a = .publicId (if r.Free e (publicId.getD generated) then some (publicId.getD generated)
      else r.publicId e)
  | .deleteIdMapping _, a | .purgeMappings _, a | .setGroups _, a => a = .nothing

end Registry

/-- The registry of a database. -/
def Directory.registry (d : Directory) : Registry := ⟨d.groups, d.mappings.toPEquiv⟩

/-! ### The driver without interruption -/

namespace Mapping

@[simp] theorem run_query {α : Type} (f : Directory → α) (d : Directory) :
    (query f).exec.run d = .ok (f d) d := by
  rw [query, Process.exec_atomic]
  rfl

theorem run_deleteRows (p : IDMapping → Bool) (d : Directory) :
    (deleteRows p).exec.run d = .ok () { d with
      mappings := d.mappings.deleteWhere p
      log := (d.mappings.rows.filter p).map MappingEvent.unmapped ++ d.log } := by
  rw [deleteRows, Process.exec_atomic]
  rfl

theorem run_insertRow (row : IDMapping) (d : Directory) :
    (insertRow row).exec.run d = match d.mappings.insert row with
      | some mappings => .ok true { d with mappings, log := .mapped row :: d.log }
      | none => .ok false d := by
  rw [insertRow, Process.exec_atomic]
  cases h : d.mappings.insert row <;> simp [h]

/-- The query for the mapping of an entity is a lookup. -/
theorem one_mappings (d : Directory) (e : LocalEntity) :
    one (d.mappings.rows.filter fun row =>
      row.domainId = e.domainId ∧ row.localId = e.localId ∧ row.entityType = e.entityType) =
      (d.mappings.lookup e).elim (.error .noResultFound) .ok := by
  rw [← Table.one_filter_key]
  congr 1
  refine List.filter_congr fun row _ => ?_
  obtain ⟨domainId, localId, entityType⟩ := e
  simp [IDMapping.entity]

/-- **The public id that is found** is the one of the registry, and the query never fails. -/
theorem run_getPublicId (d : Directory) (e : LocalEntity) :
    (getPublicId e).exec.run d = .ok (d.registry.publicId e) d := by
  have hmapping : (oneMapping e).exec.run d =
      .ok ((d.mappings.lookup e).elim (.error .noResultFound) .ok) d := by
    rw [oneMapping, run_query, one_mappings]
  have hids : d.registry.ids e = (d.mappings.lookup e).map IDMapping.publicId := rfl
  rw [getPublicId, Registry.publicId]
  cases e.entityType with
  | user =>
    simp only [Process.exec_bind, EStateM.run_bind, hmapping, hids]
    cases d.mappings.lookup e <;> rfl
  | group =>
    have hgroup : (oneGroup e).exec.run d = .ok (one (d.registry.named e)) d := run_query _ d
    simp only [Process.exec_bind, EStateM.run_bind, hgroup]
    cases d.registry.named e with
    | nil =>
      simp only [one, Process.exec_bind, EStateM.run_bind, hmapping, hids]
      cases d.mappings.lookup e <;> rfl
    | cons group groups => cases groups <;> rfl

/-- **A mapping is created** if neither side is taken, and otherwise the driver looks for the one
that is there. -/
theorem run_createIdMapping (generated : String) (publicId : Option String) (d : Directory)
    (e : LocalEntity) :
    ∃ d', (createIdMapping generated e publicId).exec.run d =
        .ok (if d.registry.Free e (publicId.getD generated) then some (publicId.getD generated)
          else d.registry.publicId e) d' ∧
      d'.registry = d.registry.next (.createIdMapping generated e publicId) := by
  have hids := Table.toPEquiv_insert (T := d.mappings) (e.row (publicId.getD generated))
  have hnone : d.mappings.insert (e.row (publicId.getD generated)) = none ↔
      ¬ d.registry.Free e (publicId.getD generated) := Table.insert_eq_none_iff
  simp only [createIdMapping, Process.exec_bind, EStateM.run_bind, run_insertRow]
  cases hinsert : d.mappings.insert (e.row (publicId.getD generated)) with
  | none =>
    have htaken : ¬ d.registry.Free e (publicId.getD generated) := hnone.mp hinsert
    rw [if_neg htaken]
    refine ⟨d, run_getPublicId d e, ?_⟩
    rw [hinsert] at hids
    exact congrArg (Registry.mk d.groups) hids
  | some mappings =>
    have hfree : d.registry.Free e (publicId.getD generated) := by
      by_contra htaken
      rw [hnone.mpr htaken] at hinsert
      cases hinsert
    rw [if_pos hfree]
    refine ⟨_, rfl, ?_⟩
    rw [hinsert] at hids
    exact congrArg (Registry.mk d.groups) hids

end Mapping

/-- The state after a call that is not interrupted. -/
def Directory.call (d : Directory) (call : MappingCall) : Directory := final call.process.exec d

/-- A call that is not interrupted returns what the registry answers, and does to the rows what it
does to the registry. -/
theorem refines_call (d : Directory) (call : MappingCall) :
    ∃ a d', call.process.exec.run d = .ok a d' ∧ d.registry.Answers call a ∧
      d'.registry = d.registry.next call := by
  cases call with
  | getPublicId e =>
    refine ⟨.publicId (d.registry.publicId e), d, ?_, rfl, rfl⟩
    simp [MappingCall.process, Mapping.run_getPublicId]
  | getDomainMappingList domainId =>
    refine ⟨.rows (d.mappings.rows.filter (·.domainId = domainId)), d, ?_, ⟨_, rfl, ?_, ?_⟩, rfl⟩
    · simp [MappingCall.process, Mapping.getDomainMappingList]
    · exact d.mappings.nodup_rows.filter _
    · intro row
      rw [List.mem_filter, decide_eq_true_iff, and_comm]
      exact and_congr_right fun _ => (Table.toPEquiv_entry_iff row IDMapping.ext_entity).symm
  | getIdMapping id =>
    refine ⟨.row (d.mappings.lookupValue id), d, ?_, ?_, rfl⟩
    · simp [MappingCall.process, Mapping.getIdMapping]
    · show MappingAnswer.row _ = .row ((d.mappings.toPEquiv.symm id).map (·.row id))
      rw [Table.toPEquiv_symm_apply]
      cases hrow : d.mappings.lookupValue id with
      | none => rfl
      | some row =>
        obtain ⟨-, rfl⟩ := Table.lookupValue_eq_some_iff.mp hrow
        rfl
  | createIdMapping generated e publicId =>
    obtain ⟨d', hrun, hnext⟩ := Mapping.run_createIdMapping generated publicId d e
    exact ⟨_, d', by simp [MappingCall.process, hrun], rfl, hnext⟩
  | deleteIdMapping publicId =>
    refine ⟨.nothing, _, by
      simp only [MappingCall.process, Mapping.deleteIdMapping, Process.exec_bind, EStateM.run_bind,
        Mapping.run_deleteRows]
      rfl, rfl, ?_⟩
    exact congrArg (Registry.mk d.groups) (Table.toPEquiv_deleteWhere fun row => by simp)
  | purgeMappings filter =>
    refine ⟨.nothing, _, by
      simp only [MappingCall.process, Mapping.purgeMappings, Process.exec_bind, EStateM.run_bind,
        Mapping.run_deleteRows]
      rfl, rfl, ?_⟩
    exact congrArg (Registry.mk d.groups) (Table.toPEquiv_deleteWhere fun row => by simp)
  | setGroups groups => exact ⟨.nothing, { d with groups }, rfl, rfl, rfl⟩

/-- **The driver refines the registry**: over any run of calls one after another, the registry of
the database is what the calls make of the registry, and every call returns what the registry
answers. None of them raises. -/
theorem id_mapping_refines (d : Directory) (calls : List MappingCall) :
    (Machine.run Directory.call d calls).registry = Machine.run Registry.next d.registry calls ∧
      Machine.Along Directory.call
        (fun d call => ∃ a, answer call.process.exec d = .ok a ∧ d.registry.Answers call a) d
        calls := by
  have hcall (d : Directory) (call : MappingCall) :
      (d.call call).registry = d.registry.next call ∧
        ∃ a, answer call.process.exec d = .ok a ∧ d.registry.Answers call a := by
    obtain ⟨a, d', hrun, hanswers, hnext⟩ := refines_call d call
    rw [Directory.call, final_of_run_ok hrun]
    exact ⟨hnext, a, answer_of_run_ok hrun, hanswers⟩
  refine ⟨?_, Machine.along_of_forall (fun d call => (hcall d call).2) d calls⟩
  induction calls generalizing d with
  | nil => rfl
  | cons call calls ih => rw [Machine.run_cons, Machine.run_cons, ih, (hcall d call).1]

/-! ### Both lookups -/

/-- Keystone has no group of the name of the entity, or just the one with this id. -/
def Registry.Unshadowed (r : Registry) (e : LocalEntity) (id : String) : Prop :=
  e.entityType = .group → r.named e = [] ∨ ∃ group, r.named e = [group] ∧ group.id = id

/-- A mapped entity has its public id, unless a group of Keystone is in the way. -/
theorem Registry.publicId_eq_iff {r : Registry} (h : r.ids e = some id) :
    r.publicId e = some id ↔ r.Unshadowed e id := by
  rw [publicId, Unshadowed]
  cases e.entityType with
  | user => simp [h]
  | group =>
    cases r.named e with
    | nil => simp [h]
    | cons group groups => cases groups <;> simp

/-- **When a public id leads back to its entity.** The two lookups are inverse on the entities that
are mapped, unless a group of Keystone is in the way. -/
theorem public_id_round_trip_iff (d : Directory) (e : LocalEntity) :
    (∃ id, answer (Mapping.getPublicId e).exec d = .ok (some id) ∧
      answer (Mapping.getIdMapping id).exec d = .ok (some (e.row id))) ↔
      ∃ id, e.row id ∈ d.mappings.rows ∧ d.registry.Unshadowed e id := by
  refine exists_congr fun id => ?_
  have hids : d.registry.ids e = some id ↔ e.row id ∈ d.mappings.rows := by
    exact Table.toPEquiv_entry_iff (e.row id) IDMapping.ext_entity
  rw [answer_of_run_ok (Mapping.run_getPublicId d e), Mapping.getIdMapping,
    answer_of_run_ok (Mapping.run_query _ d), Except.ok.injEq, Except.ok.injEq,
    Table.lookupValue_eq_some_iff, LocalEntity.row_publicId, and_iff_left rfl, ← hids]
  exact ⟨fun ⟨hid, h⟩ => ⟨h, (Registry.publicId_eq_iff h).mp hid⟩,
    fun ⟨h, hid⟩ => ⟨(Registry.publicId_eq_iff h).mpr hid, h⟩⟩

/-- **When the id that was created is the one that is found.** A mapping is created, and then the
public id of the entity is asked for. The answers differ exactly if the mapping is new and a group
of Keystone is in its way. -/
theorem create_then_get_iff (d : Directory) (generated : String) (e : LocalEntity)
    (publicId : Option String) :
    answer (Mapping.createIdMapping generated e publicId).exec d =
        answer (Mapping.getPublicId e).exec
          (final (Mapping.createIdMapping generated e publicId).exec d) ↔
      (d.registry.Free e (publicId.getD generated) →
        d.registry.Unshadowed e (publicId.getD generated)) := by
  obtain ⟨d', hrun, hnext⟩ := Mapping.run_createIdMapping generated publicId d e
  rw [final_of_run_ok hrun, answer_of_run_ok hrun,
    answer_of_run_ok (Mapping.run_getPublicId d' e), hnext, Except.ok.injEq]
  by_cases hfree : d.registry.Free e (publicId.getD generated)
  · rw [if_pos hfree, eq_comm, forall_prop_of_true hfree]
    exact Registry.publicId_eq_iff ((add_eq_some_iff hfree.1 hfree.2).mpr (.inr ⟨rfl, rfl⟩))
  · rw [if_neg hfree]
    refine iff_of_true ?_ fun h => absurd h hfree
    rw [Registry.next, add_of_taken hfree]

end KeystoneSpassword
