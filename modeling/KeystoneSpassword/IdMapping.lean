import KeystoneSpassword.Lib.Interleaving
import KeystoneSpassword.Lib.Tables

/-!
# The identity mapping driver

`docker/sql_ldap.py`: which public id Keystone gives to an entity of a directory. The driver keeps
a table of its own, and for a group it first asks Keystone's table of groups, so that a group that
exists in both is one group.

Every query is a transaction. Between the failed insert of `create_id_mapping` and its search for
the mapping that was in the way, other calls may run.

## What is left open

The two tables are all there is to a state. Keystone changes its groups by itself, which is a call
like any other. The public id that the generator proposes is an argument of the call, and so is a
list of the events that have changed the table: the driver keeps no such list.

## Main definitions

* `IDMapping`, `Directory` — the tables
* `Mapping.getPublicId`, `Mapping.createIdMapping`, … — the driver, in steps
* `MappingCall`, `Directory.turn`
-/

namespace KeystoneSpassword

open StateProgram Interleaving Tables

/-! ### Tables -/

/-- `identity_mapping.EntityType` -/
inductive EntityType
  | user
  | group
  deriving DecidableEq, Repr

/-- What the directory calls a user or a group. -/
structure LocalEntity where
  domainId : String
  localId : String
  entityType : EntityType
  deriving DecidableEq, Repr

/-- A row of `id_mapping`. -/
structure IDMapping where
  publicId : String
  domainId : String
  localId : String
  entityType : EntityType
  deriving DecidableEq, Repr

/-- The columns of the unique constraint. -/
def IDMapping.entity (row : IDMapping) : LocalEntity :=
  ⟨row.domainId, row.localId, row.entityType⟩

/-- `IDMapping.from_dict` of an entity with its public id. -/
def LocalEntity.row (e : LocalEntity) (publicId : String) : IDMapping :=
  ⟨publicId, e.domainId, e.localId, e.entityType⟩

@[simp] theorem LocalEntity.row_entity (e : LocalEntity) (id : String) :
    (e.row id).entity = e := rfl

@[simp] theorem LocalEntity.row_publicId (e : LocalEntity) (id : String) :
    (e.row id).publicId = id := rfl

@[simp] theorem IDMapping.entity_row (row : IDMapping) : row.entity.row row.publicId = row := rfl

/-- The columns of the unique constraint and the public id are all there is to a row. -/
theorem IDMapping.ext_entity (row row' : IDMapping) (hentity : row.entity = row'.entity)
    (hid : row.publicId = row'.publicId) : row = row' := by
  rw [← row.entity_row, ← row'.entity_row, hentity, hid]

/-- The columns of Keystone's `Group` that the driver reads. -/
structure Group where
  id : String
  name : String
  domainId : String
  deriving DecidableEq, Repr

/-- What happens to the table of mappings. -/
inductive MappingEvent
  | mapped (row : IDMapping)
  | unmapped (row : IDMapping)
  deriving DecidableEq, Repr

/-- The database: both tables, and what has happened to the mappings, the latest first. -/
structure Directory where
  groups : List Group
  mappings : Table IDMapping.entity IDMapping.publicId
  log : List MappingEvent

/-- Nothing is mapped. -/
def Directory.initial (groups : List Group) : Directory := ⟨groups, .empty, []⟩

/-! ### The driver -/

/-- A call of the driver, in steps. -/
abbrev Driving (α : Type) := Process QueryError Directory α

/-- The keys of `purge_filter`, where there are any. -/
structure PurgeFilter where
  domainId : Option String
  publicId : Option String
  localId : Option String
  entityType : Option EntityType
  deriving DecidableEq, Repr

/-- The row passes every key that is given. -/
def PurgeFilter.matches (filter : PurgeFilter) (row : IDMapping) : Bool :=
  filter.domainId.all (row.domainId = ·) && filter.publicId.all (row.publicId = ·) &&
    filter.localId.all (row.localId = ·) && filter.entityType.all (row.entityType = ·)

namespace Mapping

/-- `session.query(…)` -/
def query {α : Type} (f : Directory → α) : Driving α := .atomic do return f (← get)

/-- `query.one()` on the groups of the name and the domain of the entity. -/
def oneGroup (e : LocalEntity) : Driving (Except QueryError Group) :=
  query fun d => one (d.groups.filter fun g => g.name = e.localId ∧ g.domainId = e.domainId)

/-- `query.one()` on the mappings of the entity. -/
def oneMapping (e : LocalEntity) : Driving (Except QueryError IDMapping) :=
  query fun d => one (d.mappings.rows.filter fun row =>
    row.domainId = e.domainId ∧ row.localId = e.localId ∧ row.entityType = e.entityType)

/-- Rows are deleted. -/
def deleteRows (p : IDMapping → Bool) : Driving Unit := .atomic do
  let d ← get
  set { d with
    mappings := d.mappings.deleteWhere p
    log := (d.mappings.rows.filter p).map MappingEvent.unmapped ++ d.log }

/-- A row is inserted, or it is a duplicate. -/
def insertRow (row : IDMapping) : Driving Bool := .atomic do
  let d ← get
  match d.mappings.insert row with
  | some mappings =>
    set { d with mappings, log := .mapped row :: d.log }
    return true
  | none => return false

/-- `get_public_id` -/
def getPublicId (e : LocalEntity) : Driving (Option String) :=
  match e.entityType with
  | .group => do
    match ← oneGroup e with
    | .ok group => return some group.id
    | .error .noResultFound =>
      match ← oneMapping e with
      | .ok row => return some row.publicId
      | .error _ => return none
    | .error .multipleResultsFound => return none
  | .user => do
    match ← oneMapping e with
    | .ok row => return some row.publicId
    | .error .noResultFound => return none
    | .error .multipleResultsFound => .raise .multipleResultsFound

/-- `get_domain_mapping_list` -/
def getDomainMappingList (domainId : String) : Driving (List IDMapping) :=
  query fun d => d.mappings.rows.filter (·.domainId = domainId)

/-- `get_id_mapping` -/
def getIdMapping (publicId : String) : Driving (Option IDMapping) :=
  query fun d => d.mappings.lookupValue publicId

/-- `create_id_mapping`. The generator proposes `generated`. -/
def createIdMapping (generated : String) (e : LocalEntity) (publicId : Option String) :
    Driving (Option String) := do
  let id := publicId.getD generated
  if ← insertRow (e.row id) then return some id
  else getPublicId e

/-- `delete_id_mapping` -/
def deleteIdMapping (publicId : String) : Driving Unit := deleteRows (·.publicId = publicId)

/-- `purge_mappings` -/
def purgeMappings (filter : PurgeFilter) : Driving Unit := deleteRows filter.matches

end Mapping

/-! ### Calls -/

/-- A call of the driver, or a change of Keystone's groups. -/
inductive MappingCall
  | getPublicId (e : LocalEntity)
  | getDomainMappingList (domainId : String)
  | getIdMapping (publicId : String)
  | createIdMapping (generated : String) (e : LocalEntity) (publicId : Option String)
  | deleteIdMapping (publicId : String)
  | purgeMappings (filter : PurgeFilter)
  /-- Keystone stores its groups -/
  | setGroups (groups : List Group)

/-- What a call returns. -/
inductive MappingAnswer
  | publicId (id : Option String)
  | rows (rows : List IDMapping)
  | row (row : Option IDMapping)
  | nothing

open Mapping in
/-- The call, in steps. -/
def MappingCall.process : MappingCall → Driving MappingAnswer
  | .getPublicId e => do return .publicId (← Mapping.getPublicId e)
  | .getDomainMappingList domainId => do return .rows (← Mapping.getDomainMappingList domainId)
  | .getIdMapping publicId => do return .row (← Mapping.getIdMapping publicId)
  | .createIdMapping generated e publicId => do
    return .publicId (← Mapping.createIdMapping generated e publicId)
  | .deleteIdMapping publicId => do
    Mapping.deleteIdMapping publicId
    return .nothing
  | .purgeMappings filter => do
    Mapping.purgeMappings filter
    return .nothing
  | .setGroups groups => do
    Process.atomic (modify ({ · with groups }))
    return .nothing

/-- Calls in progress on one database. -/
abbrev MappingPool := Pool MappingCall QueryError Directory MappingAnswer

/-- A call is made, or takes a step. -/
def MappingPool.turn (p : MappingPool) (t : Turn MappingCall) : MappingPool :=
  Pool.turn MappingCall.process p t

/-- What any turns reach from an empty table. -/
def MappingPool.Reachable (p : MappingPool) : Prop :=
  ∃ groups turns, p = Machine.run MappingPool.turn ⟨.initial groups, []⟩ turns

end KeystoneSpassword
