import EntityViews.Storage.Connection

/-!
Loading a relation of a whole batch of records with one statement, and attaching the related records to them: one record
or nothing for a relation to one, a list for a relation to many.
-/

namespace EntityViews

/-- The names to select of an entity: all columns, or the id and the given fields; and the columns that relations of the
entity are followed by. -/
def Entity.selection (e : Entity) (fields : Option (List String)) : List String :=
  let names := match fields with
    | none => e.columnNames
    | some fs => "id" :: fs
  distinct (names ++ e.relations.filterMap (·.link.sourceKey?))

namespace Loader

open Sql

variable {δ : Type} [Engine δ]

def mainRow : String := "t0"

def joinRow : Alias := .row "j0"

/-- The name under which a joined statement gives the id of the source record. -/
def sourceLabel : Name := .plain "__source_id" (by decide)

/-- The order of related records: that of the relation, else by id. -/
def sortKeys (relation : Relation) : List SortKey :=
  (if relation.orderBy.isEmpty then ["id"] else relation.orderBy).map .ofText

def queryFor (s : Schema) (target : Entity) (fields : Option (List String)) (filter : Value) : Run δ Query := do
  let q ← Query.start target mainRow
  let q ← q.selecting (target.selection fields)
  Run.compile (q.filtered s filter)

def among (row : Alias) (column : Name) (values : List Value) : Clause :=
  .condition (.among false (.column row column) values)

/-- The distinct values of a field of some records, those without one left out. -/
def keysOf (records : List Node) (field : String) : Run δ (List Value) := do
  let keys ← records.filterMapM fun r => do
    match ← Run.field? r field with
    | none | some .null => return none
    | some v => return some (← v.key)
  return distinctKeys keys

/-- The value of a field as a key for look-up; a missing one is looked up as nothing. -/
def keyOf (record : Node) (field : String) : Run δ Value := do
  match ← Run.field? record field with
  | none => return .null
  | some v => v.key

/-- Records by the value of a field that each has to have; of several with one value the last counts. -/
def byField (records : List Node) (field : String) : Run δ (List (Value × Node)) := do
  let pairs ← records.mapM fun r => do return (← (← Run.item r field).key, r)
  return collect pairs

def addToGroup (groups : List (Value × List Node)) (key : Value) (record : Node) : List (Value × List Node) :=
  assign key ((lookup? key groups).getD [] ++ [record]) groups

/-- A relation whose key the source record holds. Records with one key share the related record. -/
def loadByOwnKey (s : Schema) (relation : Relation) (key : String) (target : Entity) (records : List Node)
    (fields : Option (List String)) (filter : Value) : Run δ (List Node) := do
  let keys ← keysOf records key
  let related ←
    if keys.isEmpty then pure []
    else
      let q ← queryFor s target fields filter
      let rows ← fetchRecords target (← (q.add (among q.rowAlias .id keys)).build)
      byField rows "id"
  records.forM fun record => do
    let value ← keyOf record key
    Run.setField record relation.name ((lookup? value related).getD .null)
  return related.map (·.2)

/-- A relation whose key the target records hold. -/
def loadByTheirKey (s : Schema) (relation : Relation) (key : String) (target : Entity) (records : List Node)
    (fields : Option (List String)) (filter : Value) : Run δ (List Node) := do
  let ids ← keysOf records "id"
  let rows ←
    if ids.isEmpty then pure []
    else
      let q ← queryFor s target (fields.map (· ++ [key])) filter
      let q := q.add (among q.rowAlias (← Name.make? key) ids)
      let q := q.sorted (sortKeys relation)
      fetchRecords target (← q.build)
  let groups ← rows.foldlM (fun groups row => do return addToGroup groups (← keyOf row key) row) []
  records.forM fun record => do
    let items := (lookup? (← keyOf record "id") groups).getD []
    Run.setField record relation.name (if relation.link.isToOne then items.headD .null else .list items)
  return rows

def cell (row : List (Value × Value)) (name : String) : Except Fault Value :=
  match lookup? (.text name) row with
  | some v => .ok v
  | none => .error .absentKey

def keyCell (row : List (Value × Value)) (name : String) : Except Fault Value := do
  let v ← cell row name
  if v.isKey then return v else .error .mistyped

/-- One row of a joined statement: its record, a new one if its id is not known yet, joins the group of its source. -/
def gatherRow (target : Entity) (state : List (Value × Node) × List (Value × List Node)) (row : List (Value × Value)) :
    Run δ (List (Value × Node) × List (Value × List Node)) := do
  let (known, groups) := state
  let source ← cell row sourceLabel.text
  let row := row.filter fun e => !e.1.same (.text sourceLabel.text)
  let id ← keyCell row "id"
  let (record, known) ← match lookup? id known with
    | some record => pure (record, known)
    | none => do
      let record ← recordOfRow target row
      pure (record, assign id record known)
  if source.isKey then return (known, addToGroup groups source record) else throw .mistyped

/-- The records of a joined statement, each target row once, in groups by the id of the source record. -/
def gather (target : Entity) (rows : List (List (Value × Value))) :
    Run δ (List (Value × Node) × List (Value × List Node)) :=
  rows.foldlM (gatherRow target) ([], [])

def loadThrough (s : Schema) (relation : Relation) (table sourceKey targetKey : String) (target : Entity)
    (records : List Node) (fields : Option (List String)) (filter : Value) : Run δ (List Node) := do
  let ids ← keysOf records "id"
  let (known, groups) ←
    if ids.isEmpty then pure ([], [])
    else
      let q ← queryFor s target fields filter
      let source ← Name.make? sourceKey
      let table ← Name.make? table
      let targetColumn ← Name.make? targetKey
      let q := q.joined (.keyed table joinRow targetColumn q.rowAlias .id)
      let q := q.extended (.labelled (.column joinRow source) sourceLabel)
      let q := q.add (among joinRow source ids)
      let q := q.sorted (sortKeys relation)
      let answer ← execute (.select (← q.build))
      gather target (← answer.namedRows)
  records.forM fun record => do
    let items := (lookup? (← keyOf record "id") groups).getD []
    Run.setField record relation.name (.list items)
  return known.map (·.2)

/-- Loads a relation of some records of an entity, and gives the related records. -/
def load (s : Schema) (entity : String) (records : List Node) (name : String) (fields : Option (List String))
    (filter : Value) : Run δ (List Node) := do
  match s.relation? entity name with
  | none => throw (.unknownRelation name entity none)
  | some relation =>
    match s.entity? relation.target with
    | none => throw .absentKey
    | some target =>
      match relation.link with
      | .manyToOne key | .oneToOne key => loadByOwnKey s relation key target records fields filter
      | .oneToMany key | .oneToOneInverse key => loadByTheirKey s relation key target records fields filter
      | .manyToMany table sourceKey targetKey =>
        loadThrough s relation table sourceKey targetKey target records fields filter

end Loader

end EntityViews
