import EntityViews.Storage.Loader
import EntityViews.Value.Number
import EntityViews.Record.Path
import EntityViews.Filter

/-!
The repository of an entity: finding its records together with related ones, loading relations onto records that were
found before, counting and adding rows.
-/

namespace EntityViews

open Sql

namespace Repository

variable {δ : Type} [Engine δ]

/-- The fields of the root itself among qualified ones. -/
def ownFields (fields : List String) : List String := fields.filter fun f => !f.toList.contains '.'

/-- The fields of the records directly at a path among qualified ones. -/
def fieldsUnder (fields : List String) (path : String) : List String :=
  ownFields (fields.filterMap (Text.dropStart? (path ++ ".")))

def entityAt (s : Schema) (path : String) : String → List String → Except Fault String
  | entity, [] => .ok entity
  | entity, segment :: rest =>
    match s.relation? entity segment with
    | some relation => entityAt s path relation.target rest
    | none => .error (.unknownRelation segment entity (some path))

def parentsFirst (paths : List String) : List String :=
  (distinct paths).mergeSort fun a b => decide (Text.count '.' a ≤ Text.count '.' b)

/-- The sort keys that are given, one or a list of them; else the id. -/
def sortKeys (orderBy : Value) : Except Fault (List SortKey) :=
  if !orderBy.isPresent then .ok [.ofText "id"]
  else match orderBy.label?, orderBy with
    | some key, _ => .ok [.ofLabel key]
    | none, .list items | none, .tuple items | none, .set items => items.mapM key
    | none, .map entries => entries.mapM fun e => key e.1
    | none, _ => .error .mistyped
where
  key (v : Value) : Except Fault SortKey :=
    match v.label? with
    | some k => .ok (.ofLabel k)
    | none => .error .absentMember

/-- Loads the relation at one path. Parents that were not reached have nothing loaded onto them. -/
def populatePath (s : Schema) (entity : String) (roots : List Node) (fields : Option (List String)) (filter : Value)
    (path : String) : Run δ Unit := do
  let (parentPath, name) := Text.splitLast '.' path
  let parentEntity ← entityAt s parentPath entity (if parentPath = "" then [] else Text.segments parentPath)
  let parents ← (← get).store.recordsAt roots parentPath
  if parents.isEmpty then return
  let _ ← Loader.load s parentEntity parents name (fields.map (fieldsUnder · path)) filter

/-- Loads the relations at some paths. A filter on the root restricts what is loaded at the one path that it is for. -/
def populatePaths (s : Schema) (entity : String) (roots : List Node) (paths : List String)
    (fields : Option (List String)) (filter : Value) (filterPath : Option String) : Run δ Unit :=
  (parentsFirst paths).forM fun path =>
    let own := if filterPath = some path then (Filter.atPath filter path).getD .null else .null
    populatePath s entity roots fields own path

/-- The records of an entity that a filter lets through, with the relations at some paths. -/
def find (s : Schema) (e : Entity) (filter : Value) (fields : Option (List String)) (populate : List String)
    (orderBy : Value) (limit offset : Option Int) : Run δ (List Node) := do
  let q ← Query.start e Loader.mainRow
  let q ← q.selecting (e.selection (fields.map ownFields))
  let q ← Run.compile (q.filtered s filter)
  let keys ← sortKeys orderBy
  let statement ← ((q.sorted keys).paged limit offset).build
  withConnection do
    let records ← fetchRecords e statement
    if !populate.isEmpty && !records.isEmpty then
      populatePaths s e.name records populate fields .null none
    return records

/-- Loads relations onto records; the filter restricts what is loaded at the first path. -/
def populate (s : Schema) (entity : String) (records : List Node) (paths : List String) (filter : Value)
    (fields : Option (List String)) : Run δ Unit := do
  match paths with
  | [] => return
  | first :: _ =>
    if records.isEmpty then return
    withConnection (populatePaths s entity records paths fields filter (some first))

def count (s : Schema) (e : Entity) (filter : Value) : Run δ Int := do
  let q ← Query.start e Loader.mainRow
  let q ← Run.compile (q.filtered s filter)
  withConnection do
    let answer ← execute (.count q.buildCount)
    match ← answer.rows with
    | [] => throw .mistyped
    | [] :: _ => throw .absentItem
    | (v :: _) :: _ => v.wholeNumber

end Repository

namespace Database

variable {δ : Type} [Engine δ]

/-- The rows that a statement in given words gives, as records. -/
def fetchAll (sql : String) (params : List Value) : Run δ (List Node) :=
  withConnection do
    let answer ← execute (.raw sql params)
    (← answer.namedRows).mapM Run.newRecordOf

def columnName (key : Value) : Except Fault Name :=
  match key.label? with
  | some l => Name.ofLabel? l
  | none => if key.isPresent then .error .mistyped else .error (.emptyName "identifier")

/-- Adds a row; its id is the given one, else the one that the database chose. -/
def insert (table : String) (data : List (Value × Value)) : Run δ Int := do
  let columns ← data.mapM fun e => columnName e.1
  let values ← data.mapM fun e => e.2.toCell
  let table ← Name.make? table
  withConnection do
    let answer ← execute (.insert table columns values)
    match lookup? (.text "id") data with
    | some id => id.wholeNumber
    | none => return answer.lastId

def defaultText (v : Value) : Except Fault String := do
  let cell ← v.toCell
  match cell.asText? with
  | some s => return "'" ++ String.ofList (s.toList.flatMap fun c => if c = '\'' then [c, c] else [c]) ++ "'"
  | none => return cell.plain

def columnDefinition (c : Column) : Except Fault ColumnDefinition := do
  let name ← Name.make? c.name
  let default ← match c.default with
    | .null => pure none
    | v => (defaultText v).map some
  let references ← match c.type with
    | .ref (some target) => (Name.make? target).map some
    | _ => pure none
  return ⟨name, c.type.storage, c.name = "id", c.required, c.unique, default, references⟩

def definitions (e : Entity) : Except Fault (List ColumnDefinition) := do
  let own ← e.columns.mapM columnDefinition
  let id : ColumnDefinition := ⟨.id, "INTEGER", true, false, false, none, none⟩
  return if (e.column? "id").isSome then own else id :: own

/-- Makes the table of an entity if there is none, with indices on the columns that are looked up by. -/
def createTable (e : Entity) : Run δ Unit := do
  let name ← Name.make? e.name
  let columns ← definitions e
  withConnection do
    let _ ← execute (.createTable name columns)
    (e.columns.filter fun c => c.indexed || c.type.isRef).forM fun c => do
      let _ ← execute (.createIndex name (← Name.make? c.name))

def tableExists (name : String) : Run δ Bool :=
  withConnection do
    let answer ← execute (.tableExists name)
    return !(← answer.rows).isEmpty

def createAll (entities : List Entity) : Run δ (List String) := do
  let created ← entities.mapM fun e => do
    let known ← tableExists e.name
    createTable e
    return if known then none else some e.name
  return created.filterMap fun name => name

end Database

/-- Adds a row, and gives it as a record with its id. -/
def Repository.create {δ : Type} [Engine δ] (table : String) (data : List (Value × Value)) : Run δ Node := do
  let id ← Database.insert table data
  Run.newRecordOf (assign (.text "id") (.int id) data)

end EntityViews
