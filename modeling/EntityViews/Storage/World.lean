import EntityViews.Fetch.Registry
import EntityViews.Record
import EntityViews.Sql.Statement

/-!
Databases, and the state that work with one goes through.
-/

namespace EntityViews

inductive Action
  | connect
  | execute (statement : Sql.Statement)
  | commit
  | rollback
  | close

/-- What a statement gives: the names of its columns, its rows, which may fail as they are read, and the id of the row
that it added. -/
structure Answer where
  columns : List String
  rows : Except Fault (List (List Value))
  lastId : Int

def Answer.empty : Answer := ⟨[], .ok [], 0⟩

/-- A database: a state and how it answers each action. -/
class Engine (δ : Type) where
  perform : Action → δ → Except Fault Answer × δ

/-- What can be told of work apart from its result. -/
inductive Event
  | annotated (name : String) (ids : List Value) (saw : Option (List Value))
  | found (filter : Value) (fields populate : List String) (orderBy : Value) (limit offset : Option Int)
  | populated (ids : List Value) (paths : List String) (filter : Value) (fields : List String)

/-- The records, the database and what was asked of it, the number of the next sub-select, the registry, the entities
whose repositories are in use, and what was told. -/
structure World (δ : Type) where
  store : Store
  database : δ
  actions : Array Action
  nextAlias : Nat
  registry : Registry
  opened : List String
  events : Array Event

def World.start {δ : Type} (database : δ) (registry : Registry) : World δ := ⟨.empty, database, #[], 1, registry, [], #[]⟩

/-- Work that may fail; what it changed before it failed stays changed. -/
abbrev Run (δ : Type) : Type → Type := ExceptT Fault (StateM (World δ))

namespace Run

variable {δ : Type}

/-- A computation on the registry, the records or the sub-select counter. -/
def fetchFields (entity : String) : Run δ EntityFields := do
  let w ← get
  let (outcome, registry) := w.registry.get entity
  set { w with registry := registry }
  outcome

/-- Compiles with sub-selects numbered from where earlier ones ended. -/
def compile {α : Type} (c : Sql.Compile α) : Run δ α := do
  let w ← get
  let (outcome, nextAlias) := (ExceptT.run c).run w.nextAlias
  set { w with nextAlias := nextAlias }
  outcome

def tell (e : Event) : Run δ Unit := modify fun w => { w with events := w.events.push e }

def field? (n : Node) (key : String) : Run δ (Option Node) := do
  match n with
  | .record id => return (← get).store.get? id (.text key)
  | _ => throw .absentMember

/-- The value of a key of a record as it is now, nothing if it is missing. -/
def currentField (n : Node) (key : String) : Run δ Value := do
  match ← field? n key with
  | some v => return (← get).store.value v
  | none => return .null

def setField (n : Node) (key : String) (value : Node) : Run δ Unit := do
  match n with
  | .record id => modify fun w => { w with store := w.store.set id (.text key) value }
  | _ => throw .mistyped

/-- The value of a key that a record has to have. -/
def item (n : Node) (key : String) : Run δ Node := do
  match n with
  | .record id =>
    match (← get).store.get? id (.text key) with
    | some v => return v
    | none => throw .absentKey
  | _ => throw .mistyped

def newRecord (entries : List (Value × Node)) : Run δ Node := do
  let w ← get
  let (id, store) := w.store.alloc entries
  set { w with store := store }
  return .record id

/-- A value with new records for its maps. -/
def newNode (v : Value) : Run δ Node := do
  let w ← get
  let (node, store) := w.store.load v
  set { w with store := store }
  return node

def newRecordOf (fields : List (Value × Value)) : Run δ Node := newNode (.map fields)

end Run

end EntityViews
