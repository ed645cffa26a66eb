import EntityViews.Storage.World
import EntityViews.Storage.Cell

/-!
Work within connections: what is done on one is committed if all of it succeeds, else rolled back.
-/

namespace EntityViews

variable {δ : Type} [Engine δ]

def ask (a : Action) : Run δ Answer := do
  let w ← get
  let (outcome, database) := Engine.perform a w.database
  set { w with database := database, actions := w.actions.push a }
  outcome

def execute (s : Sql.Statement) : Run δ Answer := ask (.execute s)

/-- Does some work within a connection. A failure of the work or of its commit leads to a rollback and is passed on. The
connection is closed at the end in either case, but not if it could not be set up. -/
def withConnection {α : Type} (body : Run δ α) : Run δ α := do
  let _ ← ask .connect
  let _ ← execute .foreignKeys
  let outcome ← observe do
    let outcome ← observe do
      let result ← body
      let _ ← ask .commit
      return result
    match outcome with
    | .ok result => return result
    | .error fault =>
      let _ ← ask .rollback
      throw fault
  let _ ← ask .close
  outcome
where
  /-- The outcome of some work as a value. -/
  observe {α : Type} (work : Run δ α) : Run δ (Except Fault α) :=
    tryCatch (do return .ok (← work)) fun fault => return .error fault

/-- The rows of an answer, each with the names of its columns; of columns with one name the last counts. -/
def Answer.namedRows (a : Answer) : Except Fault (List (List (Value × Value))) :=
  a.rows.map fun rows => rows.map fun row => collect ((a.columns.map Value.text).zip row)

def recordOfRow (e : Entity) (row : List (Value × Value)) : Run δ Node := do
  let fields ← e.fieldsOfRow row
  Run.newRecordOf fields

def fetchRecords (e : Entity) (s : Sql.Select) : Run δ (List Node) := do
  let answer ← execute (.select s)
  let rows ← answer.namedRows
  rows.mapM (recordOfRow e)

end EntityViews
