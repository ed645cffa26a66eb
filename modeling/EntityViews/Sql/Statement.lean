import EntityViews.Sql.Query

/-!
The statements that reach a database.
-/

namespace EntityViews.Sql

structure ColumnDefinition where
  name : Name
  storage : String
  primary : Bool
  required : Bool
  unique : Bool
  default : Option String
  references : Option Name

def ColumnDefinition.text (c : ColumnDefinition) : String :=
  let parts := [c.name.quoted, c.storage] ++
    (if c.primary then ["PRIMARY KEY"] else if c.required then ["NOT NULL"] else []) ++
    (if c.unique then ["UNIQUE"] else []) ++
    (match c.default with | some d => ["DEFAULT " ++ d] | none => []) ++
    (match c.references with | some t => ["REFERENCES " ++ t.quoted ++ "(\"id\") ON DELETE CASCADE"] | none => [])
  " ".intercalate parts

inductive Statement
  /-- Has the database watch over references. -/
  | foreignKeys
  | select (s : Select)
  | count (s : Select)
  | insert (table : Name) (columns : List Name) (values : List Value)
  | createTable (name : Name) (columns : List ColumnDefinition)
  | createIndex (table column : Name)
  | tableExists (name : String)
  /-- A statement in given words. -/
  | raw (sql : String) (params : List Value)

namespace Statement

def text : Statement → String
  | foreignKeys => "PRAGMA foreign_keys = ON"
  | select s => s.text
  | count s => s.countText
  | insert table columns values =>
    "INSERT INTO " ++ table.quoted ++ " (" ++ ", ".intercalate (columns.map Name.quoted) ++ ") VALUES (" ++
      placeholders values ++ ")"
  | createTable name columns =>
    "CREATE TABLE IF NOT EXISTS " ++ name.quoted ++ " (" ++ ", ".intercalate (columns.map ColumnDefinition.text) ++ ")"
  | createIndex table column =>
    "CREATE INDEX IF NOT EXISTS idx_" ++ table.text ++ "_" ++ column.text ++ " ON " ++ table.quoted ++
      "(" ++ column.quoted ++ ")"
  | tableExists _ => "SELECT name FROM sqlite_master WHERE type='table' AND name=?"
  | raw sql _ => sql

def params : Statement → List Value
  | select s => s.params
  | count s => s.countParams
  | insert _ _ values => values
  | tableExists name => [.text name]
  | raw _ params => params
  | foreignKeys | createTable _ _ | createIndex _ _ => []

end Statement

end EntityViews.Sql
