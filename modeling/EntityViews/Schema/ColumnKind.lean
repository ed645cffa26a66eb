/-!
Kinds of scalar columns.
-/

namespace EntityViews

inductive ColumnKind
  | str
  | text
  | int
  | decimal
  | bool
  | date
  | datetime
  | json
deriving DecidableEq

namespace ColumnKind

def all : List ColumnKind := [str, text, int, decimal, bool, date, datetime, json]

def word : ColumnKind → String
  | str => "str"
  | text => "text"
  | int => "int"
  | decimal => "decimal"
  | bool => "bool"
  | date => "date"
  | datetime => "datetime"
  | json => "json"

def constant : ColumnKind → String
  | str => "STR"
  | text => "TEXT"
  | int => "INT"
  | decimal => "DECIMAL"
  | bool => "BOOL"
  | date => "DATE"
  | datetime => "DATETIME"
  | json => "JSON"

/-- A kind as it reads within a text. -/
def plain (k : ColumnKind) : String := "ScalarType." ++ k.constant

def ofWord? (s : String) : Option ColumnKind := all.find? (·.word == s)

end ColumnKind

end EntityViews
