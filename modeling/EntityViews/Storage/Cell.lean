import EntityViews.Schema
import EntityViews.Sql.Operand
import EntityViews.Calendar.Reader

/-!
Values as a database stores them, and back.
-/

namespace EntityViews

/-- A value as it is stored: maps and lists as JSON texts, times as texts, truth values and decimals as numbers. -/
def Value.toCell : Value → Except Fault Value
  | .bool b => .ok (.int (if b then 1 else 0))
  | .datetime t => .ok (.text t.text)
  | .date d => .ok (.text d.text)
  | .decimal d => (Sql.floatOf d).map .float
  | .list items => written (.list items)
  | .map entries => written (.map entries)
  | v => .ok v
where
  written (v : Value) : Except Fault Value :=
    match Json.write? .refuse v with
    | some json => .ok (.text json)
    | none => .error .mistyped

def timeOf {α : Type} (read : String → Except CalendarFault α) : Value → Except Fault α
  | .text s => (read s).mapError .calendar
  | .columnKind k => .error (.badTimeText (Scalar.columnKind k).shown)
  | _ => .error .mistyped

def ColumnKind.ofCell (kind : ColumnKind) (cell : Value) : Except Fault Value :=
  match kind with
  | .datetime => (timeOf DateTime.ofText? cell).map .datetime
  | .date => (timeOf Date.ofText? cell).map .date
  | .decimal =>
    match Decimal.ofText? cell.plain with
    | some d => .ok (.decimal d)
    | none => .error .notDecimal
  | .bool => .ok (.bool cell.isPresent)
  | .json =>
    if cell.isPresent then
      match cell.asText? with
      | some s => (Json.read s).mapError .ofJson
      | none => .error .mistyped
    else .ok .null
  | .str | .text | .int => .ok cell

/-- A stored value of a column type; nothing stays nothing. -/
def ColumnType.ofCell (type : ColumnType) (cell : Value) : Except Fault Value :=
  match cell, type with
  | .null, _ => .ok .null
  | cell, .scalar (some kind) => kind.ofCell cell
  | cell, _ => .ok cell

/-- A stored value of a named column or formula of an entity; a name that is neither leaves it as it is. -/
def Entity.ofCell (e : Entity) (name cell : Value) : Except Fault Value :=
  match name.asText? with
  | none => .ok cell
  | some name =>
    match e.column? name with
    | some c => c.type.ofCell cell
    | none => match e.formula? name with
      | some f => f.type.ofCell cell
      | none => .ok cell

def Entity.fieldsOfRow (e : Entity) (row : List (Value × Value)) : Except Fault (List (Value × Value)) :=
  row.mapM fun (name, cell) => (e.ofCell name cell).map fun v => (name, v)

end EntityViews
