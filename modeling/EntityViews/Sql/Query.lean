import EntityViews.Sql.Filter

/-!
Queries on one entity, built up step by step, and the SELECT statements that they become.
-/

namespace EntityViews.Sql

structure SortKey where
  field : Label
  descending : Bool

/-- A leading minus sign asks for descending order. -/
def SortKey.ofText (s : String) : SortKey :=
  match s.toList with
  | '-' :: rest => ⟨.word (String.ofList rest), true⟩
  | _ => ⟨.word s, false⟩

def SortKey.ofLabel : Label → SortKey
  | .word s => .ofText s
  | .kind k => ⟨.kind k, false⟩

def directionText (term : String) (descending : Bool) : String :=
  term ++ (if descending then " DESC" else " ASC")

/-- A further table in a statement: joined where one of its columns equals a column of another row, or in given words. -/
inductive Join
  | keyed (table : Name) (row : Alias) (column : Name) (other : Alias) (otherColumn : Name)
  | raw (sql : String)

def Join.text : Join → String
  | keyed table row column other otherColumn =>
    "JOIN " ++ table.quoted ++ " AS " ++ row.text ++ " ON " ++ (Term.column row column).text ++ " = " ++
      (Term.column other otherColumn).text
  | raw sql => sql

inductive Output
  | term (t : Term)
  | labelled (t : Term) (label : Name)
  | raw (sql : String)

def Output.text : Output → String
  | term t => t.text
  | labelled t label => t.text ++ " AS " ++ label.quoted
  | raw sql => sql

/-- A part of a WHERE clause: a condition, or given words with their operands. -/
inductive Clause
  | condition (c : Condition)
  | raw (sql : String) (params : List Value)

def Clause.text : Clause → String
  | condition c => c.text
  | raw sql _ => sql

def Clause.params : Clause → List Value
  | condition c => c.params
  | raw _ params => params

/-- Which of the rows that a statement finds it gives. -/
inductive Page
  | all
  | window (limit offset : Int)
  | rest (offset : Int)

def Page.text : Page → List String
  | all => []
  | window _ _ => ["LIMIT ? OFFSET ?"]
  | rest _ => ["LIMIT -1 OFFSET ?"]

def Page.params : Page → List Value
  | all => []
  | window limit offset => [.int limit, .int offset]
  | rest offset => [.int offset]

/-- A SELECT statement; one that counts has neither outputs nor order nor page. -/
structure Select where
  table : Name
  row : Alias
  joins : List Join
  outputs : List Output
  clauses : List Clause
  order : List (Term × Bool)
  page : Page

namespace Select

def whereText (clauses : List Clause) : String :=
  if clauses.isEmpty then "" else "WHERE " ++ " AND ".intercalate (clauses.map Clause.text)

def whereParams (clauses : List Clause) : List Value := clauses.flatMap Clause.params

def orderText (order : List (Term × Bool)) : String :=
  if order.isEmpty then ""
  else "ORDER BY " ++ ", ".intercalate (order.map fun o => directionText o.1.text o.2)

/-- Parts with a blank between them; empty ones are left out. -/
def words (parts : List String) : String := " ".intercalate (parts.filter (· != ""))

def source (s : Select) : String :=
  " ".intercalate ((s.table.quoted ++ " AS " ++ s.row.text) :: s.joins.map Join.text)

def text (s : Select) : String :=
  let outputs := ", ".intercalate (s.outputs.map Output.text)
  words (["SELECT " ++ outputs ++ " FROM " ++ s.source, whereText s.clauses, orderText s.order] ++ s.page.text)

def params (s : Select) : List Value := whereParams s.clauses ++ s.page.params

def countText (s : Select) : String := words ["SELECT COUNT(*) FROM " ++ s.source, whereText s.clauses]

def countParams (s : Select) : List Value := whereParams s.clauses

end Select

structure Query where
  entity : Entity
  table : Name
  row : Name
  columns : List String
  formulas : List Formula
  extraColumns : List Output
  joins : List Join
  clauses : List Clause
  sorts : List SortKey
  limit : Option Int
  offset : Option Int

namespace Query

def start (entity : Entity) (row : String) : Except Fault Query := do
  let table ← Name.ofText? "table name" entity.name
  let row ← Name.ofText? "table alias" row
  return ⟨entity, table, row, [], [], [], [], [], [], none, none⟩

def rowAlias (q : Query) : Alias := .row q.row.text

def selects (q : Query) (name : String) : Bool := q.columns.contains name || q.formulas.any (·.name == name)

/-- Selects a formula or column by its name, once. -/
def selectOne (q : Query) (name : String) : Except Fault Query :=
  if q.selects name then .ok q
  else match q.entity.formula? name with
    | some f => .ok { q with formulas := q.formulas ++ [f] }
    | none =>
      if q.entity.hasColumn name then .ok { q with columns := q.columns ++ [name] }
      else .error (.filter (.unknownColumn name q.entity.name) .null)

/-- Selects names in turn, up to the first that is unknown. -/
def selectEach (q : Query) : List String → Query × Except Fault Unit
  | [] => (q, .ok ())
  | name :: rest =>
    match q.selectOne name with
    | .ok q => q.selectEach rest
    | .error e => (q, .error e)

def select (q : Query) (names : List String) : Query × Except Fault Unit := q.selectEach ("id" :: names)

def selectAll (q : Query) : Query × Except Fault Unit := q.select q.entity.columnNames

def selecting (q : Query) (names : List String) : Except Fault Query :=
  let (q, outcome) := q.select names
  outcome.map fun _ => q

def add (q : Query) (clause : Clause) : Query := { q with clauses := q.clauses ++ [clause] }

/-- Adds the condition that a filter stands for; an absent filter adds none. -/
def filtered (s : Schema) (q : Query) (filter : Value) : Compile Query :=
  if filter.isPresent then do
    let condition ← Condition.ofFilter s q.entity.name q.rowAlias filter
    return q.add (.condition condition)
  else return q

def sorted (q : Query) (sorts : List SortKey) : Query := { q with sorts := q.sorts ++ sorts }

def paged (q : Query) (limit offset : Option Int) : Query := { q with limit := limit, offset := offset }

def joined (q : Query) (join : Join) : Query := { q with joins := q.joins ++ [join] }

def extended (q : Query) (output : Output) : Query := { q with extraColumns := q.extraColumns ++ [output] }

/-- The expression for a name: a formula if there is one, else a column. -/
def term (q : Query) (name : Label) : Except Fault Term :=
  match q.entity.formula? name.text with
  | some f => Term.ofFormula f q.rowAlias
  | none => (Name.ofLabel? name).map (.column q.rowAlias)

def order (q : Query) : Except Fault (List (Term × Bool)) :=
  q.sorts.mapM fun s => (q.term s.field).map fun t => (t, s.descending)

/-- A limit that is not given leaves rows open at the end. -/
def page (q : Query) : Page :=
  match q.limit with
  | some limit => .window limit (q.offset.getD 0)
  | none => match q.offset with
    | some offset => if offset = 0 then .all else .rest offset
    | none => .all

/-- A query that selects nothing is taken to select every column. -/
def settled (q : Query) : Query := if q.columns.isEmpty && q.formulas.isEmpty then q.selectAll.1 else q

def outputs (q : Query) : Except Fault (List Output) := do
  let columns ← q.columns.mapM fun c => (Name.make? c).map fun n => Output.term (.column q.rowAlias n)
  let formulas ← q.formulas.mapM fun f => do
    return Output.labelled (← Term.ofFormula f q.rowAlias) (← Name.make? f.name)
  return columns ++ formulas ++ q.extraColumns

def build (q : Query) : Except Fault Select := do
  let outputs ← q.settled.outputs
  let order ← q.order
  return ⟨q.table, q.rowAlias, q.joins, outputs, q.clauses, order, q.page⟩

def buildCount (q : Query) : Select := ⟨q.table, q.rowAlias, q.joins, [], q.clauses, [], .all⟩

end Query

end EntityViews.Sql
