import EntityViews.Schema
import EntityViews.Sql.Name

/-!
Conditions on rows as trees, their SQL text, and the operands that its placeholders take.
-/

namespace EntityViews.Sql

/-- A scalar expression on a row: a column of it, or a formula in the wording it has for the row. -/
inductive Term
  | column (row : Alias) (name : Name)
  | formula (formula : Formula) (row : Alias) (text : String)

def Term.text : Term → String
  | column row name => row.text ++ "." ++ name.quoted
  | formula _ _ text => text

/-- The wording of a formula for a row. -/
def Term.ofFormula (f : Formula) (row : Alias) : Except Fault Term :=
  (f.render row.text).map (.formula f row)

inductive Comparison
  | eq
  | ne
  | gt
  | gte
  | lt
  | lte
  | like
  | ilike
deriving DecidableEq

def Comparison.text (term : String) : Comparison → String
  | eq => term ++ " = ?"
  | ne => term ++ " != ?"
  | gt => term ++ " > ?"
  | gte => term ++ " >= ?"
  | lt => term ++ " < ?"
  | lte => term ++ " <= ?"
  | like => term ++ " LIKE ?"
  | ilike => "LOWER(" ++ term ++ ") LIKE LOWER(?)"

inductive Condition
  | always
  | never
  | compare (comparison : Comparison) (term : Term) (operand : Value)
  | isNull (negated : Bool) (term : Term)
  | among (negated : Bool) (term : Term) (operands : List Value)
  | all (parts : List Condition)
  | any (parts : List Condition)
  | not (part : Condition)
  /-- Whether a term is among the values of a column in the rows of a table that meet a condition. -/
  | within (negated : Bool) (term : Term) (column table : Name) (row : Alias) (condition : Condition)

def placeholders (operands : List Value) : String := ", ".intercalate (operands.map fun _ => "?")

namespace Condition

mutual

def text : Condition → String
  | always => "1 = 1"
  | never => "1 = 0"
  | compare comparison term _ => comparison.text term.text
  | isNull negated term => term.text ++ (if negated then " IS NOT NULL" else " IS NULL")
  | among negated term operands =>
    term.text ++ (if negated then " NOT IN (" else " IN (") ++ placeholders operands ++ ")"
  | all parts => "(" ++ " AND ".intercalate (texts parts) ++ ")"
  | any parts => "(" ++ " OR ".intercalate (texts parts) ++ ")"
  | not part => "NOT (" ++ part.text ++ ")"
  | within negated term column table row condition =>
    term.text ++ (if negated then " NOT IN (SELECT " else " IN (SELECT ") ++ (Term.column row column).text ++
      " FROM " ++ table.quoted ++ " AS " ++ row.text ++ " WHERE " ++ condition.text ++ ")"

def texts : List Condition → List String
  | [] => []
  | part :: rest => part.text :: texts rest

end

mutual

def params : Condition → List Value
  | always | never | isNull _ _ => []
  | compare _ _ operand => [operand]
  | among _ _ operands => operands
  | all parts | any parts => paramsOf parts
  | not part => part.params
  | within _ _ _ _ _ condition => condition.params

def paramsOf : List Condition → List Value
  | [] => []
  | part :: rest => part.params ++ paramsOf rest

end

/-- The conjunction of the parts of a map; a single part stands alone. -/
def conjunction : List Condition → Condition
  | [part] => part
  | parts => all parts

end Condition

end EntityViews.Sql
