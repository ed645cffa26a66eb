import EntityViews.Fault

/-!
Names in SQL texts. Only plain names are let through, in double quotes, so that no name can end its quotes.
-/

namespace EntityViews.Sql

def isNameChar (c : Char) : Bool := c.isAlphanum || c == '_'

/-- A name opens with a letter or underscore; one line break may follow it. -/
def isName (cs : List Char) : Bool :=
  let body := if cs.getLast? = some '\n' then cs.dropLast else cs
  match body with
  | [] => false
  | c :: _ => !c.isDigit && body.all isNameChar

/-- A name: a plain one, or that of a kind of column. -/
inductive Name
  | plain (text : String) (isName : isName text.toList = true)
  | kind (k : ColumnKind)
deriving DecidableEq

namespace Name

def text : Name → String
  | plain text _ => text
  | kind k => k.plain

/-- The name with a given text; the role says in a fault what the name was for. -/
def ofText? (role text : String) : Except Fault Name :=
  if text = "" then .error (.emptyName role)
  else if h : isName text.toList = true then .ok (.plain text h)
  else .error (.badName role text)

/-- A name of the most common role. -/
def make? (text : String) : Except Fault Name := ofText? "identifier" text

def quoted (n : Name) : String := "\"" ++ n.text ++ "\""

def ofLabel? : Label → Except Fault Name
  | .word s => make? s
  | .kind k => .ok (.kind k)

def id : Name := .plain "id" (by decide)

end Name

/-- The name of a row within a statement: given from outside, or numbered within a filter. -/
inductive Alias
  | row (name : String)
  | sub (n : Nat)
deriving DecidableEq

def Alias.text : Alias → String
  | row name => name
  | sub n => "s" ++ decimalText n

end EntityViews.Sql
