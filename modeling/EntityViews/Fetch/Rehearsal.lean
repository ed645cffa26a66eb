import EntityViews.Fetch.Execution

/-!
A source of records that are laid out beforehand, which tells what it is asked for.
-/

namespace EntityViews

inductive Failing
  | find
  | populate
deriving DecidableEq

/-- The records to find, and what is attached to the record of an id under a path. -/
structure Rehearsal where
  roots : List Node
  related : List (Value × String × Node)
  failing : Option Failing

namespace Rehearsal

variable {δ : Type}

/-- The filter that lets no record through: that the id is -1. -/
def isNowhere (filter : Value) : Bool :=
  match filter with
  | .map [(key, value)] => key.same (.text "id") && value.same (.int (-1))
  | _ => false

/-- What is attached to a record last under an id and a path, an empty list by default. -/
def relatedTo (r : Rehearsal) (id : Value) (path : String) : Node :=
  match r.related.reverse.find? fun e => e.1.same id && e.2.1 == path with
  | some e => e.2.2
  | none => .list []

def find (r : Rehearsal) (filter : Value) (fields populate : List String) (orderBy : Value)
    (limit offset : Option Int) : Run δ (List Node) := do
  Run.tell (.found filter fields populate orderBy limit offset)
  if r.failing = some .find then throw (.database "OperationalError" "database is locked")
  return if isNowhere filter then [] else r.roots

def populate (r : Rehearsal) (records : List Node) (paths : List String) (filter : Value) (fields : List String) :
    Run δ Unit := do
  let ids ← records.mapM fun n => Run.currentField n "id"
  Run.tell (.populated ids paths filter fields)
  if r.failing = some .populate then throw (.database "OperationalError" "disk I/O error")
  match paths with
  | [] => return
  | path :: _ =>
    records.forM fun record => do
      let id ← Run.currentField record "id"
      Run.setField record path (r.relatedTo id path)

def source (r : Rehearsal) : RecordSource δ where
  find := r.find
  populate := r.populate

end Rehearsal

end EntityViews
