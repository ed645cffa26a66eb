import EntityViews.Value.Key

/-!
Views: trees of the fields wanted of an entity and of the entities related to it.
-/

namespace EntityViews

/-- The fields wanted of an entity, alone or with views of its relations. -/
inductive View
  | names (fields : List String)
  | full (fields : List String) (relations : List (String × View))

namespace View

def fields : View → List String
  | names fs => fs
  | full fs _ => fs

def expanded : View → View
  | names fs => .full fs []
  | v => v

/-- The views of the relations in the order they were given, each in full form. -/
def relationViews : View → List (String × View)
  | names _ => []
  | full _ relations => relations.map fun r => (r.1, r.2.expanded)

def find? (name : String) (relations : List (String × View)) : Option View :=
  (relations.find? (·.1 == name)).map (·.2)

/-- Puts a view under a relation name: in place if the name is there, else at the end. -/
def put (name : String) (view : View) : List (String × View) → List (String × View)
  | [] => [(name, view)]
  | (n, v) :: rest => if n = name then (n, view) :: rest else (n, v) :: put name view rest

mutual

/-- What either of two views wants; fields and relations keep the order in which they first appear. -/
def merge (a : View) : View → View
  | names fs => .full (distinct (a.fields ++ fs)) a.relationViews
  | full fs relations => .full (distinct (a.fields ++ fs)) (mergeRelations a.relationViews relations)

def mergeRelations (merged : List (String × View)) : List (String × View) → List (String × View)
  | [] => merged
  | (name, view) :: rest =>
    match find? name merged with
    | none => mergeRelations (put name view.expanded merged) rest
    | some known => mergeRelations (put name (merge known view) merged) rest

end

mutual

/-- A view as a value: a list of names, or a map of fields and relations. -/
def toValue : View → Value
  | names fs => .ofTexts fs
  | full fs relations =>
    .ofFields [("fields", .ofTexts fs), ("relations", .map (relationValues relations))]

def relationValues : List (String × View) → List (Value × Value)
  | [] => []
  | (name, view) :: rest => (.text name, view.toValue) :: relationValues rest

end

end View

end EntityViews
