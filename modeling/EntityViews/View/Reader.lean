import EntityViews.Fault

/-!
Views from values: a list of names, or a map of fields and relations in which a relation may be given either way.
-/

namespace EntityViews.View

def namesOf? : Value → Option (List String)
  | .list items | .tuple items | .set items => items.mapM Value.asText?
  | _ => none

def fieldsIn? (entries : List (Value × Value)) : Option (List String) :=
  match lookup? (.text "fields") entries with
  | none => some []
  | some v => namesOf? v

mutual

/-- The relations given in a map; nothing in their place stands for none. -/
def relationsIn? : List (Value × Value) → Option (List (String × View))
  | [] => some []
  | (key, value) :: rest =>
    if key.same (.text "relations") then
      match value with
      | .null => some []
      | .map entries => relationEntries? entries
      | _ => none
    else relationsIn? rest

/-- Views by relation name, each a list of names or a map of its own. -/
def relationEntries? : List (Value × Value) → Option (List (String × View))
  | [] => some []
  | (key, value) :: rest => do
    let name ← key.asText?
    let view ← match value with
      | .map entries => do
        let fields ← fieldsIn? entries
        let relations ← relationsIn? entries
        pure (View.full fields relations)
      | v => (namesOf? v).map fun ns => View.names ns
    let views ← relationEntries? rest
    return (name, view) :: views

end

/-- A view given as a map; what is neither its fields nor its relations is passed over. -/
def ofMap? (entries : List (Value × Value)) : Option View := do
  let fields ← fieldsIn? entries
  let relations ← relationsIn? entries
  return .full fields relations

/-- A view in any of its spellings; the outermost level takes its full form. -/
def ofValue : Value → Except Fault View
  | .list items | .tuple items =>
    match namesOf? (.list items) with
    | some fields => .ok (.full fields [])
    | none => .error (.refused [])
  | .map entries =>
    match ofMap? entries with
    | some view => .ok view
    | none => .error (.refused [])
  | v => .error (.notAView v.typeName)

end EntityViews.View
