import EntityViews.Fetch.Registry

/-!
Fields of entities declared as data: filters and annotators are told by what they do.
-/

namespace EntityViews

/-- A filter that a context asks for, told by what it does. -/
inductive FilterRule
  /-- The same filter for everyone. -/
  | constant (filter : Value)
  /-- A filter for viewers who are not logged in. -/
  | forStrangers (filter : Value)
  /-- The filter that the context holds under a key. -/
  | fromContext (key : String)
  /-- That a field holds the profile of the learner, who is required for something. -/
  | ownedBy (what field : String)

def FilterRule.apply (context : Context) : FilterRule → Except Fault Value
  | constant filter => .ok filter
  | forStrangers filter => .ok (if context.isAuthenticated then .null else filter)
  | fromContext key => .ok (context.get key .null)
  | ownedBy what field => (context.requireUser what).map fun u => .map [(.text field, .int u.profile)]

/-- A field told by what its source is. The cardinality of a relation is checked unless it is `unchecked`. -/
inductive Declaration
  | source (s : Source)
  | relation (target populate cardinality : String) (filter : Option FilterRule) (unchecked : Bool)
  | annotated (name : String) (behaviour : Behaviour)

def Declaration.build : Declaration → Except Fault Source
  | source s => .ok s
  | relation target populate word filter unchecked =>
    let cardinality := Cardinality.ofWord word
    match cardinality, unchecked with
    | .other _, false => .error (.refused [])
    | _, _ => .ok (.relation ⟨populate, target, cardinality, filter.map fun f c => f.apply c⟩)
  | annotated name _ => .ok (.annotated (.scripted name))

/-- The behaviours of the annotators that are declared before anything that cannot be built. -/
def behavioursOf (fields : List (String × Declaration)) : List (String × Behaviour) :=
  (fields.takeWhile fun f => f.2.build.isOk).filterMap fun f => match f.2 with
    | .annotated name behaviour => some (name, behaviour)
    | _ => none

/-- How an entity of declared fields is built. -/
def Blueprint.ofDeclarations (entity : String) (fields : List (String × Declaration)) : Blueprint where
  build _ := do
    let pairs ← fields.mapM fun f => do return (f.1, ← f.2.build)
    EntityFields.ofPairs entity pairs
  annotators := behavioursOf fields
  counted := true

end EntityViews
