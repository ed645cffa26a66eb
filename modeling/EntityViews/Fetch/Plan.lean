import EntityViews.Fetch.Registry
import EntityViews.Filter

/-!
Fetch plans: what a single look-up of the root records brings along, which filtered relations are loaded onto them
afterwards, and which annotators run then. A path names the records at the end of a chain of relation keys.
-/

namespace EntityViews

/-- A relation loaded with a filter: its path, then those of what is loaded below it; the filter is on the root. -/
structure FilteredPopulate where
  populate : List String
  filter : Value
  fields : List String

structure Annotation where
  path : String
  annotator : Annotator
deriving DecidableEq

structure Plan where
  fields : List String
  populate : List String
  filtered : List FilteredPopulate
  annotations : List Annotation

/-- A list with those of some items added that are not in it yet. -/
def addNew {α : Type} [DecidableEq α] (known : List α) (items : List α) : List α :=
  items.foldl (fun known x => if x ∈ known then known else known ++ [x]) known

namespace Plan

def empty : Plan := ⟨[], [], [], []⟩

def addField (p : Plan) (field : String) : Plan := { p with fields := addNew p.fields [field] }

def addAnnotations (p : Plan) (annotations : List Annotation) : Plan :=
  { p with annotations := addNew p.annotations annotations }

/-- Takes in the plan of a relation. Under a filter its records are loaded apart; else they come with the root. -/
def attach (p : Plan) (path : String) (filter : Option Value) (nested : Plan) : Plan :=
  let annotations := addNew p.annotations nested.annotations
  match filter with
  | some f =>
    let own : FilteredPopulate := ⟨distinct (path :: nested.populate), Filter.nest path f, nested.fields⟩
    ⟨p.fields, p.populate, p.filtered ++ own :: nested.filtered, annotations⟩
  | none =>
    ⟨addNew p.fields nested.fields, addNew (addNew p.populate [path]) nested.populate,
      p.filtered ++ nested.filtered, annotations⟩

/-- The plan of the fields of one entity that a view names itself; relations are asked for elsewhere. -/
def ofFields (sources : EntityFields) (path : String) (view : View) (plan : Plan) : List String → Except Fault Plan
  | [] => .ok plan
  | name :: rest =>
    match sources.source? name with
    | none => .error (.unknownField name view)
    | some (.column) | some (.formula) => ofFields sources path view (plan.addField (Text.qualify path name)) rest
    | some (.annotated a) => ofFields sources path view (plan.addAnnotations [⟨path, a⟩]) rest
    | some (.relation _) => ofFields sources path view plan rest
    | some (.foreign word) => .error (.foreignSource word)

def contextFilter (context : Context) (r : RelationSource) : Except Fault Value :=
  match r.filter with
  | some f => f context
  | none => .ok .null

/-- The further filter that is given for a path; only a map can give any. -/
def override (overrides : Value) (path : String) : Except Fault Value :=
  match overrides with
  | .map entries => .ok ((lookup? (.text path) entries).getD .null)
  | v => if v.isPresent then .error .absentMember else .ok .null

def scope (context : Context) (overrides : Value) (path : String) (r : RelationSource) : Except Fault (Option Value) := do
  let own ← contextFilter context r
  let given ← override overrides path
  return Filter.conjunction [own, given]

mutual

def compile (graph : Graph) (context : Context) (overrides : Value) (sources : EntityFields) (path : String) :
    View → Except Fault Plan
  | .names fields => ofFields sources path (.full fields []) empty fields
  | .full fields relations => do
    let plan ← ofFields sources path (.full fields relations) empty fields
    compileRelations graph context overrides sources path plan relations

/-- Takes the relations of a view into a plan, one by one; what is no relation of the entity is passed over. -/
def compileRelations (graph : Graph) (context : Context) (overrides : Value) (sources : EntityFields) (path : String)
    (plan : Plan) : List (String × View) → Except Fault Plan
  | [] => .ok plan
  | (name, view) :: rest =>
    match sources.source? name with
    | some (.relation r) => do
      let here := Text.qualify path r.populate
      let target ← graph r.target
      let nested ← compile graph context overrides target here view
      let filter ← scope context overrides here r
      compileRelations graph context overrides sources path (plan.attach here filter nested) rest
    | _ => compileRelations graph context overrides sources path plan rest

end

/-- What a compilation comes by: an entity whose fields it asks for, or a key that is no relation of its entity. -/
inductive Visit
  | entered (entity : String)
  | skipped (path entity : String)

mutual

/-- What the compilation of a view comes by, up to where it fails. -/
def visits (graph : Graph) (context : Context) (overrides : Value) (sources : EntityFields) (path : String) :
    View → List Visit
  | .names _ => []
  | .full fields relations =>
    if (ofFields sources path (.full fields relations) empty fields).isOk then
      relationVisits graph context overrides sources path relations
    else []

def relationVisits (graph : Graph) (context : Context) (overrides : Value) (sources : EntityFields) (path : String) :
    List (String × View) → List Visit
  | [] => []
  | (name, view) :: rest =>
    match sources.source? name with
    | some (.relation r) =>
      let here := Text.qualify path r.populate
      .entered r.target :: (match graph r.target with
        | .error _ => []
        | .ok target =>
          visits graph context overrides target here view ++
            (if (compile graph context overrides target here view).isOk && (scope context overrides here r).isOk then
              relationVisits graph context overrides sources path rest
            else []))
    | _ => .skipped (Text.qualify path name) sources.entity ::
      relationVisits graph context overrides sources path rest

end

/-- The entities that a compilation asks for, in turn. -/
def entered (visits : List Visit) : List String :=
  visits.filterMap fun | .entered entity => some entity | .skipped _ _ => none

def unfiltered (p : Plan) : List String × List String :=
  p.filtered.foldl (fun u f => (addNew u.1 f.fields, addNew u.2 f.populate)) (p.fields, p.populate)

/-- A plan as a value, with annotators by the names they are shown under. -/
def toValue (annotatorName : Annotator → String) (p : Plan) : Value :=
  .ofFields [
    ("localFields", .ofTexts p.fields),
    ("localPopulate", .ofTexts p.populate),
    ("filteredPopulates", .list (p.filtered.map fun f => .ofFields [
      ("populate", .ofTexts f.populate), ("filter", f.filter), ("fields", .ofTexts f.fields)])),
    ("annotatedFields", .list (p.annotations.map fun a => .ofFields [
      ("path", .text a.path), ("annotate", .text (annotatorName a.annotator))]))]

end Plan

end EntityViews
