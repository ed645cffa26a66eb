import EntityViews.Fetch.Plan
import EntityViews.Learning.Annotators
import EntityViews.View.Reader

/-!
Running plans: one look-up of the root records, one load per filtered relation, then the annotators one by one. Nothing
is caught here, so the first failure ends the run.
-/

namespace EntityViews

variable {δ : Type}

/-- What running a plan needs of a repository: finding records, and loading relations onto them. -/
structure RecordSource (δ : Type) where
  find : Value → List String → List String → Value → Option Int → Option Int → Run δ (List Node)
  populate : List Node → List String → Value → List String → Run δ Unit

/-- How the root records are sorted and which of them are wanted. -/
structure Paging where
  orderBy : Value
  limit : Option Int
  offset : Option Int

namespace Execution

/-- The number of annotators told of so far. -/
def annotationCount (events : Array Event) : Nat :=
  (events.filter fun | .annotated _ _ _ => true | _ => false).size

/-- Does what the behaviour of a scripted annotator says, and sets the field of its name to the number of its run. -/
def annotateScripted (name : String) (records : List Node) (context : Context) : Run δ Unit := do
  let behaviour := ((← get).registry.behaviour? name).getD ⟨none, none, none, none⟩
  match behaviour.requires with
  | some what => let _ ← context.requireUser what
  | none => pure ()
  let ids ← records.mapM fun r => Run.currentField r "id"
  let saw ← match behaviour.reads with
    | some field => do pure (some (← records.mapM fun r => Run.currentField r field))
    | none => pure none
  Run.tell (.annotated name ids saw)
  match behaviour.fails with
  | some message => throw (.annotator message)
  | none => pure ()
  let n := annotationCount (← get).events
  records.forM fun record => Run.setField record name (.scalar (.int n))

def annotate [Engine δ] (a : Annotator) (records : List Node) (context : Context) : Run δ Unit :=
  match a with
  | .vocabsByLevel owner => Learning.annotateVocabsByLevel owner records context
  | .isBookmarked owner => Learning.annotateIsBookmarked owner records context
  | .scripted name => annotateScripted name records context

def recordsAt (sources : EntityFields) (path : String) (roots : List Node) : Run δ (List Node) := do
  let w ← get
  let graph := w.registry.graph
  set { w with registry := w.registry.visit (w.store.resolveVisits graph sources path roots) }
  w.store.resolve graph sources path roots

def plan (sources : EntityFields) (view : Value) (context : Context) (overrides : Value) (path : String) :
    Run δ Plan := do
  let view ← View.ofValue view
  let w ← get
  let graph := w.registry.graph
  let visits := Plan.visits graph context overrides sources path view
  set { w with registry := w.registry.visit (Plan.entered visits) }
  Plan.compile graph context overrides sources path view

/-- Runs a plan with annotators that do what is told of them. -/
def runWith (annotate : Annotator → List Node → Context → Run δ Unit) (source : RecordSource δ) (plan : Plan)
    (filter : Value) (sources : EntityFields) (context : Context) (paging : Paging) : Run δ (List Node) := do
  let records ← source.find filter plan.fields plan.populate paging.orderBy paging.limit paging.offset
  plan.filtered.forM fun f => source.populate records f.populate f.filter f.fields
  plan.annotations.forM fun a => do
    let targets ← recordsAt sources a.path records
    annotate a.annotator targets context
  return records

def executeWith (annotate : Annotator → List Node → Context → Run δ Unit) (source : RecordSource δ)
    (filter overrides view : Value) (sources : EntityFields) (context : Context) (paging : Paging) :
    Run δ (List Node) := do
  let plan ← plan sources view context overrides ""
  runWith annotate source plan filter sources context paging

variable [Engine δ]

def run : RecordSource δ → Plan → Value → EntityFields → Context → Paging → Run δ (List Node) := runWith annotate

def execute : RecordSource δ → Value → Value → Value → EntityFields → Context → Paging → Run δ (List Node) :=
  executeWith annotate

/-- The first record of a view, if there is one. -/
def executeOne (source : RecordSource δ) (filter overrides view : Value) (sources : EntityFields)
    (context : Context) : Run δ (Option Node) := do
  return (← execute source filter overrides view sources context ⟨.null, some 1, none⟩).head?

end Execution

/-- Resolves views by the names of entities; a page has at most so many records. -/
structure Resolver (δ : Type) where
  repositories : String → Run δ (RecordSource δ)
  maxPageSize : Option Int

namespace Resolver

/-- The limit that is asked for, within what is allowed. -/
def cappedLimit (maxPageSize limit : Option Int) : Option Int :=
  match maxPageSize, limit with
  | none, limit => limit
  | some most, none => some most
  | some most, some n => some (min n most)

def plan (entity : String) (view : Value) (context : Context) (overrides : Value) : Run δ Plan := do
  let sources ← Run.fetchFields entity
  Execution.plan sources view context overrides ""

variable [Engine δ]

def resolve (r : Resolver δ) (entity : String) (filter view : Value) (context : Context) (overrides : Value)
    (paging : Paging) : Run δ (List Node) := do
  let sources ← Run.fetchFields entity
  let source ← r.repositories entity
  Execution.execute source filter overrides view sources context
    { paging with limit := cappedLimit r.maxPageSize paging.limit }

def resolveOne (r : Resolver δ) (entity : String) (filter view : Value) (context : Context) (overrides : Value) :
    Run δ (Option Node) := do
  let sources ← Run.fetchFields entity
  let source ← r.repositories entity
  Execution.executeOne source filter overrides view sources context

end Resolver

/-- The repository of an entity as a source of records. -/
def Repository.source [Engine δ] (s : Schema) (e : Entity) : RecordSource δ where
  find filter fields populate orderBy limit offset := Repository.find s e filter (some fields) populate orderBy limit offset
  populate records paths filter fields := Repository.populate s e.name records paths filter (some fields)

def Run.open (name : String) : Run δ Unit :=
  modify fun w => { w with opened := if name ∈ w.opened then w.opened else w.opened ++ [name] }

/-- The entity of a name, whose repository is used from now on. -/
def Schema.open (s : Schema) (name : String) : Run δ Entity :=
  match s.entity? name with
  | some e => do
    Run.open name
    return e
  | none => throw (.noSchema name)

/-- Uses the repositories of all entities, and gives the names of all that are in use. -/
def Schema.openAll (s : Schema) : Run δ (List String) := do
  s.entities.forM fun e => Run.open e.name
  return (← get).opened

def Schema.resolver [Engine δ] (s : Schema) (maxPageSize : Option Int) : Resolver δ where
  repositories name := do return Repository.source s (← s.open name)
  maxPageSize := maxPageSize

end EntityViews
