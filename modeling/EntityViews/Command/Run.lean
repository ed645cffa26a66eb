import EntityViews.Command.Usage
import EntityViews.Fetch.Execution
import EntityViews.Learning.Entities
import EntityViews.Learning.Sources
import EntityViews.Learning.Views
import EntityViews.Log.Journal
import EntityViews.Text.Markup

/-!
The commands: making the tables of the domain, listing the named views, and explaining what a view fetches.
-/

namespace EntityViews.Command

inductive Output
  | text (s : String)
  /-- A table by its title and its rows, the first of them the headings. -/
  | table (title : String) (rows : List (List String))

/-- Why a command ends early. -/
inductive Stop
  | exit (code : Nat)
  | fault (f : Fault)

structure Desk (δ : Type) where
  world : World δ
  journal : Log.Journal
  output : List Output
  time : Binary64

abbrev Shell (δ : Type) : Type → Type := ExceptT Stop (StateM (Desk δ))

namespace Shell

variable {δ : Type}

def work {α : Type} (w : Run δ α) : Shell δ α := do
  let desk ← get
  let (outcome, world) := (ExceptT.run w).run desk.world
  set { desk with world := world }
  match outcome with
  | .ok a => return a
  | .error f => throw (.fault f)

def print (s : String) : Shell δ Unit := modify fun d => { d with output := d.output ++ [.text s] }

/-- Prints a line whose style tags are taken out. -/
def say (markup : String) : Shell δ Unit := do
  match Markup.text markup with
  | .ok s => print (Text.printed s ++ "\n")
  | .error .tag => throw (.fault .badMarkup)
  | .error (.numeral f) => throw (.fault (.ofNumeral (Text.quoted "") f))

/-- Prints a complaint and ends. -/
def complain {α : Type} (message : String) : Shell δ α := do
  say ("[red]" ++ message ++ "[/red]")
  throw (.exit 1)

def log (logger : String) (level : Int) (template : String) (args : List Value) (context : Value) : Shell δ Unit :=
  modify fun d => { d with journal := d.journal.log ⟨logger, level, template, args, d.time, ⟨"", 0, ""⟩, none, context, none⟩ }

end Shell

def component : String := "CLI"

variable {δ : Type}

/-- Makes the tables of the domain that are not there yet. The folder of the database comes first. -/
def initDb [Engine δ] (path : String) : Shell δ Unit := do
  if let some met := Obstacle.toFolder? (← get).journal.files (folderOf path) then throw (.fault (.obstacle met))
  let created ← Shell.work (Database.createAll Learning.entities)
  let existing := Learning.entities.length - created.length
  Shell.log (Log.loggerName component) 20 "Schema created" [] (.ofFields [("db_path", .text path),
    ("tables", .int created.length), ("existing", .int existing)])
  Shell.say ("[green]Created " ++ decimalText created.length ++ " tables in " ++ path ++
    (if existing = 0 then "" else " (" ++ decimalText existing ++ " already present)") ++ "[/green]")

def viewTable : Output :=
  .table "Named views" (["Name", "Entity", "Fields", "Relations"] :: Learning.namedViews.map fun v =>
    [v.name, v.entity, ", ".intercalate v.view.fields, ", ".intercalate (v.view.relationViews.map (·.1))])

def viewOf (e : Explanation) : Shell δ View := do
  match Learning.namedView? e.view with
  | some v =>
    if v.entity = e.entity then return v.view
    else
      Shell.complain ("View '" ++ e.view ++ "' is a " ++ v.entity ++ " view, not a " ++ e.entity ++ " view")
  | none =>
    let rejected := fun (message : String) =>
      (Shell.complain ("Not a named view or valid view JSON: " ++ message) : Shell δ View)
    match Json.read e.view with
    | .error .tooDeep => throw (.fault .tooDeep)
    | .error fault => rejected ((Fault.ofJson fault).message?.getD "")
    | .ok j =>
      match View.ofValue j with
      | .ok v => return v
      | .error fault => rejected (fault.message?.getD "<validation error>")

def viewerOf (e : Explanation) : Viewer :=
  match e.user with
  | none => .anonymous
  | some id => .learner ⟨id, "user" ++ intText id, match e.profile with | none | some 0 => id | some p => p⟩

def filtersOf (e : Explanation) : Shell δ Value := do
  match e.filters with
  | none | some "" => return .null
  | some text =>
    match Json.read text with
    | .ok v => return v
    | .error (.malformed fault) => Shell.complain ("Invalid relation filters: " ++ fault.message)
    | .error fault => throw (.fault (.ofJson fault))

/-- Logs the keys of a view that its plan passes over. -/
def logSkipped (visits : List Plan.Visit) : Shell δ Unit :=
  visits.forM fun
    | .skipped path entity => Shell.log (Log.rootName ++ ".fetch_plan") 10
        "Skipping relation '%s' on %s: no relation fetch spec" [.text path, .text entity] .null
    | .entered _ => return

def explain (e : Explanation) : Shell δ Unit := do
  let view ← viewOf e
  let filters ← filtersOf e
  let context : Context := ⟨viewerOf e, false, []⟩
  let plan ← tryCatch
    (do
      let sources ← Shell.work (Run.fetchFields e.entity)
      logSkipped (Plan.visits (← get).world.registry.graph context filters sources "" view)
      Shell.work (Execution.plan sources view.toValue context filters ""))
    fun
      | .fault f => if f.isUnresolved then Shell.complain (f.message?.getD "") else throw (.fault f)
      | stop => throw stop
  let described := plan.toValue (← get).world.registry.annotatorName
  match (Json.write? .plainText described).map Json.read with
  | some (.ok j) => Shell.print (Json.indented 0 j ++ "\n")
  | _ => throw (.fault .mistyped)

def perform [Engine δ] (settings : Settings) : Request → Shell δ Unit
  | .initDb path => initDb ((path.map tidyPath).getD settings.database)
  | .views => modify fun d => { d with output := d.output ++ [viewTable] }
  | .explain e => explain e

/-- Ends as a command line that cannot be followed does. -/
def misused {α : Type} : Usage → Shell δ α
  | .help => throw (.exit 0)
  | .wrong => throw (.exit 2)
  | .noPath => throw (.fault (.obstacle .nullCharacter))

/-- Reads a command line and does what it asks for. Logging is set up before the words behind the command are read. -/
def run [Engine δ] (env : List (String × String)) (args : List String) : Shell δ Unit := do
  match CommandLine.read args with
  | .error usage => misused usage
  | .ok line =>
    let settings ← orFault (Settings.ofEnvironment env)
    let level := match line.logLevel with
      | none | some "" => settings.logLevel
      | some level => level
    let desk ← get
    let journal ← orFault (desk.journal.setUp settings.logDirectory (.text level) desk.time)
    set { desk with journal := journal }
    match Request.read line.command line.rest with
    | .error usage => misused usage
    | .ok request => perform settings request
where
  orFault {α : Type} : Except Fault α → Shell δ α
    | .ok a => return a
    | .error f => throw (.fault f)

structure Report (δ : Type) where
  exit : Nat
  fault : Option Fault
  desk : Desk δ

/-- Does what a command line asks for, on a database and at a time. -/
def report [Engine δ] (database : δ) (time : Binary64) (env : List (String × String)) (args : List String) :
    Report δ :=
  let desk : Desk δ := ⟨.start database Learning.registry, Log.Journal.empty.request component, [], time⟩
  match (ExceptT.run (run env args)).run desk with
  | (.ok _, desk) => ⟨0, none, desk⟩
  | (.error (.exit code), desk) => ⟨code, none, desk⟩
  | (.error (.fault f), desk) => ⟨1, some f, desk⟩

end EntityViews.Command
