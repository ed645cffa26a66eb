import EntityViews.Number.Decimal

/-!
Reading command lines. Options have two dashes and a value, which follows behind an equals sign or as the next word; of
an option given twice the last value counts. Two dashes alone end the options.
-/

namespace EntityViews.Command

/-- Why a command line asks for nothing that can be done. -/
inductive Usage
  /-- Help is asked for. -/
  | help
  | wrong
  /-- The null character is in a path. -/
  | noPath

/-- A command line by its options and its other words. -/
structure Words where
  options : List (String × String)
  help : Bool
  others : List String

def attached (word : String) : String × Option String :=
  let name := word.toList.takeWhile (· != '=')
  match word.toList.drop name.length with
  | _ :: value => (String.ofList name, some (String.ofList value))
  | [] => (word, none)

def isOption (word : String) : Bool := word.startsWith "-" && word != "-"

namespace Words

def withOption (w : Words) (name value : String) : Words := { w with options := (name, value) :: w.options }

/-- Reads words with options of some names. Options may follow other words if `mixed`, else the first other word ends
them. -/
def read (known : List String) (mixed : Bool) : List String → Except Usage Words
  | [] => .ok ⟨[], false, []⟩
  | "--" :: rest => .ok ⟨[], false, rest⟩
  | word :: rest =>
    if isOption word then
      match attached word with
      | ("--help", none) => (read known mixed rest).map fun w => { w with help := true }
      | (name, some value) =>
        if name ∈ known then (read known mixed rest).map fun w => keep w name value else .error .wrong
      | (name, none) =>
        match rest with
        | value :: rest =>
          if name ∈ known then (read known mixed rest).map fun w => keep w name value else .error .wrong
        | [] => .error .wrong
    else if mixed then (read known mixed rest).map fun w => { w with others := word :: w.others }
    else .ok ⟨[], false, word :: rest⟩
where
  /-- Adds an option unless a later one of its name is there. -/
  keep (w : Words) (name value : String) : Words :=
    if w.options.any (·.1 == name) then w else w.withOption name value

def option? (w : Words) (name : String) : Option String := (w.options.find? (·.1 == name)).map (·.2)

def wholeOption (w : Words) (name : String) : Except Usage (Option Int) :=
  match w.option? name with
  | none => .ok none
  | some text =>
    match wholeNumber text with
    | .ok n => .ok (some n)
    | .error _ => .error .wrong

end Words

structure Explanation where
  entity : String
  view : String
  user : Option Int
  profile : Option Int
  filters : Option String

inductive Request
  | initDb (path : Option String)
  | views
  | explain (e : Explanation)

inductive CommandName
  | initDb
  | views
  | explain

def commandName? : String → Option CommandName
  | "init-db" => some .initDb
  | "views" => some .views
  | "explain" => some .explain
  | _ => none

/-- What stands in front of a command, the command, and the words that follow it. -/
structure CommandLine where
  logLevel : Option String
  command : CommandName
  rest : List String

/-- Reads a command line up to the name of its command. -/
def CommandLine.read (args : List String) : Except Usage CommandLine := do
  let words ← Words.read ["--log-level"] false args
  if words.help then throw .help
  match words.others with
  | [] => throw .wrong
  | name :: rest =>
    match commandName? name with
    | some c => return ⟨words.option? "--log-level", c, rest⟩
    | none => throw .wrong

def Request.read (command : CommandName) (args : List String) : Except Usage Request := do
  let known := match command with
    | .initDb => ["--db-path"]
    | .views => []
    | .explain => ["--user-id", "--profile-id", "--relation-filters"]
  let words ← Words.read known true args
  if words.help then throw .help
  if ((words.option? "--db-path").getD "").toList.any (· = '\x00') then throw .noPath
  match command, words.others with
  | .initDb, [] => return .initDb (words.option? "--db-path")
  | .views, [] => return .views
  | .explain, [entity, view] =>
    return .explain ⟨entity, view, ← words.wholeOption "--user-id", ← words.wholeOption "--profile-id",
      words.option? "--relation-filters"⟩
  | _, _ => throw .wrong

end EntityViews.Command
