import EntityViews.Fault

/-!
Settings from the environment. What is not set, or set to nothing, keeps its default.
-/

namespace EntityViews

structure Settings where
  database : String
  logDirectory : String
  logLevel : String
  maxPageSize : Option Int

namespace Settings

def default : Settings := ⟨".lexis/data.db", ".lexis/logs", "INFO", none⟩

def setting? (env : List (String × String)) (name : String) : Option String :=
  match env.find? (·.1 == name) with
  | some (_, "") => none
  | some (_, v) => some v
  | none => none

def ofEnvironment (env : List (String × String)) : Except Fault Settings := do
  let database := ((setting? env "LEXIS_DB_PATH").map tidyPath).getD default.database
  let logDirectory := ((setting? env "LEXIS_LOG_DIR").map tidyPath).getD default.logDirectory
  let logLevel := ((setting? env "LEXIS_LOG_LEVEL").map Text.toUpper).getD default.logLevel
  match setting? env "LEXIS_MAX_PAGE_SIZE" with
  | none => return ⟨database, logDirectory, logLevel, none⟩
  | some text =>
    match wholeNumber text with
    | .ok n => return ⟨database, logDirectory, logLevel, some n⟩
    | .error _ => .error (.pageSize (Text.quoted text))

end Settings

end EntityViews
