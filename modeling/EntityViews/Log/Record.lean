import EntityViews.Log.Level
import EntityViews.Log.Message
import EntityViews.Calendar.Clock
import EntityViews.Text.Printed

/-!
Log records and their two forms: an entry, written as one JSON object on a line, and a short line for the console.
-/

namespace EntityViews.Log

structure Origin where
  file : String
  line : Int
  function : String

structure Record where
  logger : String
  level : Int
  template : String
  args : List Value
  /-- Seconds since the start of 1970. -/
  time : Binary64
  origin : Origin
  component : Option String
  context : Value
  /-- Kind and message of a failure. -/
  failure : Option (String × String)

namespace Record

/-- The component of a record: its own, else the last segment of the name of its logger. -/
def componentName (r : Record) : String :=
  match r.component with
  | none | some "" => (Text.splitLast '.' r.logger).2
  | some c => c

def message (r : Record) : Except Fault String := Log.message r.template r.args

/-- The time of a record; the offset of universal time is written with one letter. -/
def timestamp (r : Record) : Except Fault String :=
  match DateTime.ofEpochSeconds r.time with
  | .ok t => .ok ({ t with offset := none }.text ++ "Z")
  | .error fault => .error (.calendar fault)

/-- The members that a record has only in part: its context unless that is empty, its origin from warnings on, its
failure. -/
def details (r : Record) : List (String × Value) :=
  (if r.context.isPresent then [("context", r.context)] else []) ++
  (if warning ≤ r.level then
    [("source", .ofFields [("file", .text r.origin.file), ("line", .int r.origin.line),
      ("function", .text r.origin.function)])] else []) ++
  (match r.failure with
    | some (kind, message) => [("exception", .ofFields [("type", .text kind), ("message", .text message)])]
    | none => [])

def entry (r : Record) : Except Fault (List (String × Value)) := do
  let timestamp ← r.timestamp
  let message ← r.message
  return [("timestamp", .text timestamp), ("level", .text (levelName r.level)),
    ("component", .text r.componentName), ("message", .text message)] ++ r.details

def entryLine (r : Record) : Except Fault String := do
  match Json.write? .plainText (.ofFields (← r.entry)) with
  | some line => return line
  | none => throw .mistyped

/-- The level as the console shows it; the usual one is not shown. -/
def levelNote (level : Int) : String := if level = 20 then "" else " " ++ levelName level ++ ":"

/-- The time of day in whole seconds. It is settled by a look at the day before, which the first day does not have. -/
def clock? (r : Record) : Option String :=
  match DateTime.ofEpochSeconds r.time with
  | .ok t =>
    if t.date.ordinal = 1 then none
    else some { t with micro := 0, offset := none, inDay := by have := t.inDay; omega }.clockText
  | .error _ => none

/-- What the console shows of a record: nothing if its message or its time has no form. -/
def consoleText (r : Record) : String :=
  match r.clock?, r.message with
  | some clock, .ok message =>
    Text.printed (clock ++ " [" ++ r.componentName ++ "]" ++ levelNote r.level ++ " " ++ message) ++ "\n"
  | _, _ => ""

end Record

end EntityViews.Log
