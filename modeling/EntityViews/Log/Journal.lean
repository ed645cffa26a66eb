import EntityViews.Log.Record
import EntityViews.Settings

/-!
The journal of a program: its log file and what it printed. Loggers form a tree by the dots in their names; only the
tree below one root is written down. A logger that is asked for by the name of a component marks its own records with it.
-/

namespace EntityViews.Log

/-- The name of the root of the loggers that are written down. -/
def rootName : String := "lexis_back"

def loggerName (component : String) : String := rootName ++ "." ++ Text.toLower component

def isBelowRoot (logger : String) : Bool :=
  logger == rootName || (Text.dropStart? (rootName ++ ".") logger).isSome

structure Journal where
  file : String
  threshold : Int
  /-- The marks of loggers, the earlier first. -/
  marks : List (String × String)
  /-- The components whose loggers were asked for. -/
  components : List String
  lines : List String
  printed : List String

namespace Journal

def empty : Journal := ⟨"", warning, [], [], [], []⟩

/-- Asks for the logger of a component. The first time its name marks the logger. -/
def request (j : Journal) (component : String) : Journal :=
  if component ∈ j.components then j
  else { j with
    marks := j.marks ++ [(loggerName component, component)], components := component :: j.components }

def mark? (j : Journal) (logger : String) : Option String := (j.marks.find? (·.1 == logger)).map (·.2)

/-- A record with the mark of its logger, unless it names a component itself. -/
def marked (j : Journal) (r : Record) : Record :=
  { r with component := r.component.orElse fun _ => j.mark? r.logger }

def admits (j : Journal) (r : Record) : Bool := isBelowRoot r.logger && 0 < r.level && j.threshold ≤ r.level

/-- Writes a record down. What has no form for the file or for the console is left out there. -/
def log (j : Journal) (r : Record) : Journal :=
  if j.admits r then
    let r := j.marked r
    let lines := match r.entryLine with
      | .ok line => j.lines ++ [line]
      | .error _ => j.lines
    { j with lines := lines, printed := j.printed ++ [r.consoleText] }
  else j

def fileName : String := "lexis.log"

def fileIn (directory : String) : String :=
  let d := tidyPath directory
  if d = "." then fileName else if d = "/" || d = "//" then d ++ fileName else d ++ "/" ++ fileName

def opening (file : String) (time : Binary64) : Record where
  logger := rootName
  level := 10
  template := "Logging initialized"
  args := []
  time := time
  origin := ⟨"", 0, ""⟩
  component := some "Lexis"
  context := .ofFields [("log_file", .text file)]
  failure := none

def files (j : Journal) : List String := if j.file = "" then [] else [j.file]

/-- Sets a journal up for a directory and a level; what was written before stays. -/
def setUp (j : Journal) (directory : String) (level : Value) (time : Binary64) : Except Fault Journal := do
  if let some met := Obstacle.toFile? j.files (tidyPath directory) fileName then throw (.obstacle met)
  let n ← levelOf level
  let file := fileIn directory
  return { j with file := file, threshold := leastLevel n }.log (opening file time)

end Journal

end EntityViews.Log
