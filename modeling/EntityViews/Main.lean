import EntityViews.Command.Run
import EntityViews.Storage.Script
import Std.Time.DateTime.Timestamp

/-!
The command line. No database is linked in: statements are taken without rows in return.
-/

namespace EntityViews.Command

def settingNames : List String := ["LEXIS_DB_PATH", "LEXIS_LOG_DIR", "LEXIS_LOG_LEVEL", "LEXIS_MAX_PAGE_SIZE"]

/-- The rows of a table with cells as wide as the widest of their column. -/
def aligned (rows : List (List String)) : List String :=
  let widths := rows.foldl (fun ws row => row.zipIdx.map fun c => max c.1.length (ws[c.2]?.getD 0)) []
  rows.map fun row => "  ".intercalate (row.zipIdx.map fun c =>
    c.1 ++ String.ofList (List.replicate (widths[c.2]?.getD 0 - c.1.length) ' '))

def Output.lines : Output → String
  | .text s => s
  | .table title rows => String.join ((title :: aligned rows).map (· ++ "\n"))

def faultLine (f : Fault) : String := "Error: " ++ f.message?.getD "the command failed" ++ "\n"

end EntityViews.Command

open EntityViews EntityViews.Command

def main (args : List String) : IO UInt32 := do
  let env ← settingNames.filterMapM fun name => do return (← IO.getEnv name).map fun value => (name, value)
  let now ← Std.Time.Timestamp.now
  let micros := now.toNanosecondsSinceUnixEpoch.val / 1000
  let report := Command.report (⟨[]⟩ : Script) (.ofDecimal (micros < 0) micros.natAbs (-6)) env args
  let journal := report.desk.journal
  if journal.file != "" then
    let directory := (Text.splitLast '/' journal.file).1
    if directory != "" then IO.FS.createDirAll directory
    IO.FS.withFile journal.file .append fun file => journal.lines.forM fun line => file.putStrLn line
  for text in journal.printed do
    IO.eprint text
  for output in report.desk.output do
    IO.print output.lines
  match report.fault with
  | some f => IO.eprint (faultLine f)
  | none => pure ()
  return report.exit.toUInt32
