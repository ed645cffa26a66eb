import EntityViews.Storage.Repository

/-!
Annotators of the learning domain. Each fills in one field of every record that it gets, with one query for all of them
and none if there are no records.
-/

namespace EntityViews.Learning

variable {δ : Type} [Engine δ]

def zeroHistogram : List (Value × Value) := VocabLevel.all.map fun l => (.int l.value, .int 0)

def placeholders (values : List Value) : String := Sql.placeholders values

def vocabsByLevelQuery (ids : List Value) : Owner → String
  | .texts =>
    "\nSELECT tv.\"textId\" AS \"ownerId\", COALESCE(lv.\"level\", 0) AS \"level\", COUNT(*) AS \"count\"\n" ++
    "FROM \"MapTextVocab\" tv\n" ++
    "LEFT JOIN \"MapLearnerVocab\" lv ON lv.\"vocabId\" = tv.\"vocabId\" AND lv.\"learnerId\" = ?\n" ++
    "WHERE tv.\"textId\" IN (" ++ placeholders ids ++ ")\n" ++
    "GROUP BY tv.\"textId\", COALESCE(lv.\"level\", 0)\n"
  | .collections =>
    "\nSELECT t.\"collectionId\" AS \"ownerId\", COALESCE(lv.\"level\", 0) AS \"level\", COUNT(*) AS \"count\"\n" ++
    "FROM \"Text\" t\n" ++
    "JOIN \"MapTextVocab\" tv ON tv.\"textId\" = t.\"id\"\n" ++
    "LEFT JOIN \"MapLearnerVocab\" lv ON lv.\"vocabId\" = tv.\"vocabId\" AND lv.\"learnerId\" = ?\n" ++
    "WHERE t.\"collectionId\" IN (" ++ placeholders ids ++ ")\n" ++
    "GROUP BY t.\"collectionId\", COALESCE(lv.\"level\", 0)\n"

def bookmarkTable : Owner → String × String
  | .texts => ("TextBookmark", "textId")
  | .collections => ("CollectionBookmark", "collectionId")

def bookmarkQuery (ids : List Value) (owner : Owner) : String :=
  let (table, key) := bookmarkTable owner
  "SELECT \"" ++ key ++ "\" AS \"ownerId\" FROM \"" ++ table ++ "\" WHERE \"bookmarkerId\" = ? AND \"" ++ key ++
    "\" IN (" ++ placeholders ids ++ ")"

/-- The distinct ids of records, each of which has to have one. -/
def recordIds (records : List Node) : Run δ (List Value) := do
  let ids ← records.mapM fun r => do (← Run.item r "id").key
  return distinctKeys ids

/-- Rows of a query for a learner and some ids. -/
def query (context : Context) (user : User) (ids : List Value) (sql : String) : Run δ (List Node) := do
  if !context.hasDatabase then throw .noDatabase
  Database.fetchAll sql (.int user.profile :: ids)

/-- Counts by owner and level with that of one more row. -/
def addCount (counts : List (Value × List (Value × Node))) (row : Node) : Run δ (List (Value × List (Value × Node))) := do
  let count ← Run.item row "count"
  let owner ← (← Run.item row "ownerId").key
  let level ← Run.item row "level"
  let level ← ((← get).store.value level).wholeNumber
  return assign owner (assign (.int level) count ((lookup? owner counts).getD [])) counts

/-- How many words of each level the texts of each record have, for the learner. -/
def annotateVocabsByLevel (owner : Owner) (records : List Node) (context : Context) : Run δ Unit := do
  let user ← context.requireUser "vocabsByLevel"
  if records.isEmpty then return
  let ids ← recordIds records
  let rows ← query context user ids (vocabsByLevelQuery ids owner)
  let counts ← rows.foldlM addCount []
  records.forM fun record => do
    let id ← (← Run.item record "id").key
    let zeros := zeroHistogram.map fun e => (e.1, Node.scalar (.int 0))
    let own := (lookup? id counts).getD []
    let histogram ← Run.newRecord (own.foldl (fun h e => assign e.1 e.2 h) zeros)
    Run.setField record "vocabsByLevel" histogram

/-- Whether the learner has bookmarked each record; a viewer who is not logged in has none. -/
def annotateIsBookmarked (owner : Owner) (records : List Node) (context : Context) : Run δ Unit := do
  if records.isEmpty then return
  match context.viewer with
  | .learner user =>
    let ids ← recordIds records
    let rows ← query context user ids (bookmarkQuery ids owner)
    let bookmarked ← rows.mapM fun row => do (← Run.item row "ownerId").key
    records.forM fun record => do
      let id ← (← Run.item record "id").key
      Run.setField record "isBookmarked" (.scalar (.bool (bookmarked.any id.same)))
  | _ => records.forM fun record => Run.setField record "isBookmarked" (.scalar (.bool false))

end EntityViews.Learning
