import EntityViews.Fetch.Context

/-!
Which texts and meanings a viewer gets to see.
-/

namespace EntityViews.Learning

def equalTo (name : String) (v : Value) : Value := .map [(.text name, v)]

/-- Texts that are public and in no collection, texts of public collections, and a learner's own texts. -/
def textVisibility (viewer : Viewer) : Value :=
  let standalone : Value := .map [(.text "$and",
    .list [equalTo "collection" (equalTo "$eq" .null), equalTo "isPublic" (.bool true)])]
  let inPublic := equalTo "collection" (equalTo "isPublic" (.bool true))
  let own := match viewer with
    | .learner user => [equalTo "addedBy" (.int user.profile)]
    | _ => []
  .map [(.text "$or", .list (standalone :: inPublic :: own))]

def visibleInContext (c : Context) : Except Fault Value := .ok (textVisibility c.viewer)

/-- Meanings that the learner has saved. -/
def learnerMeanings (c : Context) : Except Fault Value := do
  let user ← c.requireUser "learnerMeanings"
  return equalTo "learners" (.int user.profile)

end EntityViews.Learning
