import EntityViews.Storage.World

/-!
A database whose answers are written down beforehand. Each statement takes the next one, and an empty answer when there
are none left; connections and settings always succeed and have no answer.
-/

namespace EntityViews

structure Script where
  answers : List (Except Fault Answer)

/-- Whether a statement is a setting of the connection. -/
def Sql.Statement.isSetting (s : Sql.Statement) : Bool := (Text.dropStart? "PRAGMA" s.text).isSome

instance : Engine Script where
  perform
    | .execute s, ⟨answers⟩ =>
      if s.isSetting then (.ok .empty, ⟨answers⟩)
      else match answers with
        | [] => (.ok .empty, ⟨[]⟩)
        | a :: rest => (a, ⟨rest⟩)
    | _, s => (.ok .empty, s)

end EntityViews
