import EntityViews.Value.Key
import EntityViews.Text.Split

/-!
Filters as values, and how they are put together and taken apart.
-/

namespace EntityViews.Filter

/-- The filter that all of some filters make up: absent ones do not count, and a single one stands for itself. -/
def conjunction (filters : List Value) : Option Value :=
  match filters.filter Value.isPresent with
  | [] => none
  | [filter] => some filter
  | present => some (.map [(.text "$and", .list present)])

/-- A filter on the rows at the end of a relation path, as one on the rows at its beginning. -/
def nest (path : String) (filter : Value) : Value :=
  (Text.segments path).foldr (fun name inner => .map [(.text name, inner)]) filter

def descend : List String → Value → Option Value
  | [], value => some value
  | name :: rest, value => (value.field? name).bind (descend rest)

/-- The part of a filter that is on the rows at exactly the end of a path. -/
def atPath (filter : Value) (path : String) : Option Value :=
  match descend (Text.segments path) filter with
  | some (.map entries) => some (.map entries)
  | _ => none

end EntityViews.Filter
