import EntityViews.Json.Tagged
import EntityViews.Record

/-!
Records from tagged values. What is kept under a name may be mentioned in several places, and all of them get the same
record.
-/

namespace EntityViews

/-- The records read so far, what is kept under names as it is tagged, and the nodes of the names mentioned so far. -/
structure Reading where
  store : Store
  shared : Value
  mentioned : List (String × Node)

namespace Reading

/-- A step of reading, `none` if a value is not tagged in a known way. -/
abbrev Step : Type → Type := StateT Reading Option

def depthLimit : Nat := 10000

def newRecord (entries : List (Value × Node)) : Step Node := do
  let s ← get
  let (id, store) := s.store.alloc entries
  set { s with store := store }
  return .record id

def newNode (v : Value) : Step Node := do
  let s ← get
  let (n, store) := s.store.load v
  set { s with store := store }
  return n

/-- The node of a tagged value down to a depth; what a tag of no known kind stands for is looked up. -/
def nodeTo (known : String → String → Option Value) : Nat → Value → Step Node
  | 0, _ => failure
  | depth + 1, .list items => do return .list (← items.mapM (nodeTo known depth))
  | depth + 1, .map [(.text name, content)] => do
    if name.toList.head? != some '@' then newRecord [(.text name, ← nodeTo known depth content)]
    else match name, content with
      | "@tuple", .list items => return .tuple (← items.mapM (nodeTo known depth))
      | "@set", .list items => return .set (← items.mapM (nodeTo known depth))
      | "@map", .list items =>
        let entries ← items.mapM fun
          | .list [key, v] => do return (← Json.untagged? known key, ← nodeTo known depth v)
          | _ => failure
        newRecord (collect entries)
      | "@shared", .text kept =>
        match (← get).mentioned.find? (·.1 == kept) with
        | some (_, n) => return n
        | none =>
          let n ← nodeTo known depth (← (← get).shared.field? kept)
          modify fun s => { s with mentioned := (kept, n) :: s.mentioned }
          return n
      | _, _ => newNode (← Json.untagged? known (.map [(.text name, content)]))
  | depth + 1, .map entries => do
    newRecord (← entries.mapM fun e => do return (e.1, ← nodeTo known depth e.2))
  | _ + 1, v => newNode v

def node (known : String → String → Option Value) : Value → Step Node := nodeTo known depthLimit

end Reading

end EntityViews
