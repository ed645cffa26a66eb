import EntityViews.Fault

/-!
Records: maps that are changed in place and may be reached in several ways. A store holds their entries; a node refers to
a record by its number.
-/

namespace EntityViews

/-- A value whose maps are records of a store. -/
inductive Node
  | scalar (s : Scalar)
  | list (items : List Node)
  | tuple (items : List Node)
  | set (items : List Node)
  | record (id : Nat)

@[match_pattern] abbrev Node.null : Node := .scalar .null

instance : Inhabited Node := ⟨.null⟩

/-- The entries of all records, by their number. -/
structure Store where
  records : Array (List (Value × Node))

namespace Store

def empty : Store := ⟨#[]⟩

def entries (s : Store) (id : Nat) : List (Value × Node) := (s.records[id]?).getD []

def get? (s : Store) (id : Nat) (key : Value) : Option Node := lookup? key (s.entries id)

def set (s : Store) (id : Nat) (key : Value) (value : Node) : Store :=
  ⟨s.records.modify id (assign key value)⟩

def alloc (s : Store) (entries : List (Value × Node)) : Nat × Store := (s.records.size, ⟨s.records.push entries⟩)

mutual

def load (s : Store) : Value → Node × Store
  | .scalar a => (.scalar a, s)
  | .list items => let (nodes, s) := loadItems s items; (.list nodes, s)
  | .tuple items => let (nodes, s) := loadItems s items; (.tuple nodes, s)
  | .set items => let (nodes, s) := loadItems s items; (.set nodes, s)
  | .map entries =>
    let (nodes, s) := loadEntries s entries
    let (id, s) := s.alloc nodes
    (.record id, s)

def loadItems (s : Store) : List Value → List Node × Store
  | [] => ([], s)
  | item :: rest =>
    let (node, s) := load s item
    let (nodes, s) := loadItems s rest
    (node :: nodes, s)

def loadEntries (s : Store) : List (Value × Value) → List (Value × Node) × Store
  | [] => ([], s)
  | (key, value) :: rest =>
    let (node, s) := load s value
    let (nodes, s) := loadEntries s rest
    ((key, node) :: nodes, s)

end

/-- Nothing, zero and what is empty count as absent. -/
def isPresent (s : Store) : Node → Bool
  | .scalar a => a.isPresent
  | .list items | .tuple items | .set items => !items.isEmpty
  | .record id => !(s.entries id).isEmpty

/-- A node as it is now, with its parts down to a depth. -/
def snapshot (s : Store) : Nat → Node → Value
  | _, .scalar a => .scalar a
  | 0, _ => .null
  | depth + 1, .list items => .list (items.map (s.snapshot depth))
  | depth + 1, .tuple items => .tuple (items.map (s.snapshot depth))
  | depth + 1, .set items => .set (items.map (s.snapshot depth))
  | depth + 1, .record id => .map ((s.entries id).map fun e => (e.1, s.snapshot depth e.2))

/-- A node as it is now. Records that do not contain themselves are no deeper than there are records. -/
def value (s : Store) (n : Node) : Value := s.snapshot (2 * s.records.size + 1000) n

end Store

namespace Node

mutual

/-- The value of a node without changeable parts. -/
def key? : Node → Option Value
  | .scalar a => if (Value.scalar a).isKey then some (.scalar a) else none
  | .tuple items => (keys? items).map .tuple
  | _ => none

def keys? : List Node → Option (List Value)
  | [] => some []
  | item :: rest => do
    let key ← item.key?
    let keys ← keys? rest
    return key :: keys

end

mutual

/-- The node of a key; what can change is no key, and nothing stands for it. -/
def ofKey : Value → Node
  | .scalar a => .scalar a
  | .tuple items => .tuple (ofKeys items)
  | _ => .null

def ofKeys : List Value → List Node
  | [] => []
  | item :: rest => ofKey item :: ofKeys rest

end

/-- The value of a node as a key; what can change is none. -/
def key (n : Node) : Except Fault Value :=
  match n.key? with
  | some v => .ok v
  | none => .error .mistyped

end Node

end EntityViews
