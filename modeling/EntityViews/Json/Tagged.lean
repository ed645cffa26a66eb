import EntityViews.Json.Writer
import EntityViews.Json.Reader
import EntityViews.Calendar.Reader

/-!
Values in JSON without loss. What JSON has no form for is written as a map of one entry whose name starts with `@` and
tells the kind; so are maps whose keys are not all names, or whose order matters.
-/

namespace EntityViews.Json

def tag (name : String) (content : Value) : Value := .map [(.text name, content)]

/-- Whether a map can be written as it is: it has at most one entry, under a name that is no tag. A kind of column is a name
by its word. -/
def isPlainMap : List (Value × Value) → Bool
  | [] => true
  | [(.text name, _)] => name.toList.head? != some '@'
  | [(.columnKind _, _)] => true
  | _ => false

def tagScalar : Scalar → Value
  | .float x => tag "@float" (.text (x.text .plain))
  | .decimal d => tag "@decimal" (.text d.text)
  | .date d => tag "@date" (.text d.text)
  | .datetime t => tag "@datetime" (.text t.text)
  | .level l => tag "@level" (.text l.name)
  | .columnKind k => tag "@scalar" (.text k.word)
  | s => .scalar s

mutual

/-- A value in terms of those that JSON has a form for. -/
def tagged : Value → Value
  | .scalar s => tagScalar s
  | .list items => .list (taggedItems items)
  | .tuple items => tag "@tuple" (.list (taggedItems items))
  | .set items => tag "@set" (.list (taggedItems items))
  | .map entries =>
    if isPlainMap entries then .map (taggedValues entries) else tag "@map" (.list (taggedPairs entries))

def taggedItems : List Value → List Value
  | [] => []
  | item :: rest => tagged item :: taggedItems rest

def taggedValues : List (Value × Value) → List (Value × Value)
  | [] => []
  | (key, value) :: rest => (.text (key.asText?.getD ""), tagged value) :: taggedValues rest

def taggedPairs : List (Value × Value) → List Value
  | [] => []
  | (key, value) :: rest => .list [tagged key, tagged value] :: taggedPairs rest

end

mutual

/-- Tagged values with origins for all that are not a number, counted from `n`, and the next count: no two of them are one
and the same. -/
def withOrigins (n : Nat) : Value → Value × Nat
  | .map [(.text "@float", .text s)] =>
    match Binary64.ofText? s with
    | some (.nan _) => (.float (.nan (some n)), n + 1)
    | _ => (tag "@float" (.text s), n)
  | .map [(.text "@decimal", .text s)] =>
    match Decimal.ofText? s with
    | some (.nan negative signaling payload _) => (.decimal (.nan negative signaling payload (some n)), n + 1)
    | _ => (tag "@decimal" (.text s), n)
  | .list items =>
    let (items, n) := itemsWithOrigins n items
    (.list items, n)
  | .map entries =>
    let (entries, n) := entriesWithOrigins n entries
    (.map entries, n)
  | v => (v, n)

def itemsWithOrigins (n : Nat) : List Value → List Value × Nat
  | [] => ([], n)
  | item :: rest =>
    let (item, n) := withOrigins n item
    let (rest, n) := itemsWithOrigins n rest
    (item :: rest, n)

def entriesWithOrigins (n : Nat) : List (Value × Value) → List (Value × Value) × Nat
  | [] => ([], n)
  | (key, value) :: rest =>
    let (value, n) := withOrigins n value
    let (rest, n) := entriesWithOrigins n rest
    ((key, value) :: rest, n)

end

/-- A tagged value down to a depth, with what is kept under names in place of its mentions. -/
def inlinedTo (kept : Value) : Nat → Value → Value
  | 0, v => v
  | depth + 1, .map [(.text "@shared", .text name)] =>
    match kept.field? name with
    | some v => inlinedTo kept depth v
    | none => tag "@shared" (.text name)
  | depth + 1, .list items => .list (items.map (inlinedTo kept depth))
  | depth + 1, .map entries => .map (entries.map fun e => (e.1, inlinedTo kept depth e.2))
  | _ + 1, v => v

def inlined (kept : Value) : Value → Value := inlinedTo kept 10000

/-- The scalar that a tag and a text stand for. -/
def untagScalar? (name s : String) : Option Scalar :=
  if name = "@float" then (Binary64.ofText? s).map .float
  else if name = "@decimal" then (Decimal.ofText? s).map .decimal
  else if name = "@date" then (Date.ofText? s).toOption.map .date
  else if name = "@datetime" then (DateTime.ofText? s).toOption.map .datetime
  else if name = "@level" then (VocabLevel.ofName? s).map .level
  else if name = "@scalar" then (ColumnKind.ofWord? s).map .columnKind
  else none

mutual

/-- The value that a tagged one stands for; what a tag of no known kind stands for is looked up. -/
def untagged? (known : String → String → Option Value) : Value → Option Value
  | .list items => (untaggedItems? known items).map .list
  | .map [(.text name, .list items)] =>
    if name = "@tuple" then (untaggedItems? known items).map .tuple
    else if name = "@set" then (untaggedItems? known items).map .set
    else if name = "@map" then (untaggedPairs? known items).map fun entries => .map (collect entries)
    else (untaggedItems? known items).map fun items => .map [(.text name, .list items)]
  | .map [(.text name, .text s)] =>
    if name.toList.head? = some '@' then ((untagScalar? name s).map .scalar).orElse fun _ => known name s
    else some (.map [(.text name, .text s)])
  | .map entries => (untaggedEntries? known entries).map .map
  | v => some v

def untaggedItems? (known : String → String → Option Value) : List Value → Option (List Value)
  | [] => some []
  | item :: rest => do
    let value ← untagged? known item
    let values ← untaggedItems? known rest
    return value :: values

def untaggedEntries? (known : String → String → Option Value) : List (Value × Value) → Option (List (Value × Value))
  | [] => some []
  | (key, item) :: rest => do
    let value ← untagged? known item
    let values ← untaggedEntries? known rest
    return (key, value) :: values

def untaggedPairs? (known : String → String → Option Value) : List Value → Option (List (Value × Value))
  | [] => some []
  | .list [key, item] :: rest => do
    let key ← untagged? known key
    let value ← untagged? known item
    let values ← untaggedPairs? known rest
    return (key, value) :: values
  | _ :: _ => none

end

end EntityViews.Json
