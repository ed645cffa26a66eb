import EntityViews.Schema
import EntityViews.View.Reader

/-!
Entities from their descriptions. All parts are examined, so that every complaint about a description is heard.
-/

namespace EntityViews

/-- What came of a part of a description: it, if it is sound, and the complaints about it. -/
structure Examined (α : Type) where
  result : Option α
  complaints : List Complaint

namespace Examined

def sound {α : Type} (a : α) : Examined α := ⟨some a, []⟩

/-- A part of a form that the library has no words about. -/
def unsound {α : Type} : Examined α := ⟨none, []⟩

def ofOption {α : Type} : Option α → Examined α
  | some a => sound a
  | none => unsound

def map {α β : Type} (f : α → β) (x : Examined α) : Examined β := ⟨x.result.map f, x.complaints⟩

/-- Both parts are examined, whatever comes of the first. -/
def both {α β γ : Type} (f : α → β → γ) (x : Examined α) (y : Examined β) : Examined γ :=
  ⟨match x.result, y.result with
    | some a, some b => some (f a b)
    | _, _ => none, x.complaints ++ y.complaints⟩

def all {α β : Type} (examine : α → Examined β) (items : List α) : Examined (List β) :=
  items.foldr (fun item rest => both List.cons (examine item) rest) (sound [])

def toExcept {α : Type} (x : Examined α) : Except Fault α :=
  match x.result with
  | some a => .ok a
  | none => .error (.refused x.complaints)

end Examined

/-- Words that stand for a truth value. -/
def truthWord? (s : String) : Option Bool :=
  let s := Text.toLower s
  if ["0", "off", "f", "false", "n", "no"].contains s then some false
  else if ["1", "on", "t", "true", "y", "yes"].contains s then some true
  else none

def truth? : Value → Option Bool
  | .bool b => some b
  | .text s => truthWord? s
  | v =>
    if v.same (.int 0) then some false else if v.same (.int 1) then some true else none

namespace Description

/-- The value of a name in a description, `absent` if it is not given. -/
def part (name : String) (absent : Value) (entries : List (Value × Value)) : Value :=
  (lookup? (.text name) entries).getD absent

/-- A text or nothing; an empty text counts as nothing. -/
def word? : Value → Option (Option String)
  | .null => some none
  | v => v.asText?.map fun s => if s = "" then none else some s

def kind? : Value → Option (Option ColumnKind)
  | .null => some none
  | v => v.asText?.bind fun s => (ColumnKind.ofWord? s).map some

/-- A column type: the word of a kind, `ref:` with the name of an entity, or a map that says each apart. -/
def type? : Value → Option ColumnType
  | .map entries => do
    let category ← (part "kind" .null entries).asText?
    let kind ← kind? (part "scalar_type" .null entries)
    let entity ← word? (part "ref_entity" .null entries)
    if category = "scalar" then return .scalar kind
    else if category = "ref" then return .ref entity
    else none
  | v => do
    let word ← v.asText?
    match Text.dropStart? "ref:" word with
    | some entity => return .ref (if entity = "" then none else some entity)
    | none =>
      let kind ← ColumnKind.ofWord? word
      return .scalar (some kind)

/-- A name that has to be an identifier. -/
def identifier (complaint : String → Complaint) : Value → Examined String
  | v => match v.asText? with
    | none => .unsound
    | some s => if Text.isIdentifier s then .sound s else ⟨none, [complaint s]⟩

def column : Value → Examined Column
  | .map entries =>
    let flag := fun name => Examined.ofOption (truth? (part name (.bool false) entries))
    let name := identifier .fieldName (part "name" .null entries)
    let type := Examined.ofOption ((lookup? (.text "type") entries).bind type?)
    let flags := .both (fun (r : Bool) (iu : Bool × Bool) => (r, iu)) (flag "required")
      (.both Prod.mk (flag "indexed") (flag "unique"))
    .both (fun (nt : String × ColumnType) f => ⟨nt.1, nt.2, f.1, part "default" .null entries, f.2.1, f.2.2⟩)
      (.both Prod.mk name type) flags
  | _ => .unsound

/-- The keys of a relation; a relation that lacks what its kind needs is complained of. -/
def link (name word : String) (key : Option String) (keyOnTarget : Bool) (table sourceKey targetKey : Option String) :
    Examined Link :=
  if word = "many_to_many" then
    match table, sourceKey, targetKey with
    | some t, some s, some k => .sound (.manyToMany t s k)
    | _, _, _ => ⟨none, [.joinKeys name]⟩
  else
    match key with
    | none => if ["one_to_many", "many_to_one", "one_to_one"].contains word then ⟨none, [.foreignKey name]⟩ else .unsound
    | some k =>
      if word = "one_to_many" then .sound (.oneToMany k)
      else if word = "many_to_one" then .sound (.manyToOne k)
      else if word = "one_to_one" then .sound (if keyOnTarget then .oneToOneInverse k else .oneToOne k)
      else .unsound

/-- The keys of a relation are looked at only when the form of the description is sound. -/
def relation : Value → Examined Relation
  | .map entries =>
    let given : Option (Examined Relation) := do
      let name ← (part "name" .null entries).asText?
      let target ← (part "to_entity" .null entries).asText?
      let word ← (part "kind" .null entries).asText?
      let key ← word? (part "foreign_key" .null entries)
      let keyOnTarget ← truth? (part "fk_on_target" (.bool false) entries)
      let table ← word? (part "through" .null entries)
      let sourceKey ← word? (part "through_source_key" .null entries)
      let targetKey ← word? (part "through_target_key" .null entries)
      let orderBy ← View.namesOf? (part "order_by" (.list []) entries)
      return (link name word key keyOnTarget table sourceKey targetKey).map fun l => ⟨name, target, l, orderBy⟩
    given.getD .unsound
  | _ => .unsound

def formula : Value → Examined Formula
  | .map entries => .ofOption do
    let name ← (part "name" .null entries).asText?
    let sql ← (part "sql" .null entries).asText?
    let type ← type? (part "type" (.text "int") entries)
    return ⟨name, sql, type⟩
  | _ => .unsound

/-- The parts listed under a name. -/
def listed {α : Type} (name : String) (examine : Value → Examined α) (entries : List (Value × Value)) :
    Examined (List α) :=
  match part name (.list []) entries with
  | .list items | .tuple items => .all examine items
  | _ => .unsound

def entity : Value → Examined Entity
  | .map entries =>
    let name := identifier .entityName (part "name" .null entries)
    let columns := listed "fields" column entries
    let relations := listed "relations" relation entries
    let formulas := listed "formulas" formula entries
    .both (fun (nc : String × List Column) (rf : List Relation × List Formula) => ⟨nc.1, nc.2, rf.1, rf.2⟩)
      (.both Prod.mk name columns) (.both Prod.mk relations formulas)
  | _ => .unsound

end Description

def Entity.ofValue (v : Value) : Except Fault Entity := (Description.entity v).toExcept

def ColumnType.ofValue (v : Value) : Except Fault ColumnType :=
  match Description.type? v with
  | some t => .ok t
  | none => .error (.refused [])

end EntityViews
