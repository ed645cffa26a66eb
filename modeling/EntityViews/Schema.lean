import EntityViews.Fault

/-!
Tables: entities with their columns, formulas and relations.
-/

namespace EntityViews

/-- The type of a column: a scalar, or the id of a row of another entity. -/
inductive ColumnType
  | scalar (kind : Option ColumnKind)
  | ref (entity : Option String)

def ColumnType.storage : ColumnType → String
  | scalar (some .int) | scalar (some .bool) | ref _ => "INTEGER"
  | scalar (some .decimal) => "REAL"
  | scalar _ => "TEXT"

def ColumnType.isRef : ColumnType → Bool
  | ref _ => true
  | scalar _ => false

structure Column where
  name : String
  type : ColumnType
  required : Bool
  default : Value
  indexed : Bool
  unique : Bool

/-- A column that the database computes from a row. -/
structure Formula where
  name : String
  sql : String
  type : ColumnType

def Formula.render (f : Formula) (row : String) : Except Fault String :=
  (Template.render f.sql row).mapError .template

/-- Where the keys that join two entities are held. -/
inductive Link
  /-- Many rows hold the id of one target row. -/
  | manyToOne (key : String)
  | oneToOne (key : String)
  /-- The one target row holds the id of the source row. -/
  | oneToOneInverse (key : String)
  | oneToMany (key : String)
  /-- Rows of a table of their own hold both ids. -/
  | manyToMany (table sourceKey targetKey : String)

namespace Link

def isToOne : Link → Bool
  | manyToOne _ | oneToOne _ | oneToOneInverse _ => true
  | oneToMany _ | manyToMany _ _ _ => false

/-- The column of the source row that holds the id of the target row. -/
def sourceKey? : Link → Option String
  | manyToOne key | oneToOne key => some key
  | _ => none

def word : Link → String
  | manyToOne _ => "many_to_one"
  | oneToOne _ | oneToOneInverse _ => "one_to_one"
  | oneToMany _ => "one_to_many"
  | manyToMany _ _ _ => "many_to_many"

end Link

structure Relation where
  name : String
  target : String
  link : Link
  orderBy : List String

structure Entity where
  name : String
  columns : List Column
  relations : List Relation
  formulas : List Formula

namespace Entity

def column? (e : Entity) (name : String) : Option Column := e.columns.find? (·.name == name)

def relation? (e : Entity) (name : String) : Option Relation := e.relations.find? (·.name == name)

def formula? (e : Entity) (name : String) : Option Formula := e.formulas.find? (·.name == name)

/-- Every entity has an id, described or not. -/
def hasColumn (e : Entity) (name : String) : Bool := name == "id" || (e.column? name).isSome

/-- The names of the columns, the id in front if it is not described. -/
def columnNames (e : Entity) : List String :=
  let names := e.columns.map (·.name)
  if "id" ∈ names then names else "id" :: names

end Entity

/-- The relations declared for an entity, over all descriptions of that name. -/
def relationsOf (entities : List Entity) (name : String) : List Relation :=
  (entities.filter (·.name == name)).flatMap (·.relations)

/-- The relation of an entity that was declared last under a name. -/
def relationOf? (entities : List Entity) (entity name : String) : Option Relation :=
  (relationsOf entities entity).findRev? (·.name == name)

structure Schema where
  entities : List Entity

namespace Schema

/-- Puts an entity in the place of the one of its name, else at the end. -/
def put (e : Entity) : List Entity → List Entity
  | [] => [e]
  | known :: rest => if known.name = e.name then e :: rest else known :: put e rest

/-- A schema in which the last description of a name holds. -/
def ofEntities (entities : List Entity) : Schema := ⟨entities.foldl (fun known e => put e known) []⟩

def entity? (s : Schema) (name : String) : Option Entity := s.entities.find? (·.name == name)

/-- The relation by which records are loaded. -/
def relation? (s : Schema) (entity name : String) : Option Relation := relationOf? s.entities entity name

end Schema

end EntityViews
