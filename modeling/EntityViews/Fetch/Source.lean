import EntityViews.Fetch.Context

/-!
Where the fields of an entity come from: a column, a formula, a relation, or an annotator that fills them in after the
fetch.
-/

namespace EntityViews

/-- Whether a relation leads to one record or to a list of them; other words can be given, but not walked. -/
inductive Cardinality
  | toOne
  | toMany
  | other (word : String)
deriving DecidableEq

def Cardinality.word : Cardinality → String
  | toOne => "to-one"
  | toMany => "to-many"
  | other word => word

def Cardinality.ofWord (s : String) : Cardinality :=
  if s = "to-one" then .toOne else if s = "to-many" then .toMany else .other s

/-- A relation: the key that related records are attached under, their entity, and the filter on them that a context
asks for. -/
structure RelationSource where
  populate : String
  target : String
  cardinality : Cardinality
  filter : Option (Context → Except Fault Value)

/-- What owns the texts that the annotators of the learning domain look at. -/
inductive Owner
  | texts
  | collections
deriving DecidableEq

/-- An annotator; two fields with the same one are filled in by one run of it. -/
inductive Annotator
  /-- Counts the words of texts by how well the learner knows them. -/
  | vocabsByLevel (owner : Owner)
  /-- Tells which records the learner has bookmarked. -/
  | isBookmarked (owner : Owner)
  /-- An annotator told by its name. -/
  | scripted (name : String)
deriving DecidableEq

def Annotator.domain : List Annotator :=
  [.vocabsByLevel .texts, .vocabsByLevel .collections, .isBookmarked .texts, .isBookmarked .collections]

def Annotator.name : Annotator → String
  | vocabsByLevel .texts => "annotate_texts_vocabs_by_level"
  | vocabsByLevel .collections => "annotate_collections_vocabs_by_level"
  | isBookmarked .texts => "annotate_texts_is_bookmarked"
  | isBookmarked .collections => "annotate_collections_is_bookmarked"
  | scripted name => name

inductive Source
  | column
  | formula
  | relation (r : RelationSource)
  | annotated (a : Annotator)
  /-- A source of no known kind. -/
  | foreign (word : String)

def Source.word : Source → String
  | column => "db-column"
  | formula => "formula"
  | relation _ => "relation"
  | annotated _ => "annotated"
  | foreign word => word

/-- The sources of the fields of an entity, by the names of the fields. -/
structure EntityFields where
  entity : String
  sources : List (String × Source)

namespace EntityFields

def names (f : EntityFields) : List String := f.sources.map (·.1)

def source? (f : EntityFields) (name : String) : Option Source :=
  (f.sources.find? (·.1 == name)).map (·.2)

def firstRepeated? : List String → List String → Option String
  | _, [] => none
  | seen, name :: rest => if name ∈ seen then some name else firstRepeated? (name :: seen) rest

/-- The fields of an entity; no name may be given twice. -/
def ofPairs (entity : String) (pairs : List (String × Source)) : Except Fault EntityFields :=
  match firstRepeated? [] (pairs.map (·.1)) with
  | some name => .error (.duplicateSource name entity)
  | none => .ok ⟨entity, pairs⟩

def byPopulate? (f : EntityFields) (populate : String) : Option RelationSource :=
  f.sources.findSome? fun s => match s.2 with
    | .relation r => if r.populate = populate then some r else none
    | _ => none

/-- The source for a segment of a path: by the name of the field, else by the key of a relation. -/
def forSegment? (f : EntityFields) (segment : String) : Option Source :=
  match f.source? segment with
  | some s => some s
  | none => (f.byPopulate? segment).map .relation

def shown (f : EntityFields) : String :=
  "EntityFetchSpecs(" ++ Text.quoted f.entity ++ ", fields=" ++ namesShown f.names ++ ")"

end EntityFields

end EntityViews
