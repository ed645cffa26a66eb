import EntityViews.Fetch.Source

/-!
The registry: a table of the fields of entities, each built when it is first asked for and kept until it is registered
anew. Entities refer to each other by name, so that they may refer to each other in a circle.
-/

namespace EntityViews

/-- What a scripted annotator does: whom it requires, which field it looks at, and whether it fails. -/
structure Behaviour where
  module : Option String
  requires : Option String
  reads : Option String
  fails : Option String

/-- How the fields of an entity are built. A run may depend on how many came before it, and it makes annotators known. -/
structure Blueprint where
  build : Nat → Except Fault EntityFields
  annotators : List (String × Behaviour)
  counted : Bool

structure Slot where
  entity : String
  blueprint : Blueprint
  runs : Nat
  built : Option EntityFields

/-- The first behaviour known under the name of an annotator holds for good. -/
structure Registry where
  slots : List Slot
  behaviours : List (String × Behaviour)

namespace Registry

def empty : Registry := ⟨[], []⟩

def slot? (r : Registry) (entity : String) : Option Slot := r.slots.find? (·.entity == entity)

def has (r : Registry) (entity : String) : Bool := (r.slot? entity).isSome

def names (r : Registry) : List String := r.slots.map (·.entity)

/-- Replaces the slot of an entity, else adds it at the end. -/
def putSlot (s : Slot) : List Slot → List Slot
  | [] => [s]
  | t :: rest => if t.entity = s.entity then s :: rest else t :: putSlot s rest

/-- Registers how an entity is built; what was built before is dropped. -/
def register (r : Registry) (entity : String) (blueprint : Blueprint) : Registry :=
  let runs := match r.slot? entity with | some s => s.runs | none => 0
  { r with slots := putSlot ⟨entity, blueprint, runs, none⟩ r.slots }

/-- Behaviours with further ones under names that were not known. -/
def learn (known new : List (String × Behaviour)) : List (String × Behaviour) :=
  new.foldl (fun known b => if known.any (·.1 == b.1) then known else known ++ [b]) known

def get (r : Registry) (entity : String) : Except Fault EntityFields × Registry :=
  match r.slot? entity with
  | none => (.error (.unknownEntityType entity r.names), r)
  | some s =>
    match s.built with
    | some fields => (.ok fields, r)
    | none =>
      let outcome := s.blueprint.build s.runs
      let runs := if s.blueprint.counted then s.runs + 1 else s.runs
      let slot := { s with runs := runs, built := outcome.toOption }
      (outcome, ⟨putSlot slot r.slots, learn r.behaviours s.blueprint.annotators⟩)

def graph (r : Registry) (entity : String) : Except Fault EntityFields := (r.get entity).1

def visit (r : Registry) (entities : List String) : Registry := entities.foldl (fun r e => (r.get e).2) r

def behaviour? (r : Registry) (annotator : String) : Option Behaviour :=
  (r.behaviours.find? (·.1 == annotator)).map (·.2)

/-- The module that the annotators of the learning domain are shown under. -/
def domainModule : String := "lexis_back.domain.annotators"

def annotatorName (r : Registry) (a : Annotator) : String :=
  let module := match a with
    | .scripted name => ((r.behaviour? name).bind (·.module)).getD ""
    | _ => domainModule
  if module = "" then a.name else module ++ "." ++ a.name

end Registry

/-- The fields of entities by name, or why there are none. -/
abbrev Graph : Type := String → Except Fault EntityFields

end EntityViews
