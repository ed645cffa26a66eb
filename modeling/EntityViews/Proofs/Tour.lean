import EntityViews.Proofs.Distinct
import EntityViews.Proofs.Computations
import EntityViews.Fetch.Execution

/-!
Tours: the plain traversal of a view, each entity's own fields first and then its relations in the order of the view.
A tour says what is asked for and where the traversal goes; what a plan makes of it is read off afterwards.
-/

namespace EntityViews

/-- A view in normal form: on every level the fields and the relations with their views. -/
inductive NormalView
  | mk (fields : List String) (relations : List (String × NormalView))

namespace View

mutual

def normal : View → NormalView
  | names fs => .mk fs []
  | full fs relations => .mk fs (normalRelations relations)

def normalRelations : List (String × View) → List (String × NormalView)
  | [] => []
  | (name, view) :: rest => (name, view.normal) :: normalRelations rest

end

end View

/-- A relation that a traversal goes along: its source, its path, and the two filters on its records, the one that the
context asks for and the one that is given for the path. -/
structure Leg where
  source : RelationSource
  path : String
  own : Value
  given : Value

def Leg.filter (l : Leg) : Option Value :=
  if l.own.isPresent then
    some (if l.given.isPresent then .map [(.text "$and", .list [l.own, l.given])] else l.own)
  else if l.given.isPresent then some l.given
  else none

theorem Leg.filter_eq (leg : Leg) : leg.filter = Filter.conjunction [leg.own, leg.given] := by
  rw [filter, Filter.conjunction, List.filter_cons, List.filter_cons, List.filter_nil]
  cases leg.own.isPresent <;> cases leg.given.isPresent <;> rfl

def Leg.loaded (leg : Leg) : Value := leg.filter.getD .null

/-- The two filters by which of them are there. -/
theorem Leg.filter_cases (leg : Leg) :
    (leg.own.isPresent = true ∧ leg.given.isPresent = true ∧
      leg.filter = some (.map [(.text "$and", .list [leg.own, leg.given])])) ∨
    (leg.own.isPresent = true ∧ leg.given.isPresent = false ∧ leg.filter = some leg.own) ∨
    (leg.own.isPresent = false ∧ leg.given.isPresent = true ∧ leg.filter = some leg.given) ∨
    (leg.own.isPresent = false ∧ leg.given.isPresent = false ∧ leg.filter = none) := by
  rw [filter]
  cases leg.own.isPresent <;> cases leg.given.isPresent <;> simp

inductive Asked
  | field (name : String)
  | annotated (a : Annotation)

/-- A traversal: what is asked of the entity where it is, then the relations that it goes along. -/
inductive Tour
  | mk (asked : List Asked) (legs : List (Leg × Tour))

namespace Tour

def asked? (sources : EntityFields) (path : String) : List String → Option (List Asked)
  -- Relations are not asked for by their names alone.
  | [] => some []
  | name :: rest => do
    let source ← sources.source? name
    let more ← asked? sources path rest
    match source with
    | .column | .formula => return .field (Text.qualify path name) :: more
    | .annotated a => return .annotated ⟨path, a⟩ :: more
    | .relation _ => return more
    | .foreign _ => none

mutual

/-- The traversal of a view of an entity that is reached by a path, if every field on the way has a source and every
entity and filter on the way can be had. -/
def of? (graph : Graph) (context : Context) (overrides : Value) (sources : EntityFields) (path : String) :
    NormalView → Option Tour
  | .mk fields relations => do
    let asked ← asked? sources path fields
    let legs ← legs? graph context overrides sources path relations
    return .mk asked legs

def legs? (graph : Graph) (context : Context) (overrides : Value) (sources : EntityFields) (path : String) :
    List (String × NormalView) → Option (List (Leg × Tour))
  -- Keys that are no relation of the entity are passed over.
  | [] => some []
  | (name, view) :: rest =>
    match sources.source? name with
    | some (.relation r) => do
      let here := Text.qualify path r.populate
      let target ← (graph r.target).toOption
      let tour ← of? graph context overrides target here view
      let own ← (Plan.contextFilter context r).toOption
      let given ← (Plan.override overrides here).toOption
      let legs ← legs? graph context overrides sources path rest
      return (⟨r, here, own, given⟩, tour) :: legs
    | _ => legs? graph context overrides sources path rest

end

end Tour

namespace Asked

def field? : Asked → Option String
  | field name => some name
  | annotated _ => none

def annotated? : Asked → Option Annotation
  | field _ => none
  | annotated a => some a

end Asked

/-! What a plan takes from a tour, with all repetitions. -/

namespace Plan

def append (p q : Plan) : Plan :=
  ⟨p.fields ++ q.fields, p.populate ++ q.populate, p.filtered ++ q.filtered, p.annotations ++ q.annotations⟩

def join (p q : Plan) : Plan :=
  -- Filtered relations are not compared.
  ⟨addNew p.fields q.fields, addNew p.populate q.populate, p.filtered ++ q.filtered,
    addNew p.annotations q.annotations⟩

def ofAsked (asked : List Asked) : Plan :=
  ⟨asked.filterMap Asked.field?, [], [], asked.filterMap Asked.annotated?⟩

def ofLeg (leg : Leg) (nested : Plan) : Plan :=
  match leg.filter with
  | some f =>
    ⟨[], [], ⟨distinct (leg.path :: nested.populate), Filter.nest leg.path f, distinct nested.fields⟩ :: nested.filtered,
      nested.annotations⟩
  | none => ⟨nested.fields, leg.path :: nested.populate, nested.filtered, nested.annotations⟩

end Plan

namespace Tour

mutual

def gather : Tour → Plan
  | mk asked legs => (Plan.ofAsked asked).append (gatherLegs legs)

def gatherLegs : List (Leg × Tour) → Plan
  | [] => Plan.empty
  | (leg, tour) :: rest => (Plan.ofLeg leg tour.gather).append (gatherLegs rest)

end

def plan (t : Tour) : Plan := Plan.empty.join t.gather

end Tour

namespace Plan

theorem join_empty (p : Plan) : p.join empty = p := by
  simp only [join, empty, addNew_nil, List.append_nil]

theorem join_append (p q r : Plan) : p.join (q.append r) = (p.join q).join r := by
  simp only [join, append, addNew_append, List.append_assoc]

theorem join_ofAsked_cons (p : Plan) (a : Asked) (asked : List Asked) :
    p.join (ofAsked (a :: asked)) = (p.join (ofAsked [a])).join (ofAsked asked) := by
  have h : ofAsked (a :: asked) = (ofAsked [a]).append (ofAsked asked) := by
    cases a <;> rfl
  rw [h, join_append]

/-- The compiler takes in the finished plan of a relation; this is the same as adding all that was gathered below. -/
theorem attach_join (p : Plan) (leg : Leg) (nested : Plan) :
    p.attach leg.path leg.filter (empty.join nested) = p.join (ofLeg leg nested) := by
  have hd {α : Type} [DecidableEq α] (xs : List α) : addNew [] xs = distinct xs := rfl
  have hcons (xs : List String) : distinct (leg.path :: distinct xs) = distinct (leg.path :: xs) :=
    distinct_append_distinct [leg.path] xs
  have hadd (xs : List String) : addNew (addNew p.populate [leg.path]) xs = addNew p.populate (leg.path :: xs) :=
    (addNew_append p.populate [leg.path] xs).symm
  cases hf : leg.filter with
  | some f =>
    simp only [attach, join, ofLeg, hf, empty, addNew_nil, List.nil_append, hd, addNew_distinct, hcons]
  | none =>
    simp only [attach, join, ofLeg, hf, empty, List.nil_append, hd, addNew_distinct]
    rw [hadd]

theorem addField_eq_join (p : Plan) (name : String) : p.addField name = p.join (ofAsked [.field name]) := by
  simp only [addField, join, ofAsked, List.filterMap_cons, Asked.field?, Asked.annotated?, List.filterMap_nil,
    addNew_nil, List.append_nil]

theorem addAnnotations_eq_join (p : Plan) (a : Annotation) :
    p.addAnnotations [a] = p.join (ofAsked [.annotated a]) := by
  simp only [addAnnotations, join, ofAsked, List.filterMap_cons, Asked.field?, Asked.annotated?, List.filterMap_nil,
    addNew_nil, List.append_nil]

theorem join_ofAsked_nil (p : Plan) : p.join (ofAsked []) = p := p.join_empty

/-- The own fields of an entity: the compiler adds what the tour asks for, one name after the other. -/
theorem toOption_ofFields (sources : EntityFields) (path : String) (view : View) (p : Plan) (names : List String) :
    (ofFields sources path view p names).toOption = (Tour.asked? sources path names).map fun a => p.join (ofAsked a) := by
  induction names generalizing p with
  | nil => simp only [ofFields, Tour.asked?, Except.toOption, Option.map_some, join_ofAsked_nil]
  | cons name rest ih =>
    cases hs : sources.source? name with
    | none => simp [ofFields, Tour.asked?, hs, Except.toOption]
    | some source =>
      cases source with
      | column | formula =>
        simp only [ofFields, hs, ih, addField_eq_join, Tour.asked?]
        cases Tour.asked? sources path rest with
        | none => rfl
        | some more => exact congrArg some (join_ofAsked_cons p _ more).symm
      | annotated a =>
        simp only [ofFields, hs, ih, addAnnotations_eq_join, Tour.asked?]
        cases Tour.asked? sources path rest with
        | none => rfl
        | some more => exact congrArg some (join_ofAsked_cons p _ more).symm
      | relation r =>
        simp only [ofFields, hs, ih, Tour.asked?]
        cases Tour.asked? sources path rest <;> simp
      | «foreign» word =>
        simp only [ofFields, hs, Tour.asked?]
        cases Tour.asked? sources path rest <;> rfl

end Plan

namespace Tour

variable (graph : Graph) (context : Context) (overrides : Value)

mutual

/-- A plan is compiled from the tour of its view, if there is one. -/
theorem toOption_compile (sources : EntityFields) (path : String) : (view : View) →
    (Plan.compile graph context overrides sources path view).toOption =
      (of? graph context overrides sources path view.normal).map plan
  | .names fields => by
    simp only [Plan.compile, View.normal, of?, legs?, Plan.toOption_ofFields]
    cases asked? sources path fields <;> simp [plan, gather, gatherLegs, Plan.join_append, Plan.join_empty]
  | .full fields relations => by
    simp only [Plan.compile, View.normal, of?, Except.toOption_bind, Plan.toOption_ofFields]
    cases asked? sources path fields with
    | none => rfl
    | some asked =>
      simp only [Option.map_some, Option.bind_some, toOption_compileRelations]
      cases legs? graph context overrides sources path (View.normalRelations relations) <;>
        simp [plan, gather, Plan.join_append]

/-- The relations of a view are compiled from the tours of the views below, if there are such. -/
theorem toOption_compileRelations (sources : EntityFields) (path : String) (p : Plan) :
    (relations : List (String × View)) →
    (Plan.compileRelations graph context overrides sources path p relations).toOption =
      (legs? graph context overrides sources path (View.normalRelations relations)).map fun l => p.join (gatherLegs l)
  | [] => by
    simp only [Plan.compileRelations, View.normalRelations, legs?, gatherLegs, Option.map_some, Plan.join_empty]
    rfl
  | (name, view) :: rest => by
    -- A key that is no relation of the entity is passed over on both sides.
    have hskip (h : ∀ r, sources.source? name ≠ some (.relation r)) :
        Plan.compileRelations graph context overrides sources path p ((name, view) :: rest) =
            Plan.compileRelations graph context overrides sources path p rest ∧
          legs? graph context overrides sources path (View.normalRelations ((name, view) :: rest)) =
            legs? graph context overrides sources path (View.normalRelations rest) := by
      constructor
      · rw [Plan.compileRelations]
        split
        · exact absurd ‹_› (h _)
        · rfl
      · rw [View.normalRelations, legs?]
        split
        · exact absurd ‹_› (h _)
        · rfl
    by_cases hr : ∃ r, sources.source? name = some (.relation r)
    · obtain ⟨r, hr⟩ := hr
      simp only [Plan.compileRelations, View.normalRelations, legs?, hr, Except.toOption_bind]
      cases hg : (graph r.target).toOption with
      | none => rfl
      | some target =>
        simp only [Option.bind_some, toOption_compile, bind]
        cases of? graph context overrides target (Text.qualify path r.populate) view.normal with
        | none => rfl
        | some tour =>
          simp only [Option.map_some, Option.bind_some, Plan.scope, Except.toOption_bind]
          cases (Plan.contextFilter context r).toOption with
          | none => rfl
          | some own =>
            cases (Plan.override overrides (Text.qualify path r.populate)).toOption with
            | none => rfl
            | some given =>
              -- The compiler attaches the plan of the relation; gathering appends what the tour of the relation gathers.
              have hleg := Plan.attach_join p ⟨r, Text.qualify path r.populate, own, given⟩ tour.gather
              have hpure : (pure (Filter.conjunction [own, given]) : Except Fault _).toOption =
                  some (Filter.conjunction [own, given]) := rfl
              rw [Leg.filter_eq] at hleg
              simp only [Option.bind_some, hpure, plan, hleg, toOption_compileRelations]
              cases legs? graph context overrides sources path (View.normalRelations rest) <;>
                simp [gatherLegs, Plan.join_append]
    · have hr' : ∀ r, sources.source? name ≠ some (.relation r) := fun r h => hr ⟨r, h⟩
      rw [(hskip hr').1, (hskip hr').2]
      exact toOption_compileRelations sources path p rest

end

end Tour

end EntityViews
