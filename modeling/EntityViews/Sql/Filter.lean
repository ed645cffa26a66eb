import EntityViews.Sql.Condition
import EntityViews.Sql.Operand

/-!
The condition that a filter stands for. A condition on related rows becomes a sub-select of ids, so that it neither
multiplies nor loses rows of the filtered entity. Sub-selects number their rows with a counter that runs on.
-/

namespace EntityViews.Sql

/-- Steps that may fail and take numbers for the rows of sub-selects; a number taken stays taken. -/
abbrev Compile := ExceptT Fault (StateM Nat)

def freshAlias : Compile Alias := do
  let n ← get
  set (n + 1)
  return .sub n

inductive Operator
  | comparison (c : Comparison)
  | isIn
  | notIn

def operators : List (String × Operator) :=
  [("$eq", .comparison .eq), ("$ne", .comparison .ne), ("$gt", .comparison .gt), ("$gte", .comparison .gte),
    ("$lt", .comparison .lt), ("$lte", .comparison .lte), ("$in", .isIn), ("$nin", .notIn),
    ("$like", .comparison .like), ("$ilike", .comparison .ilike)]

def Operator.ofKey? (key : Value) : Option Operator :=
  key.asText?.bind fun s => (operators.find? (·.1 == s)).map (·.2)

/-- The members that an operand of a membership test has; a single value is its own only member. -/
def members : Value → List Value
  | .list items => items
  | v => [v]

/-- An operator applied to a term. Nothing is equal to no value, so that test is for the absence of one. -/
def operatorCondition (term : Term) (op : Operator) (value : Value) : Except Fault Condition := do
  let converted ← operand value
  match op, converted with
  | .comparison .eq, .null => return .isNull false term
  | .comparison .ne, .null => return .isNull true term
  | .comparison c, v => return .compare c term v
  | .isIn, v => return if (members v).isEmpty then .never else .among false term (members v)
  | .notIn, v => return if (members v).isEmpty then .always else .among true term (members v)

/-- The operators of a map, each applied to the term; `whole` is the map, for faults. -/
def operatorConditions (term : Term) (whole : Value) (entries : List (Value × Value)) : Except Fault (List Condition) :=
  entries.mapM fun (key, value) =>
    match Operator.ofKey? key with
    | some op => operatorCondition term op value
    | none => .error (.filter (.unknownComparison key.plain) whole)

/-- A term against a literal, a collection of them, or a map of operators. -/
def comparisonCondition (term : Term) : Value → Except Fault Condition
  | .map [] => .ok .always
  | .map entries => (operatorConditions term (.map entries) entries).map Condition.conjunction
  | .list items => operatorCondition term .isIn (.list items)
  | .tuple items => operatorCondition term .isIn (.tuple items)
  | .set items => operatorCondition term .isIn (.set items)
  | v => operatorCondition term (.comparison .eq) v

/-- What a key of a filter is for the entity that is filtered. -/
inductive Key
  | negation
  | group (disjunctive : Bool)
  | relation (r : Relation)
  | column (name : Label)
  | formula (f : Formula)

/-- Combinators come first, then relations, columns and formulas; `whole` is the filter, for faults. -/
def Key.of (e : Entity) (whole key : Value) : Except Fault Key :=
  match key.label? with
  | none => .error .absentMember
  | some label =>
    let name := label.text
    if name = "$not" then .ok .negation
    else if name = "$and" then .ok (.group false)
    else if name = "$or" then .ok (.group true)
    else if name.toList.head? = some '$' then .error (.filter (.unknownOperator key.plain e.name) whole)
    else match e.relation? name with
      | some r => .ok (.relation r)
      | none =>
        if e.hasColumn name then .ok (.column label)
        else match e.formula? name with
          | some f => .ok (.formula f)
          | none => .error (.filter (.unknownField key.plain e.name) whole)

/-- Whether a value compares ids of related rows, and is no filter on those rows. -/
def isIdComparison : Value → Bool
  | .map entries => !entries.isEmpty && entries.all fun e => (Operator.ofKey? e.1).isSome
  | _ => true

def columnTerm (row : Alias) (name : Label) : Compile Term := do
  return .column row (← Name.ofLabel? name)

/-- The entity of a name, for a filter on its rows. -/
def entityNamed (s : Schema) (name : String) : Compile Entity :=
  match s.entity? name with
  | some e => return e
  | none => throw (.filter (.unknownEntity name) .null)

/-- A key on a relation; `nested` is the condition that the value stands for as a filter on the related rows. -/
def relationCondition (target : Entity) (row : Alias) (link : Link) (value : Value)
    (nested : Alias → Compile Condition) : Compile Condition := do
  let rowId : Term := .column row .id
  match link with
  | .manyToOne key | .oneToOne key =>
    let term ← columnTerm row (.word key)
    if isIdComparison value then comparisonCondition term value
    else
      let sub ← freshAlias
      let condition ← nested sub
      return .within false term .id (← Name.make? target.name) sub condition
  | .manyToMany table sourceKey targetKey =>
    let join ← freshAlias
    let source ← Name.make? sourceKey
    let term ← columnTerm join (.word targetKey)
    let condition ←
      if isIdComparison value then (comparisonCondition term value : Compile Condition)
      else
        let sub ← freshAlias
        let condition ← nested sub
        pure (.within false term .id (← Name.make? target.name) sub condition)
    return .within false rowId source (← Name.make? table) join condition
  | .oneToMany key | .oneToOneInverse key =>
    let sub ← freshAlias
    let back ← Name.make? key
    match value with
    | .null => return .within true rowId back (← Name.make? target.name) sub (.isNull true (.column sub back))
    | value =>
      let condition ←
        if isIdComparison value then (comparisonCondition (.column sub .id) value : Compile Condition)
        else nested sub
      return .within false rowId back (← Name.make? target.name) sub condition

namespace Condition

mutual

/-- The condition on the rows of an entity that a filter stands for; an absent filter holds of every row. -/
def ofFilter (s : Schema) (entity : String) (row : Alias) : Value → Compile Condition
  | .map [] => return .always
  | .map entries => do
    let e ← entityNamed s entity
    let parts ← ofEntries s e row (.map entries) entries
    return conjunction parts
  | v =>
    if v.isPresent then throw (.filter (.notMap entity v.typeName) v) else return .always

def ofEntries (s : Schema) (e : Entity) (row : Alias) (whole : Value) : List (Value × Value) → Compile (List Condition)
  | [] => return []
  | (key, value) :: rest => do
    let part ← match ← Key.of e whole key with
      | .negation => do
        let condition ← ofFilter s e.name row value
        pure (.not condition)
      | .group disjunctive =>
        match value with
        | .list [] | .tuple [] => pure (if disjunctive then .never else .always)
        | .list items | .tuple items => do
          let parts ← ofMembers s e.name row items
          pure (if disjunctive then .any parts else .all parts)
        | v => throw (.filter (.notList (if disjunctive then "$or" else "$and")) v)
      | .relation r => do
        let target ← entityNamed s r.target
        relationCondition target row r.link value fun sub => ofFilter s target.name sub value
      | .column name => do
        let term ← columnTerm row name
        comparisonCondition term value
      | .formula f => do
        let term ← Term.ofFormula f row
        comparisonCondition term value
    let parts ← ofEntries s e row whole rest
    return part :: parts

def ofMembers (s : Schema) (entity : String) (row : Alias) : List Value → Compile (List Condition)
  | [] => return []
  | filter :: rest => do
    let part ← ofFilter s entity row filter
    let parts ← ofMembers s entity row rest
    return part :: parts

end

end Condition

end EntityViews.Sql
