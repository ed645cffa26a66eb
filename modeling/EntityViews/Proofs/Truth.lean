import EntityViews.Sql.Filter

/-!
What a condition says about the rows of a database. A comparison with nothing is neither true nor false, and so is a
membership test that finds no match but meets nothing among the members; conjunction, disjunction and negation carry this
third value along.
-/

namespace EntityViews

inductive Truth
  | holds
  | fails
  | unknown
deriving DecidableEq

namespace Truth

def ofBool (b : Bool) : Truth := if b then holds else fails

def not : Truth → Truth
  | holds => fails
  | fails => holds
  | unknown => unknown

def and : Truth → Truth → Truth
  | fails, _ | _, fails => fails
  | holds, holds => holds
  | _, _ => unknown

def or : Truth → Truth → Truth
  | holds, _ | _, holds => holds
  | fails, fails => fails
  | _, _ => unknown

def all (ts : List Truth) : Truth := ts.foldr and holds

def any (ts : List Truth) : Truth := ts.foldr or fails

theorem and_holds (t : Truth) : t.and holds = t := by
  cases t <;> rfl

theorem not_eq_holds {t : Truth} : t.not = holds ↔ t = fails := by
  cases t <;> decide

theorem ofBool_eq_holds {b : Bool} : ofBool b = holds ↔ b = true := by
  cases b <;> decide

/-- A conjunction is true if all its parts are. -/
theorem all_eq_holds {ts : List Truth} : all ts = holds ↔ ∀ t ∈ ts, t = holds := by
  induction ts with
  | nil => simp [all]
  | cons t ts ih =>
    have hcons : all (t :: ts) = t.and (all ts) := rfl
    have hand (a b : Truth) : a.and b = holds ↔ a = holds ∧ b = holds := by
      cases a <;> cases b <;> simp [and]
    rw [hcons, hand, ih, List.forall_mem_cons]

/-- A disjunction is true if some part is. -/
theorem any_eq_holds {ts : List Truth} : any ts = holds ↔ ∃ t ∈ ts, t = holds := by
  induction ts with
  | nil => simp [any]
  | cons t ts ih =>
    have hcons : any (t :: ts) = t.or (any ts) := rfl
    have hor (a b : Truth) : a.or b = holds ↔ a = holds ∨ b = holds := by
      cases a <;> cases b <;> simp [or]
    rw [hcons, hor, ih]
    simp only [List.mem_cons, exists_eq_or_imp]

/-- A disjunction is false if all its parts are. -/
theorem any_eq_fails {ts : List Truth} : any ts = fails ↔ ∀ t ∈ ts, t = fails := by
  induction ts with
  | nil => simp [any]
  | cons t ts ih =>
    have hcons : any (t :: ts) = t.or (any ts) := rfl
    have hor (a b : Truth) : a.or b = fails ↔ a = fails ∧ b = fails := by
      cases a <;> cases b <;> simp [or]
    rw [hcons, hor, ih, List.forall_mem_cons]

end Truth

abbrev Row := String → Value

/-- The contents of a database, how it compares two values that are there, and what it computes for a formula. -/
structure Contents where
  rows : String → List Row
  compares : Sql.Comparison → Value → Value → Bool
  computes : Formula → Row → Value

def Value.isNull : Value → Bool
  | .null => true
  | _ => false

theorem Value.isNull_eq_true {v : Value} : v.isNull = true ↔ v = .null := by
  constructor
  · intro h
    cases v with
    | scalar a =>
      cases a with
      | null => rfl
      | _ => cases h
    | _ => cases h
  · rintro rfl
    rfl

abbrev Sql.Env := String → Row

def Sql.Env.bind (env : Sql.Env) (row : Sql.Alias) (r : Row) : Sql.Env :=
  -- Within a sub-select its own row hides any outer one of the same name.
  fun name => if name = row.text then r else env name

def Row.ofCells (cells : List (String × Value)) : Row := fun name =>
  -- A column without a cell holds nothing.
  ((cells.find? (·.1 == name)).map (·.2)).getD .null

namespace Contents

open Sql

def ofTables (tables : List (String × List Row)) : Contents where
  rows table := ((tables.find? (·.1 == table)).map (·.2)).getD []
  compares c a b :=
    match c, a, b with
    | .eq, .int x, .int y => x == y
    | .ne, .int x, .int y => x != y
    | .gt, .int x, .int y => y < x
    | .gte, .int x, .int y => y ≤ x
    | .lt, .int x, .int y => x < y
    | .lte, .int x, .int y => x ≤ y
    | _, _, _ => false
  -- There are no formulas to compute, and a value that is not a whole number compares with none.
  computes _ _ := .null

variable (db : Contents)

def compare (c : Comparison) (a b : Value) : Truth :=
  -- Unknown if one of them is nothing.
  if a.isNull || b.isNull then .unknown else .ofBool (db.compares c a b)

def Joins (a b : Value) : Prop :=
  -- Nothing joins nothing, since such a comparison is unknown.
  db.compare .eq a b = .holds

def member (a : Value) (values : List Value) : Truth := .any (values.map (db.compare .eq a))

def column (table name : String) (keep : Row → Truth) : List Value :=
  ((db.rows table).filter fun r => keep r = .holds).map fun r => r name

/-- The value of a term; the wording of a formula says no more than the formula and its row. -/
def value (env : Env) : Term → Value
  | .column row name => env row.text name.text
  | .formula f row _ => db.computes f (env row.text)

mutual

def truth (env : Env) : Condition → Truth
  | .always => .holds
  | .never => .fails
  | .compare c term operand => db.compare c (db.value env term) operand
  | .isNull negated term => .ofBool ((db.value env term).isNull != negated)
  | .among negated term operands =>
    if negated then (db.member (db.value env term) operands).not else db.member (db.value env term) operands
  | .all parts => .all (truths env parts)
  | .any parts => .any (truths env parts)
  | .not part => (truth env part).not
  -- The condition of a sub-select sees the outer rows, and the one that it is tried for under its own name.
  | .within negated term column table row condition =>
    let found := db.member (db.value env term) (db.column table.text column.text fun r => truth (env.bind row r) condition)
    if negated then found.not else found

def truths (env : Env) : List Condition → List Truth
  | [] => []
  | part :: rest => truth env part :: truths env rest

end

theorem truths_eq_map (env : Env) (parts : List Condition) : db.truths env parts = parts.map (db.truth env) := by
  induction parts with
  | nil => rfl
  | cons part rest ih => rw [truths, ih, List.map_cons]

theorem truth_conjunction (env : Env) (parts : List Condition) :
    db.truth env (Condition.conjunction parts) = .all (parts.map (db.truth env)) := by
  unfold Condition.conjunction
  split
  · exact (Truth.and_holds _).symm
  · rw [truth, truths_eq_map]

theorem mem_column {table name : String} {keep : Row → Truth} {v : Value} :
    v ∈ db.column table name keep ↔ ∃ r ∈ db.rows table, keep r = .holds ∧ r name = v := by
  simp only [column, List.mem_map, List.mem_filter, decide_eq_true_eq, and_assoc]

/-- A value is a member of those that it is joined with. -/
theorem member_eq_holds {a : Value} {values : List Value} :
    db.member a values = .holds ↔ ∃ v ∈ values, db.Joins a v := by
  rw [member, Truth.any_eq_holds]
  constructor
  · rintro ⟨t, ht, h⟩
    obtain ⟨v, hv, rfl⟩ := List.mem_map.mp ht
    exact ⟨v, hv, h⟩
  · rintro ⟨v, hv, h⟩
    exact ⟨_, List.mem_map.mpr ⟨v, hv, rfl⟩, h⟩

/-- A value is a member of a column if it is joined with a row that is kept. -/
theorem member_column_eq_holds {a : Value} {table name : String} {keep : Row → Truth} :
    db.member a (db.column table name keep) = .holds ↔ ∃ r ∈ db.rows table, keep r = .holds ∧ db.Joins a (r name) := by
  simp only [member_eq_holds, mem_column]
  constructor
  · rintro ⟨v, ⟨r, hr, hk, rfl⟩, h⟩
    exact ⟨r, hr, hk, h⟩
  · rintro ⟨r, hr, hk, h⟩
    exact ⟨_, ⟨r, hr, hk, rfl⟩, h⟩

end Contents

end EntityViews
