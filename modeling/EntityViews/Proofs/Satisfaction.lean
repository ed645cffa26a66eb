import EntityViews.Proofs.Meaning
import EntityViews.Learning.Entities

/-!
Satisfaction of filters, told by rows alone: which rows are linked, and what is said of them. Main statement: the condition
that a filter without negations compiles to is true of exactly the rows that satisfy the filter.
-/

namespace EntityViews

open Sql

namespace Contents

variable (db : Contents)

def Links (row : Row) (link : Link) (t : Row) : Prop :=
  match link with
  | .manyToOne key | .oneToOne key => db.Joins (row key) (t "id")
  | .oneToMany key | .oneToOneInverse key => db.Joins (row "id") (t key)
  | .manyToMany table sourceKey targetKey =>
    ∃ j ∈ db.rows table, db.Joins (row "id") (j sourceKey) ∧ db.Joins (j targetKey) (t "id")

def LinksId (row : Row) (target : String) (link : Link) (value : Value) : Prop :=
  match link with
  | .manyToOne key | .oneToOne key => db.compared (row key) value = .holds
  | .oneToMany key | .oneToOneInverse key =>
    ∃ t ∈ db.rows target, db.Joins (row "id") (t key) ∧ db.compared (t "id") value = .holds
  | .manyToMany table sourceKey targetKey =>
    ∃ j ∈ db.rows table, db.Joins (row "id") (j sourceKey) ∧ db.compared (j targetKey) value = .holds

end Contents

namespace Filter

mutual

/-- Whether a row of an entity satisfies a filter. -/
def Sat (db : Contents) (s : Schema) (entity : String) (row : Row) : Value → Prop
  | .map entries => SatEvery db s entity row entries
  | _ => True

def SatEvery (db : Contents) (s : Schema) (entity : String) (row : Row) : List (Value × Value) → Prop
  | [] => True
  | (key, value) :: rest =>
    (match s.key? entity key with
    | some .negation => ¬Sat db s entity row value
    | some (.group disjunctive) => SatGroup db s entity row disjunctive value
    | some (.relation r) =>
      if isIdComparison value then db.LinksId row r.target r.link value
      else ∃ t ∈ db.rows r.target, db.Links row r.link t ∧ Sat db s r.target t value
    | some (.column name) => db.compared (row name.plain) value = .holds
    | some (.formula f) => db.compared (db.computes f row) value = .holds
    | none => False) ∧ SatEvery db s entity row rest

def SatGroup (db : Contents) (s : Schema) (entity : String) (row : Row) (disjunctive : Bool) : Value → Prop
  | .list items | .tuple items =>
    if disjunctive then SatSome db s entity row items else SatAll db s entity row items
  | _ => False

def SatAll (db : Contents) (s : Schema) (entity : String) (row : Row) : List Value → Prop
  | [] => True
  | filter :: rest => Sat db s entity row filter ∧ SatAll db s entity row rest

def SatSome (db : Contents) (s : Schema) (entity : String) (row : Row) : List Value → Prop
  | [] => False
  | filter :: rest => Sat db s entity row filter ∨ SatSome db s entity row rest

end

mutual

/-- Whether a filter has no negation and asks of no relation that it leads nowhere. -/
def positive (s : Schema) (entity : String) : Value → Bool
  | .map entries => positiveEntries s entity entries
  | _ => true

def positiveEntries (s : Schema) (entity : String) : List (Value × Value) → Bool
  | [] => true
  | (key, value) :: rest =>
    (match s.key? entity key with
    | some .negation => false
    | some (.group _) => positiveGroup s entity value
    | some (.relation r) => !value.isNull && (isIdComparison value || positive s r.target value)
    | _ => true) && positiveEntries s entity rest

def positiveGroup (s : Schema) (entity : String) : Value → Bool
  | .list items | .tuple items => positiveMembers s entity items
  | _ => true

def positiveMembers (s : Schema) (entity : String) : List Value → Bool
  | [] => true
  | filter :: rest => positive s entity filter && positiveMembers s entity rest

end

end Filter

namespace Contents

variable (db : Contents)

/-- An id comparison on a relation holds if the id that the row links to compares so. -/
theorem linked_id_eq_holds {row : Row} {target : String} {link : Link} {value : Value} {nested : Row → Truth}
    (hi : isIdComparison value = true) (hv : value.isNull = false) :
    db.linked row target link value nested = .holds ↔ db.LinksId row target link value := by
  cases link with
  | manyToOne key | oneToOne key => simp only [linked, LinksId, hi, if_true]
  | manyToMany table sourceKey targetKey =>
    rw [db.linked_eq_member rfl hv, related, member_column_eq_holds, LinksId]
    simp only [hi, if_true]
    constructor
    · rintro ⟨j, hj, hc, hl⟩
      exact ⟨j, hj, hl, hc⟩
    · rintro ⟨j, hj, hl, hc⟩
      exact ⟨j, hj, hc, hl⟩
  | oneToMany key | oneToOneInverse key =>
    rw [db.linked_eq_member rfl hv, related, member_column_eq_holds, LinksId]
    simp only [hi, if_true]
    constructor
    · rintro ⟨t, ht, hc, hl⟩
      exact ⟨t, ht, hl, hc⟩
    · rintro ⟨t, ht, hl, hc⟩
      exact ⟨t, ht, hc, hl⟩

/-- A filter on a relation holds if some linked row meets what is nested. -/
theorem linked_nested_eq_holds {row : Row} {target : String} {link : Link} {value : Value} {nested : Row → Truth}
    (hi : isIdComparison value = false) :
    db.linked row target link value nested = .holds ↔
      ∃ t ∈ db.rows target, db.Links row link t ∧ nested t = .holds := by
  have hv := isNull_of_nested hi
  cases link with
  | manyToOne key | oneToOne key =>
    simp only [linked, hi, related, Links, Bool.false_eq_true, if_false, member_column_eq_holds]
    constructor
    · rintro ⟨t, ht, hc, hl⟩
      exact ⟨t, ht, hl, hc⟩
    · rintro ⟨t, ht, hl, hc⟩
      exact ⟨t, ht, hc, hl⟩
  | manyToMany table sourceKey targetKey =>
    rw [db.linked_eq_member rfl hv, related, member_column_eq_holds]
    simp only [hi, Links, Bool.false_eq_true, if_false, member_column_eq_holds]
    constructor
    · rintro ⟨j, hj, ⟨t, ht, hc, hl⟩, hs⟩
      exact ⟨t, ht, ⟨j, hj, hs, hl⟩, hc⟩
    · rintro ⟨t, ht, ⟨j, hj, hs, hl⟩, hc⟩
      exact ⟨j, hj, ⟨t, ht, hc, hl⟩, hs⟩
  | oneToMany key | oneToOneInverse key =>
    rw [db.linked_eq_member rfl hv, related, member_column_eq_holds]
    simp only [hi, Links, Bool.false_eq_true, if_false]
    constructor
    · rintro ⟨t, ht, hc, hl⟩
      exact ⟨t, ht, hl, hc⟩
    · rintro ⟨t, ht, hl, hc⟩
      exact ⟨t, ht, hc, hl⟩

end Contents

namespace Filter

variable (db : Contents) (s : Schema)

mutual

/-- A filter without negation is true on a row if and only if the row satisfies it. -/
theorem truth_eq_holds : (filter : Value) → ∀ entity row, positive s entity filter = true →
    (truth db s entity row filter = .holds ↔ Sat db s entity row filter)
  | .map entries => by
    intro entity row hp
    rw [truth, Sat, Truth.all_eq_holds]
    exact entryTruths_hold entries entity row hp
  | .scalar _ | .list _ | .tuple _ | .set _ => by
    intro entity row hp
    exact ⟨fun _ => trivial, fun _ => rfl⟩

/-- All entries of a map are true if the row satisfies every one. -/
theorem entryTruths_hold : (entries : List (Value × Value)) → ∀ entity row, positiveEntries s entity entries = true →
    ((∀ t ∈ entryTruths db s entity row entries, t = .holds) ↔ SatEvery db s entity row entries)
  | [] => by
    intro entity row hp
    exact ⟨fun _ => trivial, fun _ _ h => by cases h⟩
  | (key, value) :: rest => by
    intro entity row hp
    rw [positiveEntries, Bool.and_eq_true] at hp
    obtain ⟨hkey, hrest⟩ := hp
    rw [entryTruths, List.forall_mem_cons, SatEvery, entryTruths_hold rest entity row hrest]
    apply and_congr_left
    intro _
    cases hk : s.key? entity key with
    | none => exact ⟨nofun, False.elim⟩
    | some k =>
      rw [hk] at hkey
      cases k with
      -- Not failing is less than holding, so the readings part at a negation, which a positive filter has none of.
      | negation => cases hkey
      | group disjunctive => exact groupTruth_holds value entity row disjunctive hkey
      | relation r =>
        obtain ⟨hv, hnested⟩ := Bool.and_eq_true_iff.mp hkey
        have hv : value.isNull = false := by simpa using hv
        -- An id is compared on the row that holds it; a nested filter is about the rows of the target.
        by_cases hi : isIdComparison value
        · simp only [hi, if_true]
          exact db.linked_id_eq_holds hi hv
        · have hi : isIdComparison value = false := by simpa using hi
          have hp : positive s r.target value = true := by simpa [hi] using hnested
          simp only [hi, Bool.false_eq_true, if_false]
          rw [db.linked_nested_eq_holds hi]
          simp only [truth_eq_holds value r.target _ hp]
      | column name => exact Iff.rfl
      | formula f => exact Iff.rfl

/-- A group is true if the row satisfies it as its kind says. -/
theorem groupTruth_holds : (value : Value) → ∀ entity row disjunctive, positiveGroup s entity value = true →
    (groupTruth db s entity row disjunctive value = .holds ↔ SatGroup db s entity row disjunctive value)
  | .list items | .tuple items => by
    intro entity row disjunctive hp
    rw [positiveGroup] at hp
    obtain ⟨hall, hsome⟩ := memberTruths_hold items entity row hp
    rw [groupTruth, SatGroup]
    cases disjunctive
    · simp only [Bool.false_eq_true, if_false]
      rw [Truth.all_eq_holds, hall]
    · simp only [if_true]
      rw [Truth.any_eq_holds, hsome]
  | .map _ | .set _ | .scalar _ => by
    intro entity row disjunctive hp
    exact ⟨nofun, False.elim⟩

/-- All members of a group are true if the row satisfies all of them, and one of them is if it satisfies any. -/
theorem memberTruths_hold : (filters : List Value) → ∀ entity row, positiveMembers s entity filters = true →
    ((∀ t ∈ memberTruths db s entity row filters, t = .holds) ↔ SatAll db s entity row filters) ∧
    ((∃ t ∈ memberTruths db s entity row filters, t = .holds) ↔ SatSome db s entity row filters)
  | [] => by
    intro entity row hp
    refine ⟨⟨fun _ => trivial, fun _ _ h => by cases h⟩, ⟨?_, False.elim⟩⟩
    rintro ⟨t, ht, _⟩
    cases ht
  | filter :: rest => by
    intro entity row hp
    rw [positiveMembers, Bool.and_eq_true] at hp
    -- Both readings of the members are carried along, as the key of the group decides later which one counts.
    obtain ⟨hall, hsome⟩ := memberTruths_hold rest entity row hp.2
    have hfirst := truth_eq_holds filter entity row hp.1
    rw [memberTruths, SatAll, SatSome, List.forall_mem_cons, hall, hfirst]
    refine ⟨Iff.rfl, ?_⟩
    rw [← hsome, ← hfirst]
    simp only [List.mem_cons, exists_eq_or_imp]

end

end Filter

namespace Sql.Condition

/-- A filter that is accepted and has neither negations nor relations compared with nothing selects exactly the rows that
satisfy it, whatever the numbers of its sub-selects and the rows around it. -/
theorem selects_iff_sat (db : Contents) (s : Schema) (entity : String) (row : Alias) (filter : Value) (c : Condition)
    (n n' : Nat) (env : Env) (accepted : Gives (ofFilter s entity row filter) n c n')
    (hp : Filter.positive s entity filter = true) :
    db.truth env c = .holds ↔ Filter.Sat db s entity (env row.text) filter := by
  rw [Filter.truth_ofFilter db s filter entity row c n n' accepted env]
  exact Filter.truth_eq_holds db s filter entity (env row.text) hp

def markedOrThird : Value :=
  .map [(.text "texts", .map [(.text "isPublic", .bool true), (.text "$or", .list [
    .map [(.text "language", .int 3)],
    .map [(.text "bookmarkers", .map [(.text "$in", .list [.int 7, .int 9])])]])])]

def markedTexts : Contents := .ofTables [
  ("Collection", [.ofCells [("id", .int 1)], .ofCells [("id", .int 2)]]),
  ("Text", [.ofCells [("id", .int 10), ("isPublic", .int 1), ("languageId", .int 4), ("collectionId", .int 1)],
    .ofCells [("id", .int 11), ("isPublic", .int 1), ("languageId", .int 3)]]),
  ("TextBookmark", [.ofCells [("textId", .int 10), ("bookmarkerId", .int 9)]])]

/-- The first collection is selected and satisfies the filter; the second is not and does not. -/
theorem selects_iff_sat_markedOrThird :
    ∃ c n', Gives (ofFilter Learning.schema "Collection" (.row "t0") markedOrThird) 1 c n' ∧
      Filter.positive Learning.schema "Collection" markedOrThird = true ∧
      (markedTexts.truth (fun _ => .ofCells [("id", .int 1)]) c = .holds ∧
        Filter.Sat markedTexts Learning.schema "Collection" (.ofCells [("id", .int 1)]) markedOrThird) ∧
      ¬Filter.Sat markedTexts Learning.schema "Collection" (.ofCells [("id", .int 2)]) markedOrThird := by
  have hp : Filter.positive Learning.schema "Collection" markedOrThird = true := by decide
  refine ⟨_, _, rfl, hp, ⟨by decide, ?_⟩, ?_⟩
  · apply (selects_iff_sat markedTexts Learning.schema "Collection" (.row "t0") markedOrThird _ 1 _
      (fun _ => .ofCells [("id", .int 1)]) rfl hp).mp
    decide
  · intro h
    have := (selects_iff_sat markedTexts Learning.schema "Collection" (.row "t0") markedOrThird _ 1 _
      (fun _ => .ofCells [("id", .int 2)]) rfl hp).mpr h
    revert this
    decide

end Sql.Condition

end EntityViews
