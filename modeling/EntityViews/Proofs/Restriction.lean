import EntityViews.Proofs.Selection
import EntityViews.Proofs.Tour

/-!
The filters that relations are loaded under. Main statements: a row that meets the filter of a relation meets both filters
that it was made of, and a query under a filter finds just the rows that the filter is true of.
-/

namespace EntityViews

open Sql

namespace Contents

variable (db : Contents)

def Meets (s : Schema) (entity : String) (t : Row) (filter : Value) : Prop :=
  ∃ c n n', Gives (Condition.ofFilter s entity (.row Loader.mainRow) filter) n c n' ∧
    ∀ env : Env, env Loader.mainRow = t → db.truth env c = .holds

variable {db}

theorem Meets.truth {s : Schema} {entity : String} {t : Row} {filter : Value} (h : db.Meets s entity t filter) :
    Filter.truth db s entity t filter = .holds := by
  obtain ⟨c, n, n', hc, htruth⟩ := h
  have henv := htruth (fun _ => t) rfl
  rwa [Filter.truth_ofFilter db s filter entity _ c n n' hc] at henv

/-- Every row meets a filter that is absent. -/
theorem meets_of_absent {s : Schema} {entity : String} {t : Row} {filter : Value} (h : filter.isPresent = false) :
    db.Meets s entity t filter := by
  have hgives : Gives (Condition.ofFilter s entity (.row Loader.mainRow) filter) 0 .always 0 := by
    -- An empty map and everything that counts as absent compile to the condition that always holds.
    cases filter with
    | map entries =>
      cases entries with
      | nil =>
        rw [Condition.ofFilter]
        exact Gives.pure_iff.mpr ⟨rfl, rfl⟩
      | cons entry rest => cases h
    | scalar | list | tuple | set =>
      rw [Condition.ofFilter.eq_def]
      simp only [h, Bool.false_eq_true, if_false]
      exact Gives.pure_iff.mpr ⟨rfl, rfl⟩
  refine ⟨.always, 0, 0, hgives, ?_⟩
  intro env _
  rfl

/-- A row that meets two filters joined by $and meets each of them. -/
theorem meets_of_both {s : Schema} {entity : String} {t : Row} {f g : Value}
    (h : db.Meets s entity t (.map [(.text "$and", .list [f, g])])) : db.Meets s entity t f ∧ db.Meets s entity t g := by
  obtain ⟨c, n, n', hc, htruth⟩ := h
  obtain ⟨e, cs, he, hcs, rfl⟩ := Filter.ofFilter_map_gives hc
  obtain ⟨k, part, m, parts, hk, hpart, hparts, rfl⟩ := Filter.ofEntries_cons_gives hcs
  have hgroup : Key.of e (.map [(.text "$and", .list [f, g])]) (.text "$and") = .ok (.group false) := rfl
  rw [hgroup] at hk
  cases hk
  obtain ⟨items, ds, hitems, hds, rfl⟩ := hpart
  have hlist : items = [f, g] := by
    rcases hitems with h | h <;> cases h
    rfl
  subst hlist
  obtain ⟨df, m₁, _, hf, hrest, rfl⟩ := Filter.ofMembers_cons_gives hds
  obtain ⟨dg, m₂, ds', hg, _, rfl⟩ := Filter.ofMembers_cons_gives hrest
  rw [Schema.name_of_entity? he] at hf hg
  -- The conjunction has a single group, and that holds only if both of its members do.
  have hall : ∀ env : Env, env Loader.mainRow = t → ∀ d ∈ df :: dg :: ds', db.truth env d = .holds := by
    intro env henv d hd
    have hand := htruth env henv
    rw [truth_conjunction, Truth.all_eq_holds] at hand
    have hmember := hand _ (List.mem_map_of_mem List.mem_cons_self)
    simp only [List.isEmpty_cons, Bool.false_eq_true, if_false, truth, truths_eq_map, Truth.all_eq_holds] at hmember
    exact hmember _ (List.mem_map_of_mem hd)
  refine ⟨⟨df, _, _, hf, ?_⟩, ⟨dg, _, _, hg, ?_⟩⟩
  · intro env henv
    exact hall env henv df List.mem_cons_self
  · intro env henv
    exact hall env henv dg (List.mem_cons_of_mem _ List.mem_cons_self)

end Contents

/-- A row that meets what is loaded for a leg meets the filter of its relation and the one that is given. -/
theorem Leg.meets {db : Contents} {s : Schema} {entity : String} {t : Row} {leg : Leg}
    (h : db.Meets s entity t leg.loaded) : db.Meets s entity t leg.own ∧ db.Meets s entity t leg.given := by
  rw [Leg.loaded] at h
  rcases leg.filter_cases with ⟨_, _, hf⟩ | ⟨_, hg, hf⟩ | ⟨ho, _, hf⟩ | ⟨ho, hg, _⟩
  · rw [hf] at h
    exact Contents.meets_of_both h
  · rw [hf] at h
    exact ⟨h, Contents.meets_of_absent hg⟩
  · rw [hf] at h
    exact ⟨Contents.meets_of_absent ho, h⟩
  · exact ⟨Contents.meets_of_absent ho, Contents.meets_of_absent hg⟩

structure Contents.Restricts (db : Contents) (s : Schema) (entity : String) (filter : Value) (clauses : List Clause) :
    Prop where
  plain : ∀ c ∈ clauses, ∃ k, c = .condition k
  meets : ∀ env : Env, clauses.all (db.clauseHolds env) = true → db.Meets s entity (env Loader.mainRow) filter
  holds : ∀ env : Env, Filter.truth db s entity (env Loader.mainRow) filter = .holds →
    clauses.all (db.clauseHolds env) = true

theorem Contents.restricts_nil {db : Contents} {s : Schema} {entity : String} {filter : Value}
    (h : filter.isPresent = false) : db.Restricts s entity filter [] where
  plain := nofun
  meets := fun _ _ => meets_of_absent h
  holds := fun _ _ => rfl

/-- The condition of a filter restricts a query to the rows that meet it. -/
theorem Contents.restricts_condition {db : Contents} {s : Schema} {entity : String} {filter : Value} {c : Condition}
    {n n' : Nat} (h : Gives (Condition.ofFilter s entity (.row Loader.mainRow) filter) n c n') :
    db.Restricts s entity filter [.condition c] where
  plain := by
    intro d hd
    exact ⟨c, List.mem_singleton.mp hd⟩
  meets := by
    intro env henv
    have hc : db.truth env c = .holds := by simpa [clauseHolds] using henv
    refine ⟨c, n, n', h, ?_⟩
    intro env' he
    -- The truth of the condition depends on the row of the entity alone, whatever else is around it.
    rw [Filter.truth_ofFilter db s filter entity _ c n n' h] at hc ⊢
    exact (congrArg (fun t => Filter.truth db s entity t filter) he).trans hc
  holds := by
    intro env henv
    have hc : db.truth env c = .holds := (Filter.truth_ofFilter db s filter entity _ c n n' h env).trans henv
    simpa [clauseHolds] using hc

namespace Loader

def selected (target : Entity) (fields : Option (List String)) : Except Fault Query := do
  let q ← Query.start target mainRow
  q.selecting (target.selection fields)

structure Selected (target : Entity) (fields : Option (List String)) (q : Query) : Prop where
  sound : q.Sound
  names : ∀ name ∈ target.selection fields, q.selects name = true
  entity : q.entity = target
  table : q.table.text = target.name
  row : q.row.text = mainRow
  extra : q.extraColumns = []
  joins : q.joins = []
  clauses : q.clauses = []
  limit : q.limit = none
  offset : q.offset = none

theorem selected_ok {target : Entity} {fields : Option (List String)} {q : Query} (hid : target.IntegerId)
    (h : selected target fields = .ok q) : Selected target fields q := by
  obtain ⟨q₀, hstart, h⟩ := Except.bind_ok h
  obtain ⟨hwidens, hsound, hnames⟩ := Query.selecting_ok hid.1 hstart h
  obtain ⟨table, row, htable, hrow, rfl⟩ := Query.start_ok hstart
  obtain ⟨columns, formulas, rfl, _⟩ := hwidens
  exact ⟨hsound, hnames, rfl, htable, hrow, rfl, rfl, rfl, rfl, rfl⟩

/-- A query under a filter is the query for the fields with clauses for the filter. -/
theorem queryFor_gives {δ : Type} (db : Contents) {s : Schema} {target : Entity} {fields : Option (List String)}
    {filter : Value} {w w' : World δ} {q : Query} (hid : target.IntegerId)
    (h : Gives (queryFor s target fields filter) w q w') :
    ∃ q₀ clauses, selected target fields = .ok q₀ ∧ db.Restricts s target.name filter clauses ∧
      q = { q₀ with clauses := clauses } ∧ w'.store = w.store := by
  simp only [queryFor, Gives.bind_iff, Gives.lift_iff, Run.compile_gives] at h
  obtain ⟨start, _, ⟨hstart, rfl⟩, q₀, _, ⟨hselecting, rfl⟩, n, hfiltered, rfl⟩ := h
  have hselected : selected target fields = .ok q₀ := by
    rw [selected, hstart]
    exact hselecting
  have hq₀ := selected_ok hid hselected
  rw [Query.filtered] at hfiltered
  by_cases hp : filter.isPresent
  · rw [if_pos hp] at hfiltered
    simp only [Gives.bind_iff, Gives.pure_iff] at hfiltered
    obtain ⟨c, n', hc, rfl, rfl⟩ := hfiltered
    rw [hq₀.entity, Query.rowAlias, hq₀.row] at hc
    refine ⟨q₀, [.condition c], hselected, Contents.restricts_condition hc, ?_, rfl⟩
    rw [Query.add, hq₀.clauses]
    rfl
  · rw [if_neg hp] at hfiltered
    obtain ⟨rfl, _⟩ := Gives.pure_iff.mp hfiltered
    exact ⟨q, [], hselected, Contents.restricts_nil (Bool.eq_false_iff.mpr hp), hq₀.clauses ▸ rfl, rfl⟩

end Loader

end EntityViews
