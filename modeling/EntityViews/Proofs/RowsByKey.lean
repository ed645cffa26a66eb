import Mathlib.Data.List.Nodup
import EntityViews.Proofs.Drafts

/-!
What a load has in hand before it attaches anything: rows with the keys that they were found for and the records that were
made of them. Main statement: a statement without joins leaves a stock in which the rows for each key are those linked to it.
-/

namespace EntityViews

open Sql

namespace Loader

/-- Whether a relation can be loaded from a database: the names in its statement can be written, the statement can be
built, its keys refer to rows and its rows can be read. -/
structure Loadable (db : Contents) (relation : Relation) (target : Entity) (fields : Option (List String))
    (draft : Select) : Prop where
  id : target.IntegerId
  names : ∀ n ∈ relation.link.names, ∃ m, Name.make? n = .ok m
  key : ∀ k, relation.link.targetKey? = some k → target.Refers k
  drafted : Loader.draft relation target fields = .ok draft
  referable : db.Referable target.name relation.link
  readable : ∀ t ∈ db.rows target.name, ∃ row,
    target.fieldsOfRow (db.cells target relation.link draft.labels t) = .ok row

def loadable (db : Contents) (relation : Relation) (target : Entity) (fields : Option (List String)) : Bool :=
  target.integerId && relation.link.names.all (fun n => (Name.make? n).isOk) &&
    relation.link.targetKey?.all target.refers && db.referable target.name relation.link &&
    match Loader.draft relation target fields with
    | .ok draft => (db.rows target.name).all fun t =>
      (target.fieldsOfRow (db.cells target relation.link draft.labels t)).isOk
    | .error _ => false

/-- Contents that pass the check for a relation can be loaded along it. -/
theorem loadable_of_check {db : Contents} {relation : Relation} {target : Entity} {fields : Option (List String)}
    (hcompares : db.ComparesIntegers) (h : loadable db relation target fields = true) :
    ∃ draft, Loadable db relation target fields draft := by
  simp only [loadable, Bool.and_eq_true, List.all_eq_true] at h
  obtain ⟨⟨⟨⟨hid, hnames⟩, hkey⟩, hreferable⟩, hrows⟩ := h
  have hok : ∀ {α : Type} {x : Except Fault α}, x.isOk = true → ∃ a, x = .ok a := by
    rintro α (e | a) hx
    · cases hx
    · exact ⟨a, rfl⟩
  split at hrows
  · rename_i draft hdraft
    rw [List.all_eq_true] at hrows
    refine ⟨draft, Entity.integerId_of_check hid, fun n hn => hok (hnames n hn), ?_, hdraft,
      Contents.referable_of_check hcompares hreferable, fun t ht => hok (hrows t ht)⟩
    intro k hk
    rw [hk, Option.all_some] at hkey
    exact Entity.refers_of_check hkey
  · cases hrows

structure Hit where
  key : Value
  row : Row
  record : Nat

def items (hits : List Hit) (v : Value) : List Node := (hits.filter (·.key.same v)).map fun hit => .record hit.record

/-- Whether what was found for some keys are the rows that are linked to each of them, with one record for each row. -/
structure Stock (db : Contents) (s : Schema) (target : Entity) (link : Link) (names : List String) (filter : Value)
    (ids : List Value) (base : Nat) (store : Store) (hits : List Hit) : Prop where
  rows : ∀ hit ∈ hits, hit.row ∈ db.rows target.name
  reads : ∀ hit ∈ hits, store.Reads base (.record hit.record) (db.recordOf target link names hit.row)
  shared : ∀ hit ∈ hits, ∀ other ∈ hits, hit.row = other.row → hit.record = other.record
  found : ∀ v, v.isReference = true → (v ≠ .null → v ∈ ids) →
    (hits.filter (·.key.same v)).map (·.row) = db.rowsFor s target.name link filter v

variable {δ : Type} {db : Contents} {s : Schema} {relation : Relation} {target : Entity} {link : Link}
  {names : List String} {fields : Option (List String)} {filter : Value} {draft : Select} {ids : List Value} {base : Nat}
  {store : Store} {w : World δ}

/-- There is one record for each row, whatever key the row was found for. -/
theorem Stock.objects {hits : List Hit} (h : Stock db s target link names filter ids base store hits)
    (hdb : db.Referable target.name link) : ∃ object : Row → Nat, ∀ v, v.isReference = true → (v ≠ .null → v ∈ ids) →
      items hits v = (db.rowsFor s target.name link filter v).map (fun t => .record (object t)) ∧
      ∀ t ∈ db.rowsFor s target.name link filter v,
        store.Reads base (.record (object t)) (db.recordOf target link names t) := by
  let object (t : Row) : Nat := ((hits.find? fun hit => (hit.row "id").same (t "id")).map (·.record)).getD 0
  -- A row can be found for several keys; rows of one id are one row, and all their hits share the record.
  have hobject : ∀ hit ∈ hits, object hit.row = hit.record := by
    intro hit hhit
    have hself : (hit.row "id").same (hit.row "id") = true := by
      obtain ⟨n, hn⟩ := hdb.ids _ (h.rows hit hhit)
      rw [hn]
      exact Value.same_ints.mpr rfl
    obtain ⟨other, hother⟩ : ∃ other, hits.find? (fun other => (other.row "id").same (hit.row "id")) = some other :=
      Option.isSome_iff_exists.mp (List.find?_isSome.mpr ⟨hit, hhit, hself⟩)
    have hmem := List.mem_of_find?_eq_some hother
    have hsame : (other.row "id").same (hit.row "id") = true := by simpa using List.find?_some hother
    have hrow : other.row = hit.row := hdb.eq_of_same (h.rows other hmem) (h.rows hit hhit) hsame
    change ((hits.find? fun other => (other.row "id").same (hit.row "id")).map (·.record)).getD 0 = hit.record
    rw [hother]
    exact h.shared other hmem hit hhit hrow
  refine ⟨object, fun v hv hmem => ⟨?_, ?_⟩⟩
  · rw [← h.found v hv hmem, List.map_map, items]
    apply List.map_congr_left
    intro hit hhit
    exact congrArg Node.record (hobject hit (List.mem_filter.mp hhit).1).symm
  · intro t ht
    rw [← h.found v hv hmem] at ht
    obtain ⟨hit, hhit, rfl⟩ := List.mem_map.mp ht
    have hin : hit ∈ hits := (List.mem_filter.mp hhit).1
    rw [hobject hit hin]
    exact h.reads hit hin

/-- The rows that a statement finds are a stock once each of them has its record. -/
theorem stock_of_found {sel : Select} {made : List (Env × Nat)} {key : Env → Value} (hdb : db.Referable target.name link)
    (hids : ∀ k ∈ ids, k.isReference = true) (hperm : (made.map (·.1)).Perm (db.found sel))
    (horder : (made.map (·.1)).map (· sel.row.text) = (db.found sel).map (· sel.row.text)) (hrow : sel.row.text = mainRow)
    (hfound : (db.found sel).map (fun env => (key env, env mainRow)) =
      (db.links target.name link).filter (db.asked s target.name filter ids))
    (hreads : ∀ m ∈ made, store.Reads base (.record m.2) (db.recordOf target link names (m.1 mainRow)))
    (hshared : ∀ m ∈ made, ∀ m' ∈ made, m.1 mainRow = m'.1 mainRow → m.2 = m'.2) :
    Stock db s target link names filter ids base store (made.map fun m => ⟨key m.1, m.1 mainRow, m.2⟩) := by
  have hlinked : ∀ m ∈ made, (key m.1, m.1 mainRow) ∈ db.links target.name link := by
    intro m hm
    have henv : m.1 ∈ db.found sel := hperm.mem_iff.mp (List.mem_map_of_mem hm)
    have hpair : (key m.1, m.1 mainRow) ∈ (db.found sel).map fun env => (key env, env mainRow) := List.mem_map_of_mem henv
    rw [hfound] at hpair
    exact (List.mem_filter.mp hpair).1
  refine ⟨?_, ?_, ?_, ?_⟩
  · intro hit hhit
    obtain ⟨m, hm, rfl⟩ := List.mem_map.mp hhit
    exact Contents.mem_rows_of_links (hlinked m hm)
  · intro hit hhit
    obtain ⟨m, hm, rfl⟩ := List.mem_map.mp hhit
    exact hreads m hm
  · intro hit hhit other hother he
    obtain ⟨m, hm, rfl⟩ := List.mem_map.mp hhit
    obtain ⟨m', hm', rfl⟩ := List.mem_map.mp hother
    exact hshared m hm m' hm' he
  · intro v hv hmem
    -- The order of the answer leaves open how rows stand that are joined with one row; for a single key it does not matter.
    let pair (env : Env) : Value × Row := (key env, env mainRow)
    have hrows : ((made.map (·.1)).map pair).map (·.2) = ((db.found sel).map pair).map (·.2) := by
      rw [hrow] at horder
      rw [List.map_map, List.map_map (f := pair)]
      exact horder
    have hsublist : ((db.found sel).map pair).Sublist (db.links target.name link) := hfound ▸ List.filter_sublist
    have hgiven := hdb.filter_eq_of_perm (hperm.map pair) hrows hsublist (·.1.same v)
    rw [hfound, hdb.filter_asked hids hv hmem] at hgiven
    rw [← hgiven, List.map_map, List.filter_map, List.filter_map, List.map_map, List.map_map]
    rfl

/-- The query for related rows can be built, and it finds the rows that meet the filter. -/
theorem queryFor_runs {q₀ : Query} (hid : target.IntegerId) (hq₀ : selected target fields = .ok q₀)
    (haccepted : ∃ c n, Gives (Condition.ofFilter s target.name (.row mainRow) filter) w.nextAlias c n) :
    ∃ clauses n, Gives (queryFor s target fields filter) w { q₀ with clauses := clauses } { w with nextAlias := n } ∧
      db.Restricts s target.name filter clauses := by
  have hsel := selected_ok hid hq₀
  obtain ⟨start, hstart, hselecting⟩ := Except.bind_ok hq₀
  have hquery : ∀ {clauses : List Clause} {n : Nat},
      Gives (q₀.filtered s filter) w.nextAlias { q₀ with clauses := clauses } n →
      Gives (queryFor s target fields filter) w { q₀ with clauses := clauses } { w with nextAlias := n } := by
    intro clauses n hfiltered
    simp only [queryFor, Gives.bind_iff, Gives.lift_iff, Run.compile_gives]
    exact ⟨start, w, ⟨hstart, rfl⟩, q₀, w, ⟨hselecting, rfl⟩, n, hfiltered, rfl⟩
  by_cases hp : filter.isPresent
  · obtain ⟨c, n, hc⟩ := haccepted
    refine ⟨[.condition c], n, hquery ?_, Contents.restricts_condition hc⟩
    have hc' : Gives (Condition.ofFilter s q₀.entity.name q₀.rowAlias filter) w.nextAlias c n := by
      rwa [hsel.entity, Query.rowAlias, hsel.row]
    rw [Query.filtered, if_pos hp]
    refine Gives.bind_iff.mpr ⟨c, n, hc', Gives.pure_iff.mpr ⟨?_, rfl⟩⟩
    rw [Query.add, hsel.clauses]
    rfl
  · refine ⟨[], w.nextAlias, hquery ?_, Contents.restricts_nil (Bool.eq_false_iff.mpr hp)⟩
    rw [Query.filtered, if_neg hp]
    refine Gives.pure_iff.mpr ⟨?_, rfl⟩
    rw [← hsel.clauses]

theorem items_groups (hits : List Hit) (v : Value) :
    (lookup? v (groupsOf (hits.map fun hit => (hit.key, Node.record hit.record)))).getD [] = items hits v := by
  rw [lookup?_groupsOf, List.filter_map, List.map_map]
  rfl

/-- What a key finds is the first item with this key, or null. -/
theorem items_lookup (hits : List Hit) (v : Value) :
    (lookup? v (hits.map fun hit => (hit.key, Node.record hit.record))).getD .null = (items hits v).headD .null := by
  induction hits with
  | nil => rfl
  | cons hit rest ih =>
    rw [List.map_cons, lookup?_cons, items, List.filter_cons]
    split
    · rfl
    · exact ih

/-! A relation that can be loaded. -/

namespace Loadable

variable (h : Loadable db relation target fields draft)
include h

theorem query : ∃ q₀, selected target (fetched relation.link fields) = .ok q₀ ∧
    Drafted target (fetched relation.link fields) (sorts relation) q₀ draft := by
  obtain ⟨q₀, hq₀, hbuilt⟩ := Except.bind_ok h.drafted
  exact ⟨q₀, hq₀, selected_ok h.id hq₀, hbuilt⟩

theorem fieldsOf_eq {t : Row} (ht : t ∈ db.rows target.name) :
    target.fieldsOfRow (db.cells target relation.link draft.labels t) =
      .ok (db.fieldsOf target relation.link draft.labels t) := by
  obtain ⟨row, hrow⟩ := h.readable t ht
  rw [Contents.fieldsOf, hrow]
  rfl

/-- The record of a row has its id as the key under that name. -/
theorem reads_id {t : Row} {id : Nat} (ht : t ∈ db.rows target.name)
    (hreads : store.Reads base (.record id) (db.recordOf target relation.link draft.labels t)) :
    ∃ n, store.get? id (.text "id") = some n ∧ n.key = .ok (t "id") := by
  obtain ⟨q₀, _, hdrafted⟩ := h.query
  obtain ⟨n, hn⟩ := h.referable.ids t ht
  refine Contents.reads_reference (Entity.refers_id h.id) (h.fieldsOf_eq ht)
    (Contents.lookup?_id_cells h.id hdrafted.id_mem_names) ?_ hreads
  rw [hn]
  rfl

theorem reads_key {t : Row} {id : Nat} {key : String} (hkey : relation.link.targetKey? = some key)
    (hselects : key ∈ target.selection (fetched relation.link fields)) (ht : t ∈ db.rows target.name)
    (href : (t key).isReference = true)
    (hreads : store.Reads base (.record id) (db.recordOf target relation.link draft.labels t)) :
    ∃ n, store.get? id (.text key) = some n ∧ n.key = .ok (t key) := by
  obtain ⟨q₀, _, hdrafted⟩ := h.query
  have hcell : lookup? (.text key) (db.cells target relation.link draft.labels t) = some (t key) :=
    Contents.lookup?_key_cells hkey (h.key key hkey) (hdrafted.mem_names hselects)
  exact Contents.reads_reference (h.key key hkey) (h.fieldsOf_eq ht) hcell href hreads

/-- The key of the target is selected in any case. -/
theorem mem_selection {key : String} (hkey : relation.link.targetKey? = some key) :
    key ∈ target.selection (fetched relation.link fields) := by
  have hcolumn : key ∈ target.columnNames := by
    obtain ⟨hhas, _, _⟩ := h.key key hkey
    rw [Entity.hasColumn, Bool.or_eq_true, beq_iff_eq] at hhas
    rw [Entity.columnNames]
    rcases hhas with rfl | hhas
    · split
      · assumption
      · exact List.mem_cons_self
    · obtain ⟨c, hc⟩ := Option.isSome_iff_exists.mp hhas
      have hname : c.name = key := by simpa using List.find?_some hc
      have hmem : key ∈ target.columns.map (·.name) := hname ▸ List.mem_map_of_mem (List.mem_of_find?_eq_some hc)
      split
      · exact hmem
      · exact List.mem_cons_of_mem _ hmem
  have hfetched : fetched relation.link fields = fields.map (· ++ [key]) := by
    cases hl : relation.link with
    | oneToOneInverse other | oneToMany other =>
      rw [hl] at hkey
      cases hkey
      rfl
    | manyToOne | oneToOne | manyToMany =>
      rw [hl] at hkey
      cases hkey
  rw [hfetched]
  cases fields with
  | none => exact mem_distinct.mpr (List.mem_append_left _ hcolumn)
  | some fs =>
    have hlast : key ∈ "id" :: (fs ++ [key]) :=
      List.mem_cons_of_mem _ (List.mem_append_right _ (List.mem_singleton_self key))
    exact mem_distinct.mpr (List.mem_append_left _ hlast)

/-- Each row has an id of its own, so that looking records up by their ids is the same as going through the rows. -/
theorem byField_runs {hits : List Hit} {w₁ : World δ} (hids : ∀ hit ∈ hits, hit.key = hit.row "id")
    (hrows : (hits.map (·.row)).Sublist (db.rows target.name))
    (hstock : Stock db s target relation.link draft.labels filter ids base w₁.store hits) :
    Gives (byField (hits.map fun hit => Node.record hit.record) "id") w₁
      (hits.map fun hit => (hit.key, Node.record hit.record)) w₁ := by
  have hdistinct : (hits.map fun hit => (hit.key, Node.record hit.record)).Pairwise fun p q => p.1.same q.1 = false := by
    rw [List.pairwise_map]
    refine (List.pairwise_map.mp (h.referable.unique.sublist hrows)).imp_of_mem ?_
    intro hit other hhit hother hne
    obtain ⟨m, hm⟩ := h.referable.ids _ (hstock.rows hit hhit)
    obtain ⟨n, hn⟩ := h.referable.ids _ (hstock.rows other hother)
    rw [hm, hn] at hne
    rw [hids hit hhit, hids other hother, hm, hn, Bool.eq_false_iff]
    exact fun hsame => hne (congrArg Value.int (Value.same_ints.mp hsame))
  refine Gives.bind_iff.mpr ⟨_, w₁, Gives.mapM_runs ?_, Gives.pure_iff.mpr ⟨(collect_eq_self hdistinct).symm, rfl⟩⟩
  intro hit hhit
  obtain ⟨n, hget, hkey⟩ := h.reads_id (hstock.rows hit hhit) (hstock.reads hit hhit)
  refine Gives.bind_iff.mpr ⟨n, w₁, Run.item_runs hget, ?_⟩
  refine Gives.bind_iff.mpr ⟨hit.key, w₁, Gives.lift_iff.mpr ⟨?_, rfl⟩, Gives.pure_iff.mpr ⟨rfl, rfl⟩⟩
  rw [hkey, hids hit hhit]

end Loadable

section Runs

variable [Engine δ] (steady : Steady δ db) (h : Loadable db relation target fields draft)
include steady h

/-- What a statement without joins finds becomes a stock, with one record for each row. -/
theorem fetch_runs {q₀ : Query} {clauses : List Clause} {column : Name}
    (hq₀ : selected target (fetched relation.link fields) = .ok q₀) (hr : db.Restricts s target.name filter clauses)
    (hlinks : db.links target.name relation.link = (db.rows target.name).map fun t => (t column.text, t))
    (hcells : ∀ names t, db.cells target relation.link names t =
      collect (names.map fun name => (Value.text name, db.field target t name)))
    (hids : ∀ k ∈ ids, k.isReference = true) (w : World δ) :
    ∃ (sel : Select) (hits : List Hit) (w₁ : World δ),
      ({ q₀ with clauses := clauses ++ [among q₀.rowAlias column ids], sorts := q₀.sorts ++ sorts relation }).build =
        .ok sel ∧
      Gives (fetchRecords target sel) w (hits.map fun hit => .record hit.record) w₁ ∧
      w₁.actions = w.actions.push (.execute (.select sel)) ∧ w.store.Grows w₁.store ∧
      (hits.map (·.row)).Sublist (db.rows target.name) ∧ (∀ hit ∈ hits, hit.key = hit.row column.text) ∧
      Stock db s target relation.link draft.labels filter ids w.store.records.size w₁.store hits := by
  obtain ⟨q₁, hq₁, hdrafted⟩ := h.query
  obtain rfl : q₀ = q₁ := Except.ok.inj (hq₀.symm.trans hq₁)
  have hsel := hdrafted.selected
  let full : Query := { q₀ with clauses := clauses ++ [among q₀.rowAlias column ids], sorts := q₀.sorts ++ sorts relation }
  let sel : Select :=
    ⟨q₀.table, q₀.rowAlias, [], draft.outputs, clauses ++ [among q₀.rowAlias column ids], draft.order, .all⟩
  have hb : full.build = .ok sel := by
    have hbuilt := hdrafted.build_eq (show full = { q₀ with
      joins := q₀.joins, extraColumns := q₀.extraColumns, clauses := clauses ++ [among q₀.rowAlias column ids],
      sorts := q₀.sorts ++ sorts relation } from rfl)
    rwa [hsel.joins, hsel.extra, List.append_nil] at hbuilt
  have hready : Ready target full := ready_of_plain h.id hq₀ rfl hr (plain_among _ _ _)
  have hfound := Contents.found_plain hr hsel.table (show sel.row.text = mainRow from hsel.row) rfl rfl hsel.row
  have hmain : ∀ env ∈ db.found sel, env mainRow ∈ db.rows target.name := by
    intro env henv
    have hpair := List.mem_map_of_mem (f := fun env => (env mainRow column.text, env mainRow)) henv
    rw [hfound, ← hlinks] at hpair
    exact Contents.mem_rows_of_links (List.mem_filter.mp hpair).1
  have hread : ∀ env ∈ db.found sel, target.fieldsOfRow (db.namedRow sel env) =
      .ok (db.fieldsOf target relation.link draft.labels (env mainRow)) := by
    intro env henv
    rw [hdrafted.namedRow_eq db (show sel.outputs = draft.outputs from rfl), ← hcells]
    exact h.fieldsOf_eq (hmain env henv)
  obtain ⟨made, w₁, hfetch, hactions, hperm, horder, hgrows, hreads⟩ :=
    fetchRecords_runs steady (hready.plain hb) rfl hread w
  have hrows : ((made.map (·.1)).map (· mainRow)).Sublist (db.rows target.name) := by
    have hrow : sel.row.text = mainRow := hsel.row
    rw [hrow] at horder
    rw [horder]
    exact Contents.sublist_of_found_plain hfound
  -- Ids are unique, so that no row is found twice and a row determines its record.
  have hshared : ∀ m ∈ made, ∀ m' ∈ made, m.1 mainRow = m'.1 mainRow → m.2 = m'.2 := by
    intro m hm m' hm' he
    have hdistinct : (db.rows target.name).Nodup := h.referable.unique.imp fun hid he => hid (congrArg (· "id") he)
    have hnodup := hdistinct.sublist hrows
    rw [List.map_map] at hnodup
    exact congrArg (·.2) (List.inj_on_of_nodup_map hnodup hm hm' he)
  rw [← hlinks] at hfound
  have hstock : Stock db s target relation.link draft.labels filter ids w.store.records.size w₁.store
      (made.map fun m => ⟨m.1 mainRow column.text, m.1 mainRow, m.2⟩) :=
    stock_of_found h.referable hids hperm horder hsel.row hfound hreads hshared
  refine ⟨sel, made.map fun m => ⟨m.1 mainRow column.text, m.1 mainRow, m.2⟩, w₁, hb, ?_, hactions, hgrows, ?_, ?_, hstock⟩
  · rw [List.map_map]
    exact hfetch
  · rwa [List.map_map] at hrows ⊢
  · intro hit hhit
    obtain ⟨m, _, rfl⟩ := List.mem_map.mp hhit
    rfl

end Runs

end Loader

end EntityViews
