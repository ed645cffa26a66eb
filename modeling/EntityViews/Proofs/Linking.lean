import EntityViews.Proofs.Attachment

/-!
Loads of relations to many. Main statement: such a load attaches to a record just the rows that are linked to its id and
that the filter lets through, none besides and none left out.
-/

namespace EntityViews

open Sql

namespace Store

mutual

/-- What a value comes to as a key does not depend on the records that there are. -/
theorem key?_load (s t : Store) : (v : Value) → (s.load v).1.key? = (t.load v).1.key?
  | .scalar _ => rfl
  | .list _ | .set _ | .map _ => rfl
  | .tuple items => congrArg (Option.map Value.tuple) (keys?_loadItems s t items)

/-- The keys of loaded items do not depend on the store they are loaded into. -/
theorem keys?_loadItems (s t : Store) : (items : List Value) →
    Node.keys? (s.loadItems items).1 = Node.keys? (t.loadItems items).1
  | [] => rfl
  | item :: rest => by
    have hitem := key?_load s t item
    have hrest := keys?_loadItems (s.load item).2 (t.load item).2 rest
    rw [loadItems, loadItems]
    simp only [Node.keys?, hitem, hrest]

end

end Store

theorem Node.key_eq_ok_iff {n : Node} {k : Value} : n.key = .ok k ↔ n.key? = some k := by
  rw [Node.key]
  cases n.key? <;> simp

def Value.keyOf? (v : Value) : Option Value := (Store.empty.load v).1.key?

def Contents.keyIn (db : Contents) (e : Entity) (t : Row) (name : String) : Option Value :=
  match e.ofCell (.text name) (db.field e t name) with
  | .ok v => v.keyOf?
  | .error _ => none

/-- The key that a made record has is the value in its row. -/
theorem Store.Made.keyIn_eq {db : Contents} {s : Store} {e : Entity} {row : List (Value × Value)} {id : Nat} {t : Row}
    {name : String} {k : Value} (h : s.Made e row id) (hrow : lookup? (.text name) row = some (db.field e t name))
    (hk : s.keyAt id name = .ok k) : db.keyIn e t name = some k := by
  obtain ⟨fields, before, hf, he⟩ := h
  obtain ⟨v, hv, hl⟩ := Entity.lookup?_fieldsOfRow hf hrow
  obtain ⟨before', hb⟩ := Store.lookup?_loadEntries (s := before) hl
  have hget : s.get? id (.text name) = some (before'.load v).1 := by
    rw [Store.get?, he, hb]
  rw [Store.keyAt, hget] at hk
  rw [Contents.keyIn, hv]
  exact (Store.key?_load _ _ v).trans (Node.key_eq_ok_iff.mp hk)

def Row.SameId (t u : Row) : Prop := t "id" = u "id" ∨ (t "id").same (u "id") = true

def Store.ShowsId (s : Store) (id : Nat) (t : Row) : Prop :=
  -- It may have been made for another row of this id.
  ∃ u : Row, s.Shows id u ∧ u.SameId t

namespace Contents

variable (db : Contents)

def Linked (target : Entity) (link : Link) (ids : List Value) (v : Value) (t : Row) : Prop :=
  match link with
  | .oneToMany key => db.member (t key) ids = .holds ∧ ∃ k, db.keyIn target t key = some k ∧ k.same v = true
  | .manyToMany table sourceKey targetKey => ∃ j ∈ db.rows table, db.Joins (j targetKey) (t "id") ∧
    db.member (j sourceKey) ids = .holds ∧ (j sourceKey).same v = true
  | .manyToOne _ | .oneToOne _ | .oneToOneInverse _ => False

variable {db}

theorem member_mono {a : Value} {ids ids' : List Value} (h : db.member a ids = .holds) (hids : ∀ k ∈ ids, k ∈ ids') :
    db.member a ids' = .holds := by
  obtain ⟨k, hk, hj⟩ := (db.member_eq_holds).mp h
  exact (db.member_eq_holds).mpr ⟨k, hids k hk, hj⟩

theorem Linked.mono {target : Entity} {link : Link} {ids ids' : List Value} {v : Value} {t : Row}
    (h : db.Linked target link ids v t) (hids : ∀ k ∈ ids, k ∈ ids') : db.Linked target link ids' v t := by
  cases link with
  | oneToMany key => exact ⟨member_mono h.1 hids, h.2⟩
  | manyToMany table sourceKey targetKey =>
    obtain ⟨j, hj, hjoin, hmember, hsame⟩ := h
    exact ⟨j, hj, hjoin, member_mono hmember hids, hsame⟩
  | manyToOne | oneToOne | oneToOneInverse => exact h.elim

theorem Linked.isEmpty_eq {target : Entity} {link : Link} {ids : List Value} {v : Value} {t : Row}
    (h : db.Linked target link ids v t) : ids.isEmpty = false := by
  have hmember : ∃ a, db.member a ids = .holds := by
    cases link with
    | oneToMany key => exact ⟨_, h.1⟩
    | manyToMany table sourceKey targetKey =>
      obtain ⟨j, _, _, hmember, _⟩ := h
      exact ⟨_, hmember⟩
    | manyToOne | oneToOne | oneToOneInverse => exact h.elim
  obtain ⟨a, ha⟩ := hmember
  obtain ⟨k, hk, _⟩ := (db.member_eq_holds).mp ha
  rw [List.isEmpty_eq_false_iff]
  exact List.ne_nil_of_mem hk

/-- Without joins a query finds the rows of its table that meet all clauses. -/
theorem mem_found_iff {q : Select} {env : Env} (hjoins : q.joins = []) : env ∈ db.found q ↔
    ∃ t ∈ db.rows q.table.text, env = Env.bind (fun _ _ => .null) q.row t ∧ q.clauses.all (db.clauseHolds env) = true := by
  rw [found, hjoins, List.foldl_nil, List.mem_filter, List.mem_map]
  constructor
  · rintro ⟨⟨t, ht, rfl⟩, hc⟩
    exact ⟨t, ht, rfl, hc⟩
  · rintro ⟨t, ht, rfl, hc⟩
    exact ⟨⟨t, ht, rfl⟩, hc⟩

/-- With one join it finds the pairs of rows that the join relates and that meet all clauses. -/
theorem mem_found_joined_iff {q : Select} {env : Env} {table column otherColumn : Name} {row other : Alias}
    (hjoins : q.joins = [.keyed table row column other otherColumn]) : env ∈ db.found q ↔
    ∃ t ∈ db.rows q.table.text, ∃ j ∈ db.rows table.text, env = (Env.bind (fun _ _ => .null) q.row t).bind row j ∧
      db.Joins (env row.text column.text) (env other.text otherColumn.text) ∧
      q.clauses.all (db.clauseHolds env) = true := by
  rw [found, hjoins, List.foldl_cons, List.foldl_nil, joined, List.mem_filter, List.mem_flatMap]
  constructor
  · rintro ⟨⟨env₀, h₀, henv⟩, hc⟩
    obtain ⟨t, ht, rfl⟩ := List.mem_map.mp h₀
    obtain ⟨hmap, hjoin⟩ := List.mem_filter.mp henv
    obtain ⟨j, hj, rfl⟩ := List.mem_map.mp hmap
    rw [decide_eq_true_eq] at hjoin
    exact ⟨t, ht, j, hj, rfl, hjoin, hc⟩
  · rintro ⟨t, ht, j, hj, rfl, hjoin, hc⟩
    refine ⟨⟨_, List.mem_map.mpr ⟨t, ht, rfl⟩, ?_⟩, hc⟩
    refine List.mem_filter.mpr ⟨List.mem_map.mpr ⟨j, hj, rfl⟩, ?_⟩
    rw [decide_eq_true_eq]
    exact hjoin

end Contents

namespace Loader

variable {δ : Type} {db : Contents} {s : Schema} {target : Entity} {filter : Value} {w w' : World δ}
  {made : List (Env × Nat)} {source : Env × Nat → Value}

/-- Whether records in groups by their sources are just the rows that are linked to these and that a filter lets through. -/
structure Grouped (db : Contents) (s : Schema) (target : Entity) (link : Link) (filter : Value) (ids : List Value)
    (store : Store) (made : List (Env × Nat)) (source : Env × Nat → Value) : Prop where
  linked : ∀ m ∈ made, ∀ v, (source m).same v = true → ∃ t ∈ db.rows target.name, db.Linked target link ids v t ∧
    db.Meets s target.name t filter ∧ store.ShowsId m.2 t
  bounded : ∀ m ∈ made, m.2 < store.records.size
  complete : ∀ t ∈ db.rows target.name, ∀ v, db.Linked target link ids v t →
    Filter.truth db s target.name t filter = .holds → ∃ m ∈ made, (source m).same v = true ∧ store.ShowsId m.2 t

theorem grouped_nil {link : Link} {ids : List Value} {store : Store} (h : ids.isEmpty = true) :
    Grouped db s target link filter ids store [] source := by
  refine ⟨nofun, nofun, ?_⟩
  intro t _ v hlinked _
  exact absurd (h.symm.trans hlinked.isEmpty_eq) nofun

theorem Ready.built {q : Query} {sel : Select} (hq : Ready target q) (h : q.build = .ok sel) :
    sel.table.text = target.name ∧ sel.row.text = mainRow ∧ sel.joins = q.joins ∧ sel.clauses = q.clauses := by
  obtain ⟨outputs, order, _, rfl⟩ := hq.build_ok h
  exact ⟨hq.table, hq.row, rfl, rfl⟩

theorem clauseHolds_among {env : Env} {row : Alias} {column : Name} {values : List Value} :
    db.clauseHolds env (among row column values) = true ↔ db.member (env row.text column.text) values = .holds := by
  rw [among, Contents.clauseHolds, decide_eq_true_eq, Contents.truth]
  exact Iff.rfl

def rowEnv (t : Row) : Env := fun name => if name = mainRow then t else fun _ => .null

theorem rowEnv_main (t : Row) : rowEnv t mainRow = t := if_pos rfl

theorem rowEnv_joined_main (t j : Row) : (rowEnv t).bind joinRow j mainRow = t := by
  have hne : mainRow ≠ joinRow.text := by decide
  rw [Env.bind, if_neg hne, rowEnv_main]

theorem bind_eq_rowEnv {row : Alias} (h : row.text = mainRow) (t : Row) :
    Env.bind (fun _ _ => .null) row t = rowEnv t := by
  funext name
  rw [Env.bind, rowEnv, h]

/-- What a statement without joins finds that asks for some keys besides its filter. -/
theorem mem_found_plain {fields : Option (List String)} {name : Name} {q q₀ : Query} {clauses : List Clause}
    {sorts : List SortKey} {ids : List Value} {sel : Select} (hid : target.IntegerId)
    (hq₀ : selected target fields = .ok q₀)
    (hq : q = { q₀ with clauses := clauses ++ [among q₀.rowAlias name ids], sorts := sorts })
    (hr : db.Restricts s target.name filter clauses) (hb : q.build = .ok sel) (env : Env) :
    env ∈ db.found sel ↔ ∃ t ∈ db.rows target.name, env = rowEnv t ∧ clauses.all (db.clauseHolds env) = true ∧
      db.member (t name.text) ids = .holds := by
  have hsel := selected_ok hid hq₀
  have hready : Ready target q := ready_of_plain hid hq₀ hq hr (plain_among _ _ _)
  obtain ⟨htable, hrow, hjoins, hsame⟩ := hready.built hb
  have hnone : q.joins = [] := by
    rw [hq]
    exact hsel.joins
  have hclauses : ∀ t, sel.clauses.all (db.clauseHolds (rowEnv t)) = true ↔
      clauses.all (db.clauseHolds (rowEnv t)) = true ∧ db.member (t name.text) ids = .holds := by
    intro t
    have hmain : rowEnv t q₀.rowAlias.text = t := by
      rw [Query.rowAlias, hsel.row]
      exact rowEnv_main t
    rw [hsame, hq]
    change (clauses ++ [among q₀.rowAlias name ids]).all _ = true ↔ _
    rw [List.all_append, Bool.and_eq_true, List.all_cons, List.all_nil, Bool.and_true, clauseHolds_among, hmain]
  simp only [Contents.mem_found_iff (hjoins.trans hnone), bind_eq_rowEnv hrow, htable]
  constructor
  · rintro ⟨t, ht, rfl, hall⟩
    exact ⟨t, ht, rfl, (hclauses t).mp hall⟩
  · rintro ⟨t, ht, rfl, hall⟩
    exact ⟨t, ht, rfl, (hclauses t).mpr hall⟩

theorem mem_found_their {relation : Relation} {fields : Option (List String)} {key : String} {name : Name} {q₀ : Query}
    {clauses : List Clause} {ids : List Value} {sel : Select} (hid : target.IntegerId)
    (hq₀ : selected target fields = .ok q₀) (hname : name.text = key) (hr : db.Restricts s target.name filter clauses)
    (hb : (theirQuery relation q₀ clauses name ids).build = .ok sel) (env : Env) :
    env ∈ db.found sel ↔ ∃ t ∈ db.rows target.name, env = rowEnv t ∧ clauses.all (db.clauseHolds env) = true ∧
      db.member (t key) ids = .holds := by
  rw [← hname]
  exact mem_found_plain hid hq₀ rfl hr hb env

/-- The key that a record is grouped by was read from its row, as the load selects the key along with the fields. -/
theorem keyIn_their {relation : Relation} {fields : List String} {key : String} {name : Name} {q₀ : Query}
    {clauses : List Clause} {ids : List Value} {sel : Select} {store : Store} {m : Env × Nat} {v : Value}
    (hid : target.IntegerId) (hq₀ : selected target (some (fields ++ [key])) = .ok q₀)
    (hr : db.Restricts s target.name filter clauses) (hb : (theirQuery relation q₀ clauses name ids).build = .ok sel)
    (hmade : store.Made target (db.namedRow sel m.1) m.2) (hv : store.keyAt m.2 key = .ok v) :
    db.keyIn target (m.1 mainRow) key = some v := by
  have hsel := selected_ok hid hq₀
  have hready : Ready target (theirQuery relation q₀ clauses name ids) := ready_theirQuery hid hq₀ hr
  have hselects : (theirQuery relation q₀ clauses name ids).selects key = true := by
    refine hsel.names key ?_
    rw [Entity.selection, mem_distinct]
    simp
  refine hmade.keyIn_eq ?_ hv
  have hlookup := Query.lookup?_build hready.sound hselects ?_ hb db m.1
  · rwa [hready.entity, hready.row] at hlookup
  · intro o ho
    change o ∈ q₀.extraColumns at ho
    rw [hsel.extra] at ho
    exact absurd ho List.not_mem_nil

/-- Rows that are found by their own key are grouped by it. -/
theorem grouped_their {relation : Relation} {fields : List String} {key : String} {name : Name} {q₀ : Query}
    {clauses : List Clause} {ids : List Value} {sel : Select} {before store : Store} (hid : target.IntegerId)
    (hq₀ : selected target (some (fields ++ [key])) = .ok q₀) (hname : Name.make? key = .ok name)
    (hr : db.Restricts s target.name filter clauses) (hb : (theirQuery relation q₀ clauses name ids).build = .ok sel)
    (hfound : (made.map (·.1)).Perm (db.found sel)) (hfresh : ∀ m ∈ made, before.New store m.2)
    (hmade : ∀ m ∈ made, store.Made target (db.namedRow sel m.1) m.2)
    (hsource : ∀ m ∈ made, store.keyAt m.2 key = .ok (source m)) :
    Grouped db s target (.oneToMany key) filter ids store made source := by
  have hready : Ready target (theirQuery relation q₀ clauses name ids) := ready_theirQuery hid hq₀ hr
  have hkey : ∀ m ∈ made, db.keyIn target (m.1 mainRow) key = some (source m) :=
    fun m hm => keyIn_their hid hq₀ hr hb (hmade m hm) (hsource m hm)
  have hshows : ∀ m ∈ made, m.1 ∈ db.found sel → store.ShowsId m.2 (m.1 mainRow) := by
    intro m hm henv
    exact ⟨m.1 mainRow, (hmade m hm).shows hid (hready.found hb henv).2.2, Or.inl rfl⟩
  have hfinds := mem_found_their hid hq₀ (Name.text_of_ofText? hname) hr hb
  refine ⟨?_, fun m hm => (hfresh m hm).2, ?_⟩
  · intro m hm v hv
    have henv : m.1 ∈ db.found sel := hfound.mem_iff.mp (List.mem_map_of_mem hm)
    obtain ⟨t, ht, he, hall, hmember⟩ := (hfinds m.1).mp henv
    have hrow : m.1 mainRow = t := by
      rw [he]
      exact rowEnv_main t
    exact ⟨t, ht, ⟨hmember, source m, hrow ▸ hkey m hm, hv⟩, hrow ▸ hr.meets m.1 hall, hrow ▸ hshows m hm henv⟩
  · rintro t ht v ⟨hmember, k, hk, hv⟩ htruth
    -- A row that is linked and meets the filter is found, so that a record was made for it.
    have henv : rowEnv t ∈ db.found sel := by
      rw [← rowEnv_main t] at htruth
      exact (hfinds _).mpr ⟨t, ht, rfl, hr.holds _ htruth, hmember⟩
    obtain ⟨m, hm, he⟩ := List.mem_map.mp (hfound.mem_iff.mpr henv)
    have hrow : m.1 mainRow = t := by
      rw [he]
      exact rowEnv_main t
    have hsame : k = source m := Option.some.inj (hk.symm.trans (hrow ▸ hkey m hm))
    exact ⟨m, hm, hsame ▸ hv, hrow ▸ hshows m hm (he ▸ henv)⟩

/-- The label of the source holds the key of the join row. -/
theorem sourceOf_namedRow {q : Query} {sel : Select} {source : Name} (hq : q.Sound)
    (hextra : q.extraColumns = [.labelled (.column joinRow source) sourceLabel]) (hb : q.build = .ok sel) (env : Env) :
    sourceOf (db.namedRow sel env) = env joinRow.text source.text := by
  obtain ⟨front, hfront⟩ : ∃ front, sel.outputs = front ++ q.extraColumns := by
    obtain ⟨outputs, order, houtputs, rfl⟩ := Query.build_ok hq hb
    exact Query.outputs_extra houtputs
  have hlast : lookup? (.text sourceLabel.text) (db.namedRow sel env) = some (env joinRow.text source.text) := by
    rw [Contents.namedRow, hfront, hextra, List.map_append, List.map_cons, List.map_nil]
    exact lookup?_collect_concat (Value.same_texts.mpr rfl) _
  rw [sourceOf, hlast, Option.getD_some]

/-- Rows behind a table are found where a link of the table leads from one of the keys to the id of the row. -/
theorem mem_found_through {relation : Relation} {fields : Option (List String)} {table sourceKey targetKey : String}
    {sourceName tableName column : Name} {q₀ : Query} {clauses : List Clause} {ids : List Value} {sel : Select}
    (hid : target.IntegerId) (hq₀ : selected target fields = .ok q₀) (hsource : sourceName.text = sourceKey)
    (htable : tableName.text = table) (hcolumn : column.text = targetKey)
    (hr : db.Restricts s target.name filter clauses)
    (hb : (throughQuery relation q₀ clauses sourceName tableName column ids).build = .ok sel) (env : Env) :
    env ∈ db.found sel ↔ ∃ t ∈ db.rows target.name, ∃ j ∈ db.rows table, env = (rowEnv t).bind joinRow j ∧
      db.Joins (j targetKey) (t "id") ∧ clauses.all (db.clauseHolds env) = true ∧
      db.member (j sourceKey) ids = .holds := by
  have hsel := selected_ok hid hq₀
  have hready : Ready target (throughQuery relation q₀ clauses sourceName tableName column ids) :=
    ready_throughQuery hid hq₀ hr
  obtain ⟨hmain, hrow, hjoins, hsame⟩ := hready.built hb
  have hclauses : ∀ env, sel.clauses.all (db.clauseHolds env) = true ↔
      clauses.all (db.clauseHolds env) = true ∧ db.member (env joinRow.text sourceKey) ids = .holds := by
    intro env
    rw [hsame]
    change (clauses ++ [among joinRow sourceName ids]).all (db.clauseHolds env) = true ↔ _
    rw [List.all_append, Bool.and_eq_true, List.all_cons, List.all_nil, Bool.and_true, clauseHolds_among, hsource]
  have hrow₀ : q₀.rowAlias.text = mainRow := hsel.row
  have hjoin : sel.joins = [.keyed tableName joinRow column q₀.rowAlias .id] := by
    rw [hjoins]
    change q₀.joins ++ [_] = _
    rw [hsel.joins, List.nil_append]
  simp only [Contents.mem_found_joined_iff hjoin, bind_eq_rowEnv hrow, hmain, htable, hcolumn, hrow₀, hclauses]
  constructor
  · rintro ⟨t, ht, j, hj, rfl, hjoined, hall⟩
    rw [Env.bind_self] at hjoined hall
    rw [rowEnv_joined_main] at hjoined
    exact ⟨t, ht, j, hj, rfl, hjoined, hall⟩
  · rintro ⟨t, ht, j, hj, rfl, hjoined, hall⟩
    refine ⟨t, ht, j, hj, rfl, ?_, ?_⟩
    · rw [Env.bind_self, rowEnv_joined_main]
      exact hjoined
    · rw [Env.bind_self]
      exact hall

/-- Rows behind a table are grouped by the keys that link to them. -/
theorem grouped_through {relation : Relation} {fields : Option (List String)} {table sourceKey targetKey : String}
    {sourceName tableName column : Name} {q₀ : Query} {clauses : List Clause} {ids : List Value} {sel : Select}
    {before store : Store} (hid : target.IntegerId) (hq₀ : selected target fields = .ok q₀)
    (hsource : Name.make? sourceKey = .ok sourceName) (htable : Name.make? table = .ok tableName)
    (hcolumn : Name.make? targetKey = .ok column) (hr : db.Restricts s target.name filter clauses)
    (hb : (throughQuery relation q₀ clauses sourceName tableName column ids).build = .ok sel)
    (hmade : Made db target sel (fun env => targetRow (db.namedRow sel env)) before store made)
    (hgroups : ∀ m, source m = sourceOf (db.namedRow sel m.1)) :
    Grouped db s target (.manyToMany table sourceKey targetKey) filter ids store made source := by
  have hsel := selected_ok hid hq₀
  have hready : Ready target (throughQuery relation q₀ clauses sourceName tableName column ids) :=
    ready_throughQuery hid hq₀ hr
  have hkey : ∀ m, source m = m.1 joinRow.text sourceKey := by
    intro m
    rw [hgroups, sourceOf_namedRow hready.sound ?_ hb, Name.text_of_ofText? hsource]
    change q₀.extraColumns ++ [_] = _
    rw [hsel.extra, List.nil_append]
  -- A target that is linked to several sources has one record, made for the first row of the answer with its id.
  have hshows : ∀ m ∈ made, store.ShowsId m.2 (m.1 mainRow) := by
    intro m hm
    obtain ⟨m', hm', hrow, hsame⟩ := hmade.rows m hm
    have henv : m'.1 ∈ db.found sel := hmade.found.mem_iff.mp (List.mem_map_of_mem hm')
    refine ⟨m'.1 mainRow, hrow.shows hid ((lookup?_targetRow _).trans (hready.found hb henv).2.2), ?_⟩
    rcases hsame with he | hs
    · rw [he]
      exact Or.inl rfl
    · exact Or.inr hs
  have hfinds := mem_found_through hid hq₀ (Name.text_of_ofText? hsource) (Name.text_of_ofText? htable)
    (Name.text_of_ofText? hcolumn) hr hb
  refine ⟨?_, fun m hm => (hmade.fresh m hm).2, ?_⟩
  · intro m hm v hv
    have henv : m.1 ∈ db.found sel := hmade.found.mem_iff.mp (List.mem_map_of_mem hm)
    obtain ⟨t, ht, j, hj, he, hjoined, hall, hmember⟩ := (hfinds m.1).mp henv
    have hrow : m.1 mainRow = t := by
      rw [he]
      exact rowEnv_joined_main t j
    rw [hkey, he, Env.bind_self] at hv
    exact ⟨t, ht, ⟨j, hj, hjoined, hmember, hv⟩, hrow ▸ hr.meets m.1 hall, hrow ▸ hshows m hm⟩
  · rintro t ht v ⟨j, hj, hjoined, hmember, hv⟩ htruth
    have henv : (rowEnv t).bind joinRow j ∈ db.found sel := by
      rw [← rowEnv_joined_main t j] at htruth
      exact (hfinds _).mpr ⟨t, ht, j, hj, rfl, hjoined, hr.holds _ htruth, hmember⟩
    obtain ⟨m, hm, he⟩ := List.mem_map.mp (hmade.found.mem_iff.mpr henv)
    have hrow : m.1 mainRow = t := by
      rw [he]
      exact rowEnv_joined_main t j
    refine ⟨m, hm, ?_, hrow ▸ hshows m hm⟩
    rw [hkey, he, Env.bind_self]
    exact hv

/-- A loop attaches to a record what there is for the key that it had before the load. -/
theorem attached_of_loop {w₁ : World δ} {records : List Node} {key name : String} {f : Value → Node} (hname : key ≠ name)
    (hgrows : w.store.Grows w₁.store)
    (h : Gives (records.forM fun r => do Run.setField r name (f (← keyOf r key))) w₁ ⟨⟩ w') {i : Nat}
    (hi : .record i ∈ records) (hlt : i < w.store.records.size) :
    ∃ v, w.store.keyAt i key = .ok v ∧ w'.store.get? i (.text name) = some (f v) := by
  obtain ⟨_, _, _, hall⟩ := attach_gives h
  obtain ⟨v, hget, hkey⟩ := hall i hi (Nat.lt_of_lt_of_le hlt hgrows.1)
  have hkeeps : w.store.Keeps (fun _ _ => False) w₁.store := hgrows.keeps
  have hsame : w₁.store.keyAt i key = w.store.keyAt i key := Store.keyAt_congr (hkeeps.2 i hlt key id)
  exact ⟨v, hsame.symm.trans (hkey hname), hget⟩

/-- After a loop of assignments each record leads to the records that are grouped under its key. -/
theorem leadsTo_of_loop {w₁ : World δ} {records : List Node} {name : String} {made : List (Env × Nat)}
    {source : Env × Nat → Value} (hname : name ≠ "id") (hgrows : w.store.Grows w₁.store)
    (h : Gives (records.forM fun r => do
      Run.setField r name (.list ((lookup? (← keyOf r "id")
        (groupsOf (made.map fun m => (source m, Node.record m.2)))).getD []))) w₁ ⟨⟩ w')
    {i : Nat} {v : Value} (hi : .record i ∈ records) (hlt : i < w.store.records.size)
    (hv : w.store.keyAt i "id" = .ok v) (x : Nat) :
    w'.store.LeadsTo i name x ↔ ∃ m ∈ made, m.2 = x ∧ (source m).same v = true := by
  obtain ⟨u, hu, hget⟩ := attached_of_loop hname.symm hgrows h hi hlt
  obtain rfl := Except.ok.inj (hu.symm.trans hv)
  rw [lookup?_groupsOf] at hget
  constructor
  · rintro ⟨n, hn, hleads⟩
    cases hget.symm.trans hn
    rcases hleads with he | ⟨items, he, hmem⟩
    · cases he
    · cases he
      obtain ⟨p, hp, hx⟩ := List.mem_map.mp hmem
      obtain ⟨hp, hs⟩ := List.mem_filter.mp hp
      obtain ⟨m, hm, rfl⟩ := List.mem_map.mp hp
      exact ⟨m, hm, Node.record.inj hx, hs⟩
  · rintro ⟨m, hm, rfl, hs⟩
    refine ⟨_, hget, Or.inr ⟨_, rfl, List.mem_map.mpr ⟨(source m, .record m.2), ?_, rfl⟩⟩⟩
    exact List.mem_filter.mpr ⟨List.mem_map.mpr ⟨m, hm, rfl⟩, hs⟩

end Loader

def Store.idsOf (s : Store) (records : List Node) : List Value :=
  distinctKeys (records.filterMap (Loader.ownKey? s "id"))

namespace Loader

variable {δ : Type} [Engine δ] {db : Contents} {s : Schema} {filter : Value} {w w' : World δ}

/-- Both kinds of relations to many end in the same loop, over groups of records by the ids of their sources. -/
theorem load_grouped (ideal : Ideal δ db) {entity name : String} {records out : List Node} {fields : List String}
    {relation : Relation} {target : Entity} (hr : s.relation? entity name = some relation)
    (ht : s.entity? relation.target = some target) (hid : target.IntegerId) (hmany : relation.link.isToOne = false)
    (h : Gives (load s entity records name (some fields) filter) w out w') :
    ∃ (w₁ : World δ) (made : List (Env × Nat)) (source : Env × Nat → Value), w.store.Grows w₁.store ∧
      Grouped db s target relation.link filter (w.store.idsOf records) w₁.store made source ∧
      Gives (records.forM fun r => do
        Run.setField r name (.list ((lookup? (← keyOf r "id")
          (groupsOf (made.map fun m => (source m, Node.record m.2)))).getD []))) w₁ ⟨⟩ w' := by
  obtain ⟨_, hand, w₁, hhand, hattach, _⟩ := (load_iff hr ht).mp h
  obtain ⟨rfl, _⟩ := Schema.mem_of_relation? hr
  rcases inHand_gives hhand with ⟨key, related, hlink, _, _⟩ | ⟨key, rows, groups, hlink, hrows, hgroups, rfl⟩ |
    ⟨table, sourceKey, targetKey, found, hlink, hfound, rfl⟩
  -- A key of the source leads to one row, which leaves the two kinds that have their groups of records.
  · rcases hlink with hl | hl <;> rw [hl] at hmany <;> cases hmany
  · have hlink : relation.link = .oneToMany key := by
      rcases hlink with hl | hl
      · exact hl
      · rw [hl] at hmany
        cases hmany
    obtain ⟨made, source, rfl, hgrows, hmade, hnone, hsome⟩ := theirRows_made ideal hid hrows hgroups
    simp only [theirItems, hlink, Link.ownKey] at hattach hnone hsome
    refine ⟨w₁, made, source, hgrows, ?_, hattach⟩
    rw [hlink]
    cases hempty : (w.store.idsOf records).isEmpty with
    | true =>
      rw [hnone hempty]
      exact grouped_nil hempty
    | false =>
      obtain ⟨q₀, clauses, column, sel, hq₀, hcolumn, hrestricts, hb, hfound, hrows⟩ := hsome hempty
      exact grouped_their hid hq₀ hcolumn hrestricts hb hfound (fun m hm => (hmade m hm).1.1) hrows
        fun m hm => (hmade m hm).2
  · obtain ⟨made, source, hgroups, hgrows, _, hnone, hsome⟩ := throughRows_made ideal hid hfound
    simp only [hgroups, hlink, Link.ownKey] at hattach hnone hsome
    refine ⟨w₁, made, source, hgrows, ?_, hattach⟩
    rw [hlink]
    cases hempty : (w.store.idsOf records).isEmpty with
    | true =>
      rw [hnone hempty]
      exact grouped_nil hempty
    | false =>
      obtain ⟨q₀, clauses, sourceName, tableName, column, sel, hq₀, hsource, htable, hcolumn, hrestricts, hb, hmade,
        hgroups⟩ := hsome hempty
      exact grouped_through hid hq₀ hsource htable hcolumn hrestricts hb hmade hgroups

/-- A load of a relation to many attaches to a record just the rows that are linked to its id and that the filter lets
through. -/
theorem load_exact (ideal : Ideal δ db) (ids : s.IntegerIds) {entity name : String} {records out : List Node}
    {fields : List String} {relation : Relation} {target : Entity} (hr : s.relation? entity name = some relation)
    (ht : s.entity? relation.target = some target) (hmany : relation.link.isToOne = false)
    (h : Gives (load s entity records name (some fields) filter) w out w') {i : Nat} {v : Value}
    (hi : .record i ∈ records) (hlt : i < w.store.records.size) (hv : w.store.keyAt i "id" = .ok v) :
    (∀ x, w'.store.LeadsTo i name x → x < w'.store.records.size ∧ ∃ t ∈ db.rows target.name,
      db.Linked target relation.link (w.store.idsOf records) v t ∧ db.Meets s target.name t filter ∧
      w'.store.ShowsId x t) ∧
    ∀ t ∈ db.rows target.name, db.Linked target relation.link (w.store.idsOf records) v t →
      Filter.truth db s target.name t filter = .holds →
      ∃ x, w'.store.LeadsTo i name x ∧ x < w'.store.records.size ∧ w'.store.ShowsId x t := by
  obtain ⟨rfl, e, he, hmem⟩ := Schema.mem_of_relation? hr
  have hname : relation.name ≠ "id" := (ids e he).2.2 relation hmem
  have hid : target.IntegerId := ids target (Schema.mem_of_entity? ht)
  obtain ⟨w₁, made, source, hgrows, hgrouped, hattach⟩ := load_grouped ideal hr ht hid hmany h
  have hleads := leadsTo_of_loop hname hgrows hattach hi hlt hv
  obtain ⟨hkeeps, hsize, _, _⟩ := attach_gives hattach
  -- The loop sets the name of a relation, which is not the id.
  have hshows : ∀ m ∈ made, ∀ t, w₁.store.ShowsId m.2 t → w'.store.ShowsId m.2 t := by
    rintro m hm t ⟨u, ⟨before, hu⟩, hs⟩
    refine ⟨u, ⟨before, ?_⟩, hs⟩
    rw [hkeeps.2 m.2 (hgrouped.bounded m hm) "id" fun ht => hname ht.1.symm]
    exact hu
  constructor
  · intro x hx
    obtain ⟨m, hm, rfl, hsame⟩ := (hleads x).mp hx
    obtain ⟨t, htable, hlinked, hmeets, hshow⟩ := hgrouped.linked m hm v hsame
    exact ⟨hsize ▸ hgrouped.bounded m hm, t, htable, hlinked, hmeets, hshows m hm t hshow⟩
  · intro t htable hlinked htruth
    obtain ⟨m, hm, hsame, hshow⟩ := hgrouped.complete t htable v hlinked htruth
    exact ⟨m.2, (hleads m.2).mpr ⟨m, hm, rfl, hsame⟩, hsize ▸ hgrouped.bounded m hm, hshows m hm t hshow⟩

end Loader

end EntityViews
