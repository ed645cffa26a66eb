import EntityViews.Proofs.Answers

/-!
The statements that relations are loaded with: what they select, and which rows they find. A record that is fetched by one
of them has the id of its row.
-/

namespace EntityViews

open Sql

def Entity.IntegerId (e : Entity) : Prop :=
  e.formula? "id" = none ∧ (∀ c, e.column? "id" = some c → c.type = .scalar (some .int)) ∧ ∀ r ∈ e.relations, r.name ≠ "id"

def Schema.IntegerIds (s : Schema) : Prop := ∀ e ∈ s.entities, e.IntegerId

def ColumnType.isInt : ColumnType → Bool
  | .scalar (some .int) => true
  | _ => false

theorem ColumnType.eq_of_isInt {t : ColumnType} (h : t.isInt = true) : t = .scalar (some .int) := by
  unfold isInt at h
  split at h
  · rfl
  · cases h

def Entity.integerId (e : Entity) : Bool :=
  (e.formula? "id").isNone && (e.column? "id").all (·.type.isInt) && e.relations.all (·.name != "id")

/-- The decidable check of an id says that it is an integer column. -/
theorem Entity.integerId_of_check {e : Entity} (h : e.integerId = true) : e.IntegerId := by
  rw [Entity.integerId, Bool.and_eq_true, Bool.and_eq_true, Option.isNone_iff_eq_none, List.all_eq_true] at h
  obtain ⟨⟨hformula, hcolumn⟩, hrelations⟩ := h
  refine ⟨hformula, ?_, fun r hr => bne_iff_ne.mp (hrelations r hr)⟩
  intro c hc
  rw [hc, Option.all_some] at hcolumn
  exact ColumnType.eq_of_isInt hcolumn

theorem Schema.mem_of_entity? {s : Schema} {name : String} {e : Entity} (h : s.entity? name = some e) : e ∈ s.entities :=
  List.mem_of_find?_eq_some h

/-- A relation that is found has the name, and belongs to an entity of the schema. -/
theorem Schema.mem_of_relation? {s : Schema} {entity name : String} {r : Relation} (h : s.relation? entity name = some r) :
    r.name = name ∧ ∃ e ∈ s.entities, r ∈ e.relations := by
  rw [Schema.relation?, relationOf?, List.findRev?_eq_find?_reverse] at h
  have hname := List.find?_some h
  have hmem := List.mem_of_find?_eq_some h
  rw [List.mem_reverse, relationsOf, List.mem_flatMap] at hmem
  obtain ⟨e, he, hr⟩ := hmem
  exact ⟨by simpa using hname, e, (List.mem_filter.mp he).1, hr⟩

def Contents.field (db : Contents) (e : Entity) (t : Row) (name : String) : Value :=
  match e.formula? name with
  | some f => db.computes f t
  | none => t name

theorem Contents.field_of_column {db : Contents} {e : Entity} {name : String} (h : e.formula? name = none) (t : Row) :
    db.field e t name = t name := by
  rw [Contents.field, h]

theorem Contents.field_of_formula {db : Contents} {e : Entity} {name : String} {f : Formula} (h : e.formula? name = some f)
    (t : Row) : db.field e t name = db.computes f t := by
  rw [Contents.field, h]

namespace Sql.Query

theorem selects_iff {q : Query} {name : String} :
    q.selects name = true ↔ name ∈ q.columns ∨ ∃ f ∈ q.formulas, f.name = name := by
  rw [Query.selects, Bool.or_eq_true, List.contains_iff_mem, List.any_eq_true]
  simp only [beq_iff_eq]

def Widens (q q' : Query) : Prop :=
  ∃ columns formulas, q' = { q with columns := q.columns ++ columns, formulas := q.formulas ++ formulas } ∧
    (∀ c ∈ columns, q.entity.formula? c = none) ∧ ∀ f ∈ formulas, q.entity.formula? f.name = some f

theorem Widens.refl (q : Query) : q.Widens q := by
  refine ⟨[], [], ?_, nofun, nofun⟩
  rw [List.append_nil, List.append_nil]

/-- A selection that was widened twice is wider. -/
theorem Widens.trans {q q' q'' : Query} (h : q.Widens q') (h' : q'.Widens q'') : q.Widens q'' := by
  obtain ⟨columns, formulas, rfl, hc, hf⟩ := h
  obtain ⟨columns', formulas', rfl, hc', hf'⟩ := h'
  refine ⟨columns ++ columns', formulas ++ formulas', ?_, ?_, ?_⟩
  · rw [← List.append_assoc, ← List.append_assoc]
  · intro c hcm
    rcases List.mem_append.mp hcm with hcm | hcm
    · exact hc c hcm
    · exact hc' c hcm
  · intro f hfm
    rcases List.mem_append.mp hfm with hfm | hfm
    · exact hf f hfm
    · exact hf' f hfm

theorem Widens.selects {q q' : Query} (h : q.Widens q') {name : String} (hname : q.selects name = true) :
    q'.selects name = true := by
  obtain ⟨columns, formulas, rfl, _, _⟩ := h
  rw [selects_iff] at hname ⊢
  rcases hname with h | ⟨f, hf, h⟩
  · exact Or.inl (List.mem_append_left _ h)
  · exact Or.inr ⟨f, List.mem_append_left _ hf, h⟩

/-- To select a name widens the selection by it. -/
theorem widens_selectOne {q q' : Query} {name : String} (h : q.selectOne name = .ok q') :
    q.Widens q' ∧ q'.selects name = true := by
  unfold selectOne at h
  split at h
  · cases h
    exact ⟨.refl q, ‹_›⟩
  split at h
  · rename_i f hf
    cases h
    have hname : f.name = name := by simpa using List.find?_some hf
    refine ⟨⟨[], [f], ?_, nofun, ?_⟩, ?_⟩
    · rw [List.append_nil]
    · intro g hg
      rw [List.mem_singleton.mp hg, hname]
      exact hf
    · exact selects_iff.mpr (Or.inr ⟨f, List.mem_append_right _ (List.mem_singleton_self f), hname⟩)
  · rename_i hf
    split at h
    · cases h
      refine ⟨⟨[name], [], ?_, ?_, nofun⟩, ?_⟩
      · rw [List.append_nil]
      · intro c hc
        rw [List.mem_singleton.mp hc]
        exact hf
      · exact selects_iff.mpr (Or.inl (List.mem_append_right _ (List.mem_singleton_self name)))
    · cases h

/-- To select names one after the other widens the selection by each of them. -/
theorem widens_selectEach {q : Query} (names : List String) (h : (q.selectEach names).2 = .ok ⟨⟩) :
    q.Widens (q.selectEach names).1 ∧ ∀ name ∈ names, (q.selectEach names).1.selects name = true := by
  induction names generalizing q with
  | nil => exact ⟨.refl q, nofun⟩
  | cons name rest ih =>
    rw [selectEach] at h ⊢
    cases hq : q.selectOne name with
    | error e =>
      rw [hq] at h
      cases h
    | ok q' =>
      rw [hq] at h
      obtain ⟨hfirst, hname⟩ := widens_selectOne hq
      obtain ⟨hrest, hnames⟩ := ih h
      exact ⟨hfirst.trans hrest, List.forall_mem_cons.mpr ⟨hrest.selects hname, hnames⟩⟩

theorem start_ok {e : Entity} {row : String} {q : Query} (h : Query.start e row = .ok q) :
    ∃ table name, table.text = e.name ∧ name.text = row ∧
      q = ⟨e, table, name, [], [], [], [], [], [], none, none⟩ := by
  obtain ⟨table, ht, h⟩ := Except.bind_ok h
  obtain ⟨name, hr, h⟩ := Except.bind_ok h
  cases h
  exact ⟨table, name, Name.text_of_ofText? ht, Name.text_of_ofText? hr, rfl⟩

structure Sound (q : Query) : Prop where
  columns : ∀ c ∈ q.columns, q.entity.formula? c = none
  formulas : ∀ f ∈ q.formulas, q.entity.formula? f.name = some f
  id : "id" ∈ q.columns

/-- A selection that succeeds widens a query by all its names and leaves it sound. -/
theorem selecting_ok {e : Entity} {row : String} {q q' : Query} {names : List String} (hid : e.formula? "id" = none)
    (hq : Query.start e row = .ok q) (h : q.selecting names = .ok q') :
    q.Widens q' ∧ q'.Sound ∧ ∀ name ∈ names, q'.selects name = true := by
  obtain ⟨table, name, _, _, rfl⟩ := start_ok hq
  rw [selecting] at h
  cases ho : (select ⟨e, table, name, [], [], [], [], [], [], none, none⟩ names).2 with
  | error f =>
    simp only [ho] at h
    cases h
  | ok u =>
    simp only [ho] at h
    cases h
    obtain ⟨hwidens, hnames⟩ := widens_selectEach ("id" :: names) ho
    refine ⟨hwidens, ?_, fun n hn => hnames n (List.mem_cons_of_mem _ hn)⟩
    have hselects := hnames "id" List.mem_cons_self
    rw [select]
    obtain ⟨columns, formulas, he, hcolumns, hformulas⟩ := hwidens
    rw [he] at hselects ⊢
    refine ⟨hcolumns, hformulas, ?_⟩
    -- No formula has the name of the id, so the id was selected as a column.
    rcases selects_iff.mp hselects with h | ⟨f, hf, hname⟩
    · exact h
    · have hsome := hformulas f hf
      rw [hname, hid] at hsome
      cases hsome

/-- The outputs of a query: one for each name that is selected, with the value that the name has in the row. -/
theorem outputs_ok {q : Query} {outputs : List Output} (hq : q.Sound) (h : q.outputs = .ok outputs) :
    (∀ name, q.selects name = true → ∃ o ∈ outputs, o.label = name) ∧ ∀ o ∈ outputs, o ∈ q.extraColumns ∨
      (∀ sql, o ≠ .raw sql) ∧ ∀ (db : Contents) env, db.cell env o = db.field q.entity (env q.row.text) o.label := by
  rw [Query.outputs] at h
  obtain ⟨columns, hcolumns, h⟩ := Except.bind_ok h
  obtain ⟨formulas, hformulas, h⟩ := Except.bind_ok h
  cases h
  obtain ⟨hfrom, hto⟩ := Except.mem_of_mapM_ok hcolumns
  obtain ⟨hfrom', hto'⟩ := Except.mem_of_mapM_ok hformulas
  constructor
  · intro name hname
    rcases selects_iff.mp hname with hc | ⟨f, hf, hn⟩
    · obtain ⟨o, ho, he⟩ := hto name hc
      obtain ⟨n, hn, rfl⟩ := Except.map_ok he
      exact ⟨_, List.mem_append_left _ (List.mem_append_left _ ho), Name.text_of_ofText? hn⟩
    · obtain ⟨o, ho, he⟩ := hto' f hf
      obtain ⟨t, _, he⟩ := Except.bind_ok he
      obtain ⟨n, hlabel, he⟩ := Except.bind_ok he
      cases he
      exact ⟨_, List.mem_append_left _ (List.mem_append_right _ ho),
        (Name.text_of_ofText? hlabel).trans hn⟩
  · intro o ho
    rcases List.mem_append.mp ho with ho | ho
    · refine Or.inr ?_
      rcases List.mem_append.mp ho with ho | ho
      · obtain ⟨c, hc, he⟩ := hfrom o ho
        obtain ⟨n, hn, rfl⟩ := Except.map_ok he
        refine ⟨nofun, ?_⟩
        intro db env
        have hname : n.text = c := Name.text_of_ofText? hn
        exact (Contents.field_of_column (hname ▸ hq.columns c hc) _).symm
      -- A name that a formula has stands for the formula, be there a column of this name or not.
      · obtain ⟨f, hf, he⟩ := hfrom' o ho
        obtain ⟨t, ht, he⟩ := Except.bind_ok he
        obtain ⟨n, hn, he⟩ := Except.bind_ok he
        cases he
        refine ⟨nofun, ?_⟩
        intro db env
        obtain ⟨text, _, rfl⟩ := Except.map_ok ht
        have hname : n.text = f.name := Name.text_of_ofText? hn
        refine (Contents.field_of_formula ?_ _).symm
        rw [Output.label, hname]
        exact hq.formulas f hf
    · exact Or.inl ho

theorem outputs_extra {q : Query} {outputs : List Output} (h : q.outputs = .ok outputs) :
    ∃ front, outputs = front ++ q.extraColumns := by
  rw [Query.outputs] at h
  obtain ⟨columns, _, h⟩ := Except.bind_ok h
  obtain ⟨formulas, _, h⟩ := Except.bind_ok h
  cases h
  exact ⟨columns ++ formulas, rfl⟩

theorem settled_eq {q : Query} (h : "id" ∈ q.columns) : q.settled = q := by
  rw [settled]
  cases hc : q.columns with
  | nil => exact absurd h (hc ▸ List.not_mem_nil)
  | cons c cs => rfl

theorem build_ok {q : Query} {sel : Select} (hq : q.Sound) (h : q.build = .ok sel) :
    ∃ outputs order, q.outputs = .ok outputs ∧
      sel = ⟨q.table, q.rowAlias, q.joins, outputs, q.clauses, order, q.page⟩ := by
  rw [build, settled_eq hq.id] at h
  obtain ⟨outputs, ho, h⟩ := Except.bind_ok h
  obtain ⟨order, _, h⟩ := Except.bind_ok h
  cases h
  exact ⟨outputs, order, ho, rfl⟩

end Sql.Query

/-- An integer id stands in its cell as it is. -/
theorem Entity.ofCell_id {e : Entity} (hid : e.IntegerId) (cell : Value) : e.ofCell (.text "id") cell = .ok cell := by
  obtain ⟨hformula, hcolumn, _⟩ := hid
  rw [Entity.ofCell, Value.asText?_text]
  cases hc : e.column? "id" with
  | none => simp only [hc, hformula]
  | some c =>
    simp only [hc, hcolumn c hc, ColumnType.ofCell]
    split
    · rfl
    · cases ‹ColumnType.scalar (some .int) = .scalar (some _)›
      rfl
    · rfl

theorem Entity.ofCell_congr (e : Entity) {name : String} {key : Value} (h : key.same (.text name) = true) (cell : Value) :
    e.ofCell key cell = e.ofCell (.text name) cell := by
  rw [Value.same_text_iff] at h
  rw [Entity.ofCell, Entity.ofCell, h, Value.asText?_text]

/-- What a field holds is what its column makes of the cell. -/
theorem Entity.lookup?_fieldsOfRow {e : Entity} {name : String} {row fields : List (Value × Value)} {cell : Value}
    (h : e.fieldsOfRow row = .ok fields) (hcell : lookup? (.text name) row = some cell) :
    ∃ v, e.ofCell (.text name) cell = .ok v ∧ lookup? (.text name) fields = some v := by
  induction row generalizing fields with
  | nil => cases hcell
  | cons c rest ih =>
    obtain ⟨key, v⟩ := c
    obtain ⟨field, fields', hfield, hrest, rfl⟩ := Except.mapM_cons_ok h
    obtain ⟨u, hu, rfl⟩ := Except.map_ok hfield
    rw [lookup?_cons] at hcell ⊢
    by_cases hk : key.same (.text name)
    · rw [if_pos hk] at hcell ⊢
      cases hcell
      exact ⟨u, (e.ofCell_congr hk cell).symm.trans hu, rfl⟩
    · rw [if_neg hk] at hcell ⊢
      exact ih hrest hcell

def Store.Shows (s : Store) (id : Nat) (t : Row) : Prop :=
  ∃ before : Store, s.get? id (.text "id") = some (before.load (t "id")).1

/-- A record that was made of a row shows the id of this row. -/
theorem Store.Made.shows {s : Store} {e : Entity} {row : List (Value × Value)} {id : Nat} {t : Row}
    (hid : e.IntegerId) (h : s.Made e row id) (hrow : lookup? (.text "id") row = some (t "id")) : s.Shows id t := by
  obtain ⟨fields, before, hf, he⟩ := h
  obtain ⟨v, hv, hl⟩ := Entity.lookup?_fieldsOfRow hf hrow
  rw [Entity.ofCell_id hid] at hv
  cases hv
  obtain ⟨before', hb⟩ := Store.lookup?_loadEntries (s := before) hl
  refine ⟨before', ?_⟩
  rw [Store.get?, he, hb]

/-- Under a label stands the cell of the outputs that have this label. -/
theorem Contents.lookup?_namedRow {db : Contents} {sel : Select} {env : Env} {name : String} {v : Value}
    (hmem : ∃ o ∈ sel.outputs, o.label = name) (hall : ∀ o ∈ sel.outputs, o.label = name → db.cell env o = v) :
    lookup? (.text name) (db.namedRow sel env) = some v := by
  have hmap : (sel.outputs.map fun o => (Value.text o.label, db.cell env o)) =
      (sel.outputs.map fun o => (o.label, db.cell env o)).map fun x => (Value.text x.1, x.2) := by
    rw [List.map_map]
    rfl
  rw [Contents.namedRow, hmap]
  apply lookup?_collect
  · obtain ⟨o, ho, hl⟩ := hmem
    exact ⟨_, List.mem_map_of_mem ho, hl⟩
  · intro x hx hl
    obtain ⟨o, ho, rfl⟩ := List.mem_map.mp hx
    exact hall o ho hl

namespace Sql.Query

/-- Every row of the answer to a query has under a selected name what the row that the query is about has there. -/
theorem lookup?_build {q : Query} {sel : Select} {name : String} (hq : q.Sound) (hname : q.selects name = true)
    (hextra : ∀ o ∈ q.extraColumns, o.label ≠ name) (h : q.build = .ok sel) (db : Contents) (env : Env) :
    lookup? (.text name) (db.namedRow sel env) = some (db.field q.entity (env q.row.text) name) := by
  obtain ⟨outputs, order, houtputs, rfl⟩ := build_ok hq h
  obtain ⟨hmem, hall⟩ := outputs_ok hq houtputs
  refine Contents.lookup?_namedRow (hmem name hname) ?_
  rintro o ho rfl
  rcases hall o ho with hx | ⟨_, hcell⟩
  · exact absurd rfl (hextra o hx)
  · exact hcell db env

theorem lookup?_id_build {q : Query} {sel : Select} (hq : q.Sound) (hextra : ∀ o ∈ q.extraColumns, o.label ≠ "id")
    (h : q.build = .ok sel) (db : Contents) (env : Env) :
    lookup? (.text "id") (db.namedRow sel env) = some (env q.row.text "id") := by
  have hselects : q.selects "id" = true := selects_iff.mpr (Or.inl hq.id)
  rw [lookup?_build hq hselects hextra h, Contents.field_of_column (hq.columns "id" hq.id)]

/-- A query of labelled columns and keyed joins makes a plain statement. -/
theorem plain_build {q : Query} {sel : Select} (hq : q.Sound)
    (hextra : ∀ o ∈ q.extraColumns, ∃ t n, o = .labelled t n)
    (hjoins : ∀ j ∈ q.joins, ∃ table row column other key, j = .keyed table row column other key)
    (hclauses : ∀ c ∈ q.clauses, ∃ k, c = .condition k) (h : q.build = .ok sel) : sel.plain = true := by
  obtain ⟨outputs, order, houtputs, rfl⟩ := build_ok hq h
  obtain ⟨_, hall⟩ := outputs_ok hq houtputs
  rw [Select.plain]
  simp only [Bool.and_eq_true, List.all_eq_true]
  refine ⟨⟨?_, ?_⟩, ?_⟩
  · intro j hj
    obtain ⟨_, _, _, _, _, rfl⟩ := hjoins j hj
    rfl
  · intro o ho
    rcases hall o ho with hx | ⟨hraw, _⟩
    · obtain ⟨_, _, rfl⟩ := hextra o hx
      rfl
    · cases o with
      | raw sql => exact absurd rfl (hraw sql)
      | term | labelled => rfl
  · intro c hc
    obtain ⟨_, rfl⟩ := hclauses c hc
    rfl

end Sql.Query

namespace Contents

variable {db : Contents}

/-- Joins leave the row of the main table as it is. -/
theorem mem_joined {envs : List Env} {joins : List Join} {row : String} {rows : List Row}
    (hjoins : ∀ j ∈ joins, ∃ table other column key otherKey, j = .keyed table other column key otherKey ∧ other.text ≠ row)
    (henvs : ∀ env ∈ envs, env row ∈ rows) : ∀ env ∈ joins.foldl db.joined envs, env row ∈ rows := by
  induction joins generalizing envs with
  | nil => exact henvs
  | cons j rest ih =>
    refine ih (fun k hk => hjoins k (List.mem_cons_of_mem _ hk)) ?_
    obtain ⟨table, other, column, key, otherKey, rfl, hne⟩ := hjoins j List.mem_cons_self
    intro env henv
    rw [Contents.joined, List.mem_flatMap] at henv
    obtain ⟨env₀, h₀, henv⟩ := henv
    obtain ⟨r, _, rfl⟩ := List.mem_map.mp (List.mem_filter.mp henv).1
    have hrow : env₀.bind other r row = env₀ row := if_neg (Ne.symm hne)
    rw [hrow]
    exact henvs env₀ h₀

/-- What a statement finds is made from rows of its table for which its clauses hold. -/
theorem mem_found {q : Select} {env : Env}
    (hjoins : ∀ j ∈ q.joins, ∃ table other column key otherKey, j = .keyed table other column key otherKey ∧
      other.text ≠ q.row.text)
    (h : env ∈ db.found q) : env q.row.text ∈ db.rows q.table.text ∧ q.clauses.all (db.clauseHolds env) = true := by
  rw [found] at h
  obtain ⟨henv, hclauses⟩ := List.mem_filter.mp h
  refine ⟨mem_joined hjoins ?_ env henv, hclauses⟩
  intro env₀ h₀
  obtain ⟨r, hr, rfl⟩ := List.mem_map.mp h₀
  rw [Env.bind_self]
  exact hr

end Contents

end EntityViews
