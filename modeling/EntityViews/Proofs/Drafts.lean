import EntityViews.Proofs.Columns
import EntityViews.Proofs.Linkage

/-!
What the statements that relations are loaded with have in common: a statement without filter, keys and join, of which they
are made, and the record that it makes of a row.
-/

namespace EntityViews

open Sql

namespace Link

def names : Link → List String
  | manyToOne _ | oneToOne _ => []
  | oneToOneInverse key | oneToMany key => [key]
  | manyToMany table sourceKey targetKey => [table, sourceKey, targetKey]

end Link

def Entity.Refers (e : Entity) (name : String) : Prop :=
  e.hasColumn name = true ∧ e.formula? name = none ∧
    ∀ c, e.column? name = some c → c.type.isRef = true ∨ c.type.isInt = true

def Entity.refers (e : Entity) (name : String) : Bool :=
  e.hasColumn name && (e.formula? name).isNone && (e.column? name).all fun c => c.type.isRef || c.type.isInt

/-- The check is enough for a column to hold references. -/
theorem Entity.refers_of_check {e : Entity} {name : String} (h : e.refers name = true) : e.Refers name := by
  rw [Entity.refers, Bool.and_eq_true, Bool.and_eq_true, Option.isNone_iff_eq_none] at h
  obtain ⟨⟨hhas, hformula⟩, hcolumn⟩ := h
  refine ⟨hhas, hformula, ?_⟩
  intro c hc
  rw [hc, Option.all_some, Bool.or_eq_true] at hcolumn
  exact hcolumn

namespace Loader

def sorts (relation : Relation) : List SortKey :=
  -- There is no order when each record has at most one related record.
  match relation.link with
  | .manyToOne _ | .oneToOne _ => []
  | .oneToOneInverse _ | .oneToMany _ | .manyToMany _ _ _ => sortKeys relation

def draft (relation : Relation) (target : Entity) (fields : Option (List String)) : Except Fault Select := do
  let q ← selected target (fetched relation.link fields)
  (q.sorted (sorts relation)).build

end Loader

def Sql.Select.labels (q : Select) : List String := q.outputs.map Output.label

def Contents.cells (db : Contents) (target : Entity) (link : Link) (names : List String) (t : Row) : List (Value × Value) :=
  let row := collect (names.map fun name => (.text name, db.field target t name))
  match link with
  | .manyToMany _ _ _ => Loader.targetRow row
  | .manyToOne _ | .oneToOne _ | .oneToOneInverse _ | .oneToMany _ => row

def Contents.fieldsOf (db : Contents) (target : Entity) (link : Link) (names : List String) (t : Row) :
    List (Value × Value) :=
  -- There are none if the row cannot be read.
  (target.fieldsOfRow (db.cells target link names t)).toOption.getD []

def Contents.recordOf (db : Contents) (target : Entity) (link : Link) (names : List String) (t : Row) : Value :=
  .map (db.fieldsOf target link names t)

/-- The id of the source is no part of a row of the target, be it the last cell. -/
theorem Loader.targetRow_concat (entries : List (Value × Value)) (v : Value) :
    targetRow (collect (entries ++ [(.text sourceLabel.text, v)])) = targetRow (collect entries) := by
  have hsame : (Value.text sourceLabel.text).same (.text sourceLabel.text) = true := Value.same_texts.mpr rfl
  rw [collect, List.foldl_append, List.foldl_cons, List.foldl_nil]
  exact filter_assign hsame v _

section Cells

variable {db : Contents} {target : Entity} {link : Link} {names : List String} {name : String} {t : Row}

/-- Under each name of a row is the field of this name. -/
theorem Contents.lookup?_row (h : name ∈ names) :
    lookup? (.text name) (collect (names.map fun name => (Value.text name, db.field target t name))) =
      some (db.field target t name) := by
  have hmap : (names.map fun name => (Value.text name, db.field target t name)) =
      (names.map fun name => (name, db.field target t name)).map fun x => (Value.text x.1, x.2) := by
    rw [List.map_map]
    rfl
  rw [hmap]
  apply lookup?_collect
  · exact ⟨_, List.mem_map_of_mem h, rfl⟩
  · intro x hx he
    obtain ⟨other, _, rfl⟩ := List.mem_map.mp hx
    have hname : other = name := he
    rw [hname]

/-- The id of a row is told as it is held. -/
theorem Contents.lookup?_id_cells (hid : target.IntegerId) (h : "id" ∈ names) :
    lookup? (.text "id") (db.cells target link names t) = some (t "id") := by
  have hrow : lookup? (.text "id") (collect (names.map fun name => (Value.text name, db.field target t name))) =
      some (t "id") := by
    rw [Contents.lookup?_row h, Contents.field_of_column hid.1]
  cases link with
  | manyToMany table sourceKey targetKey => exact (Loader.lookup?_targetRow _).trans hrow
  | manyToOne | oneToOne | oneToOneInverse | oneToMany => exact hrow

/-- The key of a row is told as it is held. -/
theorem Contents.lookup?_key_cells (hkey : link.targetKey? = some name) (hrefers : target.Refers name) (h : name ∈ names) :
    lookup? (.text name) (db.cells target link names t) = some (t name) := by
  have hrow : lookup? (.text name) (collect (names.map fun name => (Value.text name, db.field target t name))) =
      some (t name) := by
    rw [Contents.lookup?_row h, Contents.field_of_column hrefers.2.1]
  cases link with
  | manyToMany | manyToOne | oneToOne => cases hkey
  | oneToOneInverse | oneToMany => exact hrow

end Cells

/-- A reference is read from its cell as it is. -/
theorem Entity.ofCell_reference {e : Entity} {name : String} {cell : Value} (h : e.Refers name)
    (hcell : cell.isReference = true) : e.ofCell (.text name) cell = .ok cell := by
  obtain ⟨_, hformula, hcolumn⟩ := h
  rw [Entity.ofCell, Value.asText?_text]
  cases hc : e.column? name with
  | none => simp only [hc, hformula]
  | some c =>
    simp only [hc]
    obtain rfl | ⟨n, rfl⟩ := Value.reference_cases hcell
    · rw [ColumnType.ofCell]
    · rcases hcolumn c hc with href | hint
      · cases ht : c.type with
        | ref entity => rfl
        | scalar kind =>
          rw [ht] at href
          cases href
      · rw [ColumnType.eq_of_isInt hint]
        rfl

theorem Entity.refers_id {e : Entity} (h : e.IntegerId) : e.Refers "id" := by
  refine ⟨rfl, h.1, ?_⟩
  intro c hc
  refine Or.inr ?_
  rw [h.2.1 c hc]
  rfl

/-- A record that was read from a row has the references of the row as its keys. -/
theorem Contents.reads_reference {db : Contents} {target : Entity} {link : Link} {names : List String} {t : Row}
    {name : String} {store : Store} {base id : Nat} (hrefers : target.Refers name)
    (hread : target.fieldsOfRow (db.cells target link names t) = .ok (db.fieldsOf target link names t))
    (hcell : lookup? (.text name) (db.cells target link names t) = some (t name)) (href : (t name).isReference = true)
    (hreads : store.Reads base (.record id) (db.recordOf target link names t)) :
    ∃ n, store.get? id (.text name) = some n ∧ n.key = .ok (t name) := by
  obtain ⟨v, hv, hfound⟩ := Entity.lookup?_fieldsOfRow hread hcell
  rw [Entity.ofCell_reference hrefers href] at hv
  cases hv
  obtain he | ⟨n, he⟩ := Value.reference_cases href
  · rw [he] at hfound ⊢
    exact ⟨.null, hreads.keyAt hfound rfl⟩
  · rw [he] at hfound ⊢
    exact ⟨.scalar (.int n), hreads.keyAt hfound rfl⟩

namespace Loader

structure Drafted (target : Entity) (fields : Option (List String)) (sorts : List SortKey) (q : Query) (sel : Select) :
    Prop where
  selected : Selected target fields q
  built : (q.sorted sorts).build = .ok sel

namespace Drafted

variable {target : Entity} {fields : Option (List String)} {sorts : List SortKey} {q : Query} {sel : Select}
  (h : Drafted target fields sorts q sel)
include h

/-- The statement for the same query with a filter, keys and a join. -/
theorem build_eq {full : Query} {joins : List Join} {extra : List Output} {clauses : List Clause}
    (hfull : full = { q with joins := joins, extraColumns := extra, clauses := clauses, sorts := q.sorts ++ sorts }) :
    full.build = .ok ⟨q.table, q.rowAlias, joins, sel.outputs ++ extra, clauses, sel.order, .all⟩ := by
  have hid : "id" ∈ q.columns := h.selected.sound.id
  have hsettled : full.settled = full := Query.settled_eq (hfull ▸ hid)
  have hpage : full.page = .all := by
    rw [hfull]
    simp only [Query.page, h.selected.limit, h.selected.offset]
  have hbuilt := h.built
  rw [Query.build, Query.settled_eq (q := q.sorted sorts) hid] at hbuilt
  obtain ⟨outputs, houtputs, hbuilt⟩ := Except.bind_ok hbuilt
  obtain ⟨order, horder, hbuilt⟩ := Except.bind_ok hbuilt
  cases hbuilt
  rw [Query.outputs] at houtputs
  obtain ⟨columns, hcolumns, houtputs⟩ := Except.bind_ok houtputs
  obtain ⟨formulas, hformulas, houtputs⟩ := Except.bind_ok houtputs
  cases houtputs
  have hnone : (q.sorted sorts).extraColumns = [] := h.selected.extra
  rw [Query.build, hsettled, hpage, hnone, List.append_nil]
  subst hfull
  exact Except.bind_eq_ok (Except.bind_eq_ok hcolumns (Except.bind_eq_ok hformulas rfl))
    (Except.bind_eq_ok horder rfl)

theorem outputs_eq : q.outputs = .ok sel.outputs := by
  have hsound : (q.sorted sorts).Sound := ⟨h.selected.sound.columns, h.selected.sound.formulas, h.selected.sound.id⟩
  obtain ⟨outputs, order, houtputs, rfl⟩ := Query.build_ok hsound h.built
  exact houtputs

/-- Every output of a statement gives the field of its label. -/
theorem cell_eq (db : Contents) (env : Env) : ∀ o ∈ sel.outputs, db.cell env o = db.field target (env mainRow) o.label := by
  intro o ho
  obtain ⟨_, hall⟩ := Query.outputs_ok h.selected.sound h.outputs_eq
  rcases hall o ho with hextra | ⟨_, hcell⟩
  · rw [h.selected.extra] at hextra
    cases hextra
  · rw [hcell, h.selected.entity, h.selected.row]

theorem mem_names {name : String} (hname : name ∈ target.selection fields) : name ∈ sel.labels := by
  obtain ⟨hmem, _⟩ := Query.outputs_ok h.selected.sound h.outputs_eq
  obtain ⟨o, ho, rfl⟩ := hmem name (h.selected.names name hname)
  exact List.mem_map_of_mem ho

theorem id_mem_names : "id" ∈ sel.labels := by
  obtain ⟨hmem, _⟩ := Query.outputs_ok h.selected.sound h.outputs_eq
  obtain ⟨o, ho, he⟩ := hmem "id" (Query.selects_iff.mpr (Or.inl h.selected.sound.id))
  exact he ▸ List.mem_map_of_mem ho

/-- Each row of the answer to the statement has the cells of the row that it is about. -/
theorem entries_eq (db : Contents) (env : Env) : sel.outputs.map (fun o => (Value.text o.label, db.cell env o)) =
    sel.labels.map fun name => (Value.text name, db.field target (env mainRow) name) := by
  rw [Select.labels, List.map_map]
  apply List.map_congr_left
  intro o ho
  rw [h.cell_eq db env o ho]
  rfl

theorem namedRow_eq (db : Contents) {full : Select} (hfull : full.outputs = sel.outputs) (env : Env) :
    db.namedRow full env =
      collect (sel.labels.map fun name => (Value.text name, db.field target (env mainRow) name)) := by
  rw [Contents.namedRow, hfull, h.entries_eq]

end Drafted

end Loader

end EntityViews
