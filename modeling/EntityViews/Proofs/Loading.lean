import EntityViews.Proofs.Restriction
import EntityViews.Proofs.Fields

/-!
Loading a relation. Main statement: every record that a load attaches has the id of a row of the target's table that meets
the filter, and nothing but the name of the relation changes on the records that it is loaded onto.
-/

namespace EntityViews

open Sql

def Contents.Admits (db : Contents) (s : Schema) (entity : String) (filter : Value) (store : Store) (id : Nat) : Prop :=
  ∃ t ∈ db.rows entity, store.Shows id t ∧ db.Meets s entity t filter

inductive Node.Leads (P : Nat → Prop) : Node → Prop
  | nothing : Node.Leads P .null
  | one {id : Nat} : P id → Node.Leads P (.record id)
  | many {ids : List Nat} : (∀ id ∈ ids, P id) → Node.Leads P (.list (ids.map .record))

theorem Node.Leads.mono {P Q : Nat → Prop} {n : Node} (h : n.Leads P) (hpq : ∀ id, P id → Q id) : n.Leads Q := by
  cases h with
  | nothing => exact .nothing
  | one h => exact .one (hpq _ h)
  | many h => exact .many fun id hid => hpq id (h id hid)

/-- A list of records leads to what holds of each of them. -/
theorem Node.leads_list {P : Nat → Prop} {items : List Node} (h : ∀ n ∈ items, ∃ id, n = .record id ∧ P id) :
    Node.Leads P (.list items) := by
  have hids : ∃ ids : List Nat, items = ids.map .record ∧ ∀ id ∈ ids, P id := by
    induction items with
    | nil => exact ⟨[], rfl, nofun⟩
    | cons n rest ih =>
      obtain ⟨id, rfl, hid⟩ := h n List.mem_cons_self
      obtain ⟨ids, rfl, hids⟩ := ih fun m hm => h m (List.mem_cons_of_mem _ hm)
      exact ⟨id :: ids, rfl, List.forall_mem_cons.mpr ⟨hid, hids⟩⟩
  obtain ⟨ids, rfl, hids⟩ := hids
  exact .many hids

theorem Node.leads_head {P : Nat → Prop} {items : List Node} (h : ∀ n ∈ items, ∃ id, n = .record id ∧ P id) :
    Node.Leads P (items.headD .null) := by
  cases items with
  | nil => exact .nothing
  | cons n rest =>
    obtain ⟨id, rfl, hid⟩ := h n List.mem_cons_self
    exact .one hid

structure Store.Attaches (s t : Store) (records : List Node) (name : String) (P : Nat → Prop) : Prop where
  keeps : s.Keeps (fun i other => other = name ∧ .record i ∈ records) t
  parents : ∀ n ∈ records, ∃ i, n = .record i
  leads : ∀ i, .record i ∈ records → i < s.records.size → ∃ n, t.get? i (.text name) = some n ∧ n.Leads P

namespace Loader

variable {δ : Type} {db : Contents} {s : Schema} {target : Entity} {fields : Option (List String)}
  {filter : Value} {w w' : World δ}

/-- Records with the rows of a statement that they were made for. A record may have been made for another row, but then
for one of the same id. -/
structure Made (db : Contents) (target : Entity) (q : Select) (row : Env → List (Value × Value)) (before after : Store)
    (made : List (Env × Nat)) : Prop where
  found : (made.map (·.1)).Perm (db.found q)
  fresh : ∀ m ∈ made, before.New after m.2
  rows : ∀ m ∈ made, ∃ m' ∈ made, after.Made target (row m'.1) m.2 ∧
    (m'.1 = m.1 ∨ (m'.1 mainRow "id").same (m.1 mainRow "id") = true)

/-- Whether a query gives all rows of an entity that some conditions hold for, each with its id. -/
structure Ready (target : Entity) (q : Query) : Prop where
  sound : q.Sound
  entity : q.entity = target
  table : q.table.text = target.name
  row : q.row.text = mainRow
  extra : ∀ o ∈ q.extraColumns, ∃ t n, o = .labelled t n ∧ n.text ≠ "id"
  joins : ∀ j ∈ q.joins, ∃ table other column key otherKey, j = .keyed table other column key otherKey ∧
    other.text ≠ q.rowAlias.text
  clauses : ∀ c ∈ q.clauses, ∃ k, c = .condition k
  page : q.page = .all

/-- A query that adds joins, clauses and an order to a selection is ready to be answered. -/
theorem ready_of_selected {q q₀ : Query} {joins : List Join} {extra : List Output} {clauses more : List Clause}
    {sorts : List SortKey} (hid : target.IntegerId) (hq₀ : selected target fields = .ok q₀)
    (hq : q = { q₀ with joins := joins, extraColumns := extra, clauses := clauses ++ more, sorts := sorts })
    (hclauses : db.Restricts s target.name filter clauses) (hmore : ∀ c ∈ more, ∃ k, c = .condition k)
    (hextra : ∀ o ∈ extra, ∃ t n, o = .labelled t n ∧ n.text ≠ "id")
    (hjoins : ∀ j ∈ joins, ∃ table other column key otherKey, j = .keyed table other column key otherKey ∧
      other.text ≠ mainRow) : Ready target q := by
  subst hq
  have hq := selected_ok hid hq₀
  refine ⟨⟨hq.sound.columns, hq.sound.formulas, hq.sound.id⟩, hq.entity, hq.table, hq.row, hextra, ?_, ?_, ?_⟩
  · intro j hj
    obtain ⟨table, other, column, key, otherKey, he, hne⟩ := hjoins j hj
    exact ⟨table, other, column, key, otherKey, he, fun h => hne (h.trans hq.row)⟩
  · intro c hc
    rcases List.mem_append.mp hc with hc | hc
    · exact hclauses.plain c hc
    · exact hmore c hc
  · simp only [Query.page, hq.limit, hq.offset]

/-- A query without joins for the rows of some fields and conditions. -/
theorem ready_of_plain {q q₀ : Query} {clauses more : List Clause} {sorts : List SortKey} (hid : target.IntegerId)
    (hq₀ : selected target fields = .ok q₀) (hq : q = { q₀ with clauses := clauses ++ more, sorts := sorts })
    (hclauses : db.Restricts s target.name filter clauses) (hmore : ∀ c ∈ more, ∃ k, c = .condition k) :
    Ready target q := by
  refine ready_of_selected hid hq₀ hq hclauses hmore ?_ ?_
  · rw [(selected_ok hid hq₀).extra]
    exact fun o ho => absurd ho List.not_mem_nil
  · rw [(selected_ok hid hq₀).joins]
    exact fun j hj => absurd hj List.not_mem_nil

theorem Ready.build_ok {q : Query} {sel : Select} (hq : Ready target q) (h : q.build = .ok sel) :
    ∃ outputs order, q.outputs = .ok outputs ∧ sel = ⟨q.table, q.rowAlias, q.joins, outputs, q.clauses, order, .all⟩ := by
  obtain ⟨outputs, order, houtputs, rfl⟩ := Query.build_ok hq.sound h
  refine ⟨outputs, order, houtputs, ?_⟩
  rw [hq.page]

/-- A ready query makes a plain statement. -/
theorem Ready.plain {q : Query} {sel : Select} (hq : Ready target q) (h : q.build = .ok sel) : sel.plain = true := by
  refine Query.plain_build hq.sound ?_ ?_ hq.clauses h
  · intro o ho
    obtain ⟨t, n, he, _⟩ := hq.extra o ho
    exact ⟨t, n, he⟩
  · intro j hj
    obtain ⟨table, other, column, key, otherKey, he, _⟩ := hq.joins j hj
    exact ⟨table, other, column, key, otherKey, he⟩

theorem Ready.extra_ne {q : Query} (hq : Ready target q) : ∀ o ∈ q.extraColumns, o.label ≠ "id" := by
  intro o ho
  obtain ⟨t, n, rfl, hn⟩ := hq.extra o ho
  exact hn

/-- What a ready query finds are rows of its table that meet its clauses, with their id among the cells. -/
theorem Ready.found {q : Query} {sel : Select} {env : Env} (hq : Ready target q) (h : q.build = .ok sel)
    (henv : env ∈ db.found sel) : env mainRow ∈ db.rows target.name ∧ q.clauses.all (db.clauseHolds env) = true ∧
      lookup? (.text "id") (db.namedRow sel env) = some (env mainRow "id") := by
  have hid := Query.lookup?_id_build hq.sound hq.extra_ne h db env
  obtain ⟨outputs, order, _, rfl⟩ := hq.build_ok h
  obtain ⟨hrow, hclauses⟩ := Contents.mem_found hq.joins henv
  rw [hq.row] at hid
  refine ⟨?_, hclauses, hid⟩
  have hmain : q.rowAlias.text = mainRow := hq.row
  rw [hmain, hq.table] at hrow
  exact hrow

/-- Every record that is made of a found row is admitted by the filter. -/
theorem Made.admits {q : Query} {sel : Select} {clauses more : List Clause} {row : Env → List (Value × Value)}
    {before after : Store} {made : List (Env × Nat)} (hid : target.IntegerId) (hq : Ready target q)
    (h : q.build = .ok sel) (hclauses : q.clauses = clauses ++ more) (hr : db.Restricts s target.name filter clauses)
    (hrow : ∀ env, lookup? (.text "id") (row env) = lookup? (.text "id") (db.namedRow sel env))
    (hmade : Made db target sel row before after made) :
    ∀ m ∈ made, db.Admits s target.name filter after m.2 := by
  intro m hm
  obtain ⟨m', hm', hrows, _⟩ := hmade.rows m hm
  have henv : m'.1 ∈ db.found sel := hmade.found.mem_iff.mp (List.mem_map_of_mem hm')
  obtain ⟨htable, hall, hlookup⟩ := hq.found h henv
  rw [hclauses, List.all_append, Bool.and_eq_true] at hall
  refine ⟨m'.1 mainRow, htable, ?_, hr.meets m'.1 hall.1⟩
  exact hrows.shows hid ((hrow m'.1).trans hlookup)

/-- Fetched records are put into groups by the keys that they have. -/
theorem grouped_gives {made : List (Env × Nat)} {key : String} {groups₀ groups : List (Value × List Node)}
    (h : Gives ((made.map fun m => Node.record m.2).foldlM
      (fun groups row => do return addToGroup groups (← keyOf row key) row) groups₀) w groups w') :
    w' = w ∧ ∃ source : Env × Nat → Value, (∀ m ∈ made, w.store.keyAt m.2 key = .ok (source m)) ∧
      groups = (made.map fun m => (source m, Node.record m.2)).foldl (fun g p => addToGroup g p.1 p.2) groups₀ := by
  -- Grouping only reads, so all keys are those in the store before it.
  let source : Env × Nat → Value := fun m => (w.store.keyAt m.2 key).toOption.getD .null
  have hsource : w' = w ∧ (∀ m ∈ made, w.store.keyAt m.2 key = .ok (source m)) ∧
      groups = (made.map fun m => (source m, Node.record m.2)).foldl (fun g p => addToGroup g p.1 p.2) groups₀ := by
    induction made generalizing groups₀ with
    | nil =>
      obtain ⟨rfl, rfl⟩ := Gives.foldlM_nil_iff.mp h
      exact ⟨rfl, nofun, rfl⟩
    | cons m rest ih =>
      obtain ⟨groups₁, w₁, hm, hrest⟩ := Gives.foldlM_cons_iff.mp h
      obtain ⟨v, w₂, hv, hadd⟩ := Gives.bind_iff.mp hm
      obtain ⟨hw₂, id, hid, hkey⟩ := keyOf_gives hv
      obtain ⟨hgroups, hw₁⟩ := Gives.pure_iff.mp hadd
      have hw : w₁ = w := hw₁.trans hw₂
      rw [hw] at hrest
      have hmid : m.2 = id := Node.record.inj hid
      have hsm : source m = v := by
        change (w.store.keyAt m.2 key).toOption.getD .null = v
        rw [hmid, hkey]
        rfl
      obtain ⟨hw', hall, hfold⟩ := ih hrest
      refine ⟨hw', ?_, ?_⟩
      · intro n hn
        rcases List.mem_cons.mp hn with rfl | hn
        · rw [hsm, hmid, hkey]
        · exact hall n hn
      · rw [hfold, List.map_cons, List.foldl_cons, hgroups, hsm]
  exact ⟨hsource.1, source, hsource.2⟩

def targetRow (row : List (Value × Value)) : List (Value × Value) :=
  row.filter fun e => !e.1.same (.text sourceLabel.text)

def sourceOf (row : List (Value × Value)) : Value := (lookup? (.text sourceLabel.text) row).getD .null

structure Gathered (target : Entity) (row : Env → List (Value × Value)) (before after : Store)
    (known : List (Value × Node)) (groups : List (Value × List Node)) (made : List (Env × Nat)) : Prop where
  grows : before.Grows after
  fresh : ∀ m ∈ made, before.New after m.2
  rows : ∀ m ∈ made, ∃ m' ∈ made, after.Made target (targetRow (row m'.1)) m.2 ∧
    (m'.1 = m.1 ∨ (m'.1 mainRow "id").same (m.1 mainRow "id") = true)
  known : ∀ key n, lookup? key known = some n → ∃ m ∈ made, n = .record m.2 ∧
    after.Made target (targetRow (row m.1)) m.2 ∧ (m.1 mainRow "id").same key = true
  groups : groups = groupsOf (made.map fun m => (sourceOf (row m.1), Node.record m.2))

theorem groupsOf_append (pairs : List (Value × Node)) (key : Value) (n : Node) :
    groupsOf (pairs ++ [(key, n)]) = addToGroup (groupsOf pairs) key n := by
  rw [groupsOf, List.foldl_append]
  rfl

theorem Gathered.start (row : Env → List (Value × Value)) (before : Store) :
    Gathered target row before before [] [] [] := by
  refine ⟨.refl before, nofun, nofun, ?_, rfl⟩
  intro key n h
  cases h

/-- A row of a known record adds this record to one more group. -/
theorem Gathered.again {row : Env → List (Value × Value)} {before after : Store} {known : List (Value × Node)}
    {groups : List (Value × List Node)} {made : List (Env × Nat)} (h : Gathered target row before after known groups made)
    {env : Env} {n : Node} (hn : lookup? (env mainRow "id") known = some n) : ∃ id, n = .record id ∧
      Gathered target row before after known (addToGroup groups (sourceOf (row env)) n) (made ++ [(env, id)]) := by
  obtain ⟨m, hm, rfl, hmade, hsame⟩ := h.known _ n hn
  refine ⟨m.2, rfl, ⟨h.grows, ?_, ?_, ?_, ?_⟩⟩
  · intro m' hm'
    rcases List.mem_append.mp hm' with hm' | hm'
    · exact h.fresh m' hm'
    · rw [List.mem_singleton.mp hm']
      exact h.fresh m hm
  · intro m' hm'
    rcases List.mem_append.mp hm' with hm' | hm'
    · obtain ⟨m'', hm'', hrow⟩ := h.rows m' hm'
      exact ⟨m'', List.mem_append_left _ hm'', hrow⟩
    · rw [List.mem_singleton.mp hm']
      exact ⟨m, List.mem_append_left _ hm, hmade, Or.inr hsame⟩
  · intro key n hkey
    obtain ⟨m', hm', hrest⟩ := h.known key n hkey
    exact ⟨m', List.mem_append_left _ hm', hrest⟩
  · rw [List.map_append, h.groups]
    exact (groupsOf_append _ _ _).symm

/-- A row of an unknown record makes it and adds it to its group. -/
theorem Gathered.anew {row : Env → List (Value × Value)} {before after after' : Store} {known : List (Value × Node)}
    {groups : List (Value × List Node)} {made : List (Env × Nat)} (h : Gathered target row before after known groups made)
    {env : Env} {id : Nat} (hgrows : after.Grows after') (hnew : after.New after' id)
    (hmade : after'.Made target (targetRow (row env)) id) :
    Gathered target row before after' (assign (env mainRow "id") (.record id) known)
      (addToGroup groups (sourceOf (row env)) (.record id)) (made ++ [(env, id)]) := by
  have hkept : ∀ m ∈ made, ∀ r, after.Made target r m.2 → after'.Made target r m.2 := by
    intro m hm r hr
    exact hr.grows (h.fresh m hm).2 hgrows
  refine ⟨h.grows.trans hgrows, ?_, ?_, ?_, ?_⟩
  · intro m hm
    rcases List.mem_append.mp hm with hm | hm
    · exact ⟨(h.fresh m hm).1, Nat.lt_of_lt_of_le (h.fresh m hm).2 hgrows.1⟩
    · rw [List.mem_singleton.mp hm]
      exact ⟨Nat.le_trans h.grows.1 hnew.1, hnew.2⟩
  · intro m hm
    rcases List.mem_append.mp hm with hm | hm
    · obtain ⟨m', hm', hrow, hid⟩ := h.rows m hm
      exact ⟨m', List.mem_append_left _ hm', hkept m hm _ hrow, hid⟩
    · rw [List.mem_singleton.mp hm]
      exact ⟨(env, id), List.mem_append_right _ (List.mem_singleton_self _), hmade, Or.inl rfl⟩
  · intro key n hkey
    rw [lookup?_assign] at hkey
    by_cases hs : (env mainRow "id").same key
    · rw [if_pos hs] at hkey
      cases hkey
      exact ⟨(env, id), List.mem_append_right _ (List.mem_singleton_self _), rfl, hmade, hs⟩
    · rw [if_neg hs] at hkey
      obtain ⟨m, hm, hn, hrow, hid⟩ := h.known key n hkey
      exact ⟨m, List.mem_append_left _ hm, hn, hkept m hm _ hrow, hid⟩
  · rw [List.map_append, h.groups]
    exact (groupsOf_append _ _ _).symm

theorem cell_ok {row : List (Value × Value)} {name : String} {v : Value} (h : cell row name = .ok v) :
    lookup? (.text name) row = some v := by
  unfold cell at h
  split at h
  · cases h
    assumption
  · cases h

theorem keyCell_ok {row : List (Value × Value)} {name : String} {v : Value} (h : keyCell row name = .ok v) :
    lookup? (.text name) row = some v := by
  obtain ⟨u, hu, h⟩ := Except.bind_ok h
  split at h
  · cases h
    exact cell_ok hu
  · cases h

theorem lookup?_targetRow (row : List (Value × Value)) :
    lookup? (.text "id") (targetRow row) = lookup? (.text "id") row :=
  lookup?_without (by decide) row

/-- To gather a row adds one record to what was gathered. -/
theorem gatherRow_gives {row : Env → List (Value × Value)} {before : Store} {env : Env} {known known' : List (Value × Node)}
    {groups groups' : List (Value × List Node)} {made : List (Env × Nat)}
    (hid : lookup? (.text "id") (row env) = some (env mainRow "id"))
    (h₀ : Gathered target row before w.store known groups made)
    (h : Gives (gatherRow target (known, groups) (row env)) w (known', groups') w') :
    ∃ id, Gathered target row before w'.store known' groups' (made ++ [(env, id)]) := by
  obtain ⟨source, m₁, hcell, hrow⟩ := Gives.bind_iff.mp h
  obtain ⟨hsource, rfl⟩ := Gives.lift_iff.mp hcell
  obtain ⟨key, m₂, hcell', hrecord⟩ := Gives.bind_iff.mp hrow
  obtain ⟨hkey, rfl⟩ := Gives.lift_iff.mp hcell'
  have hs : sourceOf (row env) = source := by
    rw [sourceOf, cell_ok hsource]
    rfl
  have hk : key = env mainRow "id" := by
    have hl := keyCell_ok hkey
    rw [← targetRow, lookup?_targetRow, hid] at hl
    exact (Option.some.inj hl).symm
  subst hk
  -- Known or new, the record is put into the group of its source in the same way.
  have hend : ∀ {n : Node} {known₁ : List (Value × Node)} {m : World δ},
      Gives (if source.isKey then return (known₁, addToGroup groups source n) else throw .mistyped :
        Run δ (List (Value × Node) × List (Value × List Node))) m (known', groups') w' →
      known' = known₁ ∧ groups' = addToGroup groups source n ∧ w' = m := by
    intro n known₁ m hm
    split at hm
    · obtain ⟨he, rfl⟩ := Gives.pure_iff.mp hm
      cases he
      exact ⟨rfl, rfl, rfl⟩
    · exact (Gives.throw_iff.mp hm).elim
  cases hl : lookup? (env mainRow "id") known with
  | some n =>
    simp only [hl] at hrecord
    obtain ⟨_, m₃, hpure, hrest⟩ := Gives.bind_iff.mp hrecord
    obtain ⟨rfl, rfl⟩ := Gives.pure_iff.mp hpure
    obtain ⟨rfl, rfl, rfl⟩ := hend hrest
    obtain ⟨id, rfl, hgathered⟩ := h₀.again hl
    exact ⟨id, hs ▸ hgathered⟩
  | none =>
    simp only [hl] at hrecord
    obtain ⟨n, m₃, hmake, hmore⟩ := Gives.bind_iff.mp hrecord
    obtain ⟨_, m₄, hpure, hrest⟩ := Gives.bind_iff.mp hmore
    obtain ⟨rfl, rfl⟩ := Gives.pure_iff.mp hpure
    obtain ⟨rfl, rfl, rfl⟩ := hend hrest
    obtain ⟨id, rfl, hnew, hmade, hgrows⟩ := recordOfRow_gives hmake
    exact ⟨id, hs ▸ h₀.anew hgrows hnew hmade⟩

/-- The rows of a joined statement become records one after the other. -/
theorem gather_gives {row : Env → List (Value × Value)} {envs : List Env} {known : List (Value × Node)}
    {groups : List (Value × List Node)} (hid : ∀ env ∈ envs, lookup? (.text "id") (row env) = some (env mainRow "id"))
    (h : Gives (gather target (envs.map row)) w (known, groups) w') :
    ∃ made : List (Env × Nat), made.map (·.1) = envs ∧ Gathered target row w.store w'.store known groups made := by
  -- The loop is followed from any state in which the rows before have been gathered.
  have hrun : ∀ (envs : List Env) (w₁ : World δ) (state : List (Value × Node) × List (Value × List Node))
      (made : List (Env × Nat)), (∀ env ∈ envs, lookup? (.text "id") (row env) = some (env mainRow "id")) →
      Gathered target row w.store w₁.store state.1 state.2 made →
      Gives ((envs.map row).foldlM (gatherRow target) state) w₁ (known, groups) w' →
      ∃ more : List (Env × Nat), more.map (·.1) = envs ∧
        Gathered target row w.store w'.store known groups (made ++ more) := by
    intro envs
    induction envs with
    | nil =>
      intro w₁ state made _ h₀ h
      obtain ⟨rfl, rfl⟩ := Gives.foldlM_nil_iff.mp h
      refine ⟨[], rfl, ?_⟩
      rwa [List.append_nil]
    | cons env rest ih =>
      intro w₁ state made hid h₀ h
      obtain ⟨state', w₂, hfirst, hrest⟩ := Gives.foldlM_cons_iff.mp h
      obtain ⟨id, h₁⟩ := gatherRow_gives (hid env List.mem_cons_self) h₀ hfirst
      obtain ⟨more, rfl, h₂⟩ := ih w₂ state' _ (fun e he => hid e (List.mem_cons_of_mem _ he)) h₁ hrest
      refine ⟨(env, id) :: more, rfl, ?_⟩
      rwa [List.append_assoc] at h₂
  obtain ⟨made, hmade, hgathered⟩ := hrun envs w ([], []) [] hid (.start row w.store) h
  exact ⟨made, hmade, hgathered⟩

def Admitted (db : Contents) (s : Schema) (entity : String) (filter : Value) (before after : Store) (id : Nat) : Prop :=
  before.New after id ∧ db.Admits s entity filter after id

/-- A loop that sets a field attaches admitted records only. -/
theorem attaches_of_loop {w₁ : World δ} {records : List Node} {entity key name : String} {f : Value → Node}
    (hname : name ≠ "id") (hgrows : w.store.Grows w₁.store)
    (hf : ∀ v, (f v).Leads (Admitted db s entity filter w.store w₁.store))
    (h : Gives (records.forM fun r => do Run.setField r name (f (← keyOf r key))) w₁ ⟨⟩ w') :
    w.store.Attaches w'.store records name (Admitted db s entity filter w.store w'.store) := by
  obtain ⟨hkeeps, hsize, hrecords, hall⟩ := attach_gives h
  -- Attaching sets another name than the id, so that what a record shows is not touched.
  have hadmitted : ∀ id, Admitted db s entity filter w.store w₁.store id →
      Admitted db s entity filter w.store w'.store id := by
    rintro id ⟨hnew, t, ht, ⟨before, hshows⟩, hmeets⟩
    refine ⟨⟨hnew.1, hsize ▸ hnew.2⟩, t, ht, ⟨before, ?_⟩, hmeets⟩
    rw [hkeeps.2 id hnew.2 "id" fun ht => hname ht.1.symm]
    exact hshows
  refine ⟨hgrows.keeps.trans hkeeps, hrecords, ?_⟩
  intro i hi hlt
  obtain ⟨v, hv, _⟩ := hall i hi (Nat.lt_of_lt_of_le hlt hgrows.1)
  exact ⟨f v, hv, (hf v).mono hadmitted⟩

variable [Engine δ] {keys : List Value}

/-- What a ready query fetches are new records, one for each row that it made. -/
theorem fetch_gives (ideal : Ideal δ db) {q : Query} {sel : Select} {nodes : List Node} (hq : Ready target q)
    (hb : q.build = .ok sel) (h : Gives (fetchRecords target sel) w nodes w') :
    ∃ made : List (Env × Nat), nodes = made.map (fun m => .record m.2) ∧
      Made db target sel (db.namedRow sel) w.store w'.store made ∧
      (∀ m ∈ made, w'.store.Made target (db.namedRow sel m.1) m.2) ∧ w.store.Grows w'.store := by
  obtain ⟨made, rest, hperm, hpage, rfl, hall, hgrows⟩ := fetchRecords_gives ideal (hq.plain hb) h
  obtain ⟨outputs, order, _, rfl⟩ := hq.build_ok hb
  rw [hpage rfl, List.append_nil] at hperm
  refine ⟨made, rfl, ⟨hperm, fun m hm => (hall m hm).1, ?_⟩, fun m hm => (hall m hm).2, hgrows⟩
  intro m hm
  exact ⟨m, hm, (hall m hm).2, Or.inl rfl⟩

theorem plain_among (row : Alias) (column : Name) (values : List Value) :
    ∀ c ∈ [among row column values], ∃ k, c = .condition k := by
  intro c hc
  exact ⟨_, List.mem_singleton.mp hc⟩

/-- The records that keys of the source records lead to have the ids of rows which meet the filter. -/
theorem ownRelated_admits (ideal : Ideal δ db) (hid : target.IntegerId) {related : List (Value × Node)}
    (h : Gives (ownRelated s target fields filter keys) w related w') : w.store.Grows w'.store ∧
      ∀ p ∈ related, ∃ id, p.2 = .record id ∧ Admitted db s target.name filter w.store w'.store id := by
  rcases ownRelated_gives h with ⟨_, rfl, rfl⟩ | ⟨_, q, m, sel, rows, hq, hb, hrows, hby⟩
  · exact ⟨.refl _, nofun⟩
  · obtain ⟨_, hmem, _⟩ := byField_gives hby
    obtain ⟨q₀, clauses, hq₀, hr, rfl, hstore⟩ := queryFor_gives db hid hq
    have hready : Ready target ({ q₀ with clauses := clauses }.add (among q₀.rowAlias .id keys)) :=
      ready_of_plain hid hq₀ rfl hr (plain_among _ _ _)
    obtain ⟨made, rfl, hmade, _, hgrows⟩ := fetch_gives ideal hready hb hrows
    rw [hstore] at hmade hgrows
    have hadmits := hmade.admits hid hready hb rfl hr fun _ => rfl
    refine ⟨hgrows, ?_⟩
    intro p hp
    obtain ⟨m, hm, he⟩ := List.mem_map.mp (hmem p hp)
    exact ⟨m.2, he.symm, hmade.fresh m hm, hadmits m hm⟩

def theirQuery (relation : Relation) (q₀ : Query) (clauses : List Clause) (key : Name) (ids : List Value) : Query :=
  ({ q₀ with clauses := clauses }.add (among q₀.rowAlias key ids)).sorted (sortKeys relation)

theorem ready_theirQuery {relation : Relation} {q₀ : Query} {clauses : List Clause} {key : Name} {ids : List Value}
    (hid : target.IntegerId) (hq₀ : selected target fields = .ok q₀)
    (hr : db.Restricts s target.name filter clauses) : Ready target (theirQuery relation q₀ clauses key ids) :=
  ready_of_plain hid hq₀ rfl hr (plain_among _ _ _)

/-- The records that hold a key of source records are made of the rows of one statement, and in groups by that key. -/
theorem theirRows_made (ideal : Ideal δ db) (hid : target.IntegerId) {relation : Relation} {key : String}
    {rows : List Node} {groups : List (Value × List Node)}
    (h : Gives (theirRows s relation key target fields filter keys) w rows w')
    (hgroups : Gives (rows.foldlM (fun groups row => do return addToGroup groups (← keyOf row key) row) []) w' groups w') :
    ∃ (made : List (Env × Nat)) (source : Env × Nat → Value),
      groups = groupsOf (made.map fun m => (source m, Node.record m.2)) ∧ w.store.Grows w'.store ∧
      (∀ m ∈ made, Admitted db s target.name filter w.store w'.store m.2 ∧ w'.store.keyAt m.2 key = .ok (source m)) ∧
      (keys.isEmpty = true → made = []) ∧
      (keys.isEmpty = false → ∃ q₀ clauses name sel, selected target (fields.map (· ++ [key])) = .ok q₀ ∧
        Name.make? key = .ok name ∧ db.Restricts s target.name filter clauses ∧
        (theirQuery relation q₀ clauses name keys).build = .ok sel ∧ (made.map (·.1)).Perm (db.found sel) ∧
        ∀ m ∈ made, w'.store.Made target (db.namedRow sel m.1) m.2) := by
  rcases theirRows_gives h with ⟨hk, rfl, rfl⟩ | ⟨hk, q, m, name, sel, hq, hname, hb, hrows⟩
  · obtain ⟨rfl, _⟩ := Gives.foldlM_nil_iff.mp hgroups
    exact ⟨[], fun _ => .null, rfl, .refl _, nofun, fun _ => rfl, fun he => absurd (hk.symm.trans he) nofun⟩
  · obtain ⟨q₀, clauses, hq₀, hr, rfl, hstore⟩ := queryFor_gives db hid hq
    have hready : Ready target (theirQuery relation q₀ clauses name keys) := ready_theirQuery hid hq₀ hr
    obtain ⟨made, rfl, hmade, hrows', hgrows⟩ := fetch_gives ideal hready hb hrows
    obtain ⟨_, source, hsource, rfl⟩ := grouped_gives hgroups
    rw [hstore] at hmade hgrows
    have hadmits := hmade.admits hid hready hb rfl hr fun _ => rfl
    refine ⟨made, source, rfl, hgrows, ?_, fun he => absurd (hk.symm.trans he) nofun, ?_⟩
    · intro m hm
      exact ⟨⟨hmade.fresh m hm, hadmits m hm⟩, hsource m hm⟩
    · intro _
      exact ⟨q₀, clauses, name, sel, hq₀, hname, hr, hb, hmade.found, hrows'⟩

def throughQuery (relation : Relation) (q₀ : Query) (clauses : List Clause) (source table column : Name)
    (ids : List Value) : Query :=
  (((({ q₀ with clauses := clauses }.joined (.keyed table joinRow column q₀.rowAlias .id)).extended
    (.labelled (.column joinRow source) sourceLabel)).add (among joinRow source ids)).sorted (sortKeys relation))

/-- The query behind a table is ready. -/
theorem ready_throughQuery {relation : Relation} {q₀ : Query} {clauses : List Clause} {source table column : Name}
    {ids : List Value} (hid : target.IntegerId) (hq₀ : selected target fields = .ok q₀)
    (hr : db.Restricts s target.name filter clauses) :
    Ready target (throughQuery relation q₀ clauses source table column ids) := by
  have hq := selected_ok hid hq₀
  refine ready_of_selected hid hq₀ rfl hr (plain_among _ _ _) ?_ ?_
  · intro o ho
    change o ∈ q₀.extraColumns ++ [_] at ho
    rw [hq.extra, List.nil_append, List.mem_singleton] at ho
    exact ⟨_, _, ho, by decide⟩
  · intro j hj
    change j ∈ q₀.joins ++ [_] at hj
    rw [hq.joins, List.nil_append, List.mem_singleton] at hj
    exact ⟨_, _, _, _, _, hj, by decide⟩

/-- What is gathered from the answer of a ready query are groups of new records, one for each row that it made. -/
theorem gathered_gives (ideal : Ideal δ db) {q : Query} {sel : Select} {answer : Answer}
    {rows : List (List (Value × Value))} {known : List (Value × Node)} {groups : List (Value × List Node)} {w₁ : World δ}
    (hq : Ready target q) (hb : q.build = .ok sel) (hanswer : Gives (execute (.select sel)) w answer w₁)
    (hrows : answer.namedRows = .ok rows) (h : Gives (gather target rows) w₁ (known, groups) w') :
    ∃ made : List (Env × Nat), groups = groupsOf (made.map fun m => (sourceOf (db.namedRow sel m.1), Node.record m.2)) ∧
      Made db target sel (fun env => targetRow (db.namedRow sel env)) w.store w'.store made ∧
      w.store.Grows w'.store := by
  obtain ⟨hanswers, haside⟩ := Run.select_gives ideal (hq.plain hb) hanswer
  obtain ⟨envs, rest, hnamed, hperm, hpage⟩ := hanswers.namedRows
  have hfound : ∀ env, env ∈ db.found sel → lookup? (.text "id") (db.namedRow sel env) = some (env mainRow "id") :=
    fun env henv => (hq.found hb henv).2.2
  obtain ⟨outputs, order, _, rfl⟩ := hq.build_ok hb
  rw [hpage rfl, List.append_nil] at hperm
  rw [Except.ok.inj (hrows.symm.trans hnamed)] at h
  obtain ⟨made, rfl, hgathered⟩ := gather_gives (fun env henv => hfound env (hperm.mem_iff.mp henv)) h
  rw [haside.store_eq] at hgathered
  exact ⟨made, hgathered.groups, ⟨hperm, hgathered.fresh, hgathered.rows⟩, hgathered.grows⟩

/-- The records that a table of its own joins with source records are made of the rows of one statement, and in groups by
the source that a row names. -/
theorem throughRows_made (ideal : Ideal δ db) (hid : target.IntegerId) {relation : Relation}
    {table sourceKey targetKey : String} {found : List (Value × Node) × List (Value × List Node)}
    (h : Gives (throughRows s relation table sourceKey targetKey target fields filter keys) w found w') :
    ∃ (made : List (Env × Nat)) (source : Env × Nat → Value),
      found.2 = groupsOf (made.map fun m => (source m, Node.record m.2)) ∧ w.store.Grows w'.store ∧
      (∀ m ∈ made, Admitted db s target.name filter w.store w'.store m.2) ∧
      (keys.isEmpty = true → made = []) ∧
      (keys.isEmpty = false → ∃ q₀ clauses sourceName tableName column sel, selected target fields = .ok q₀ ∧
        Name.make? sourceKey = .ok sourceName ∧ Name.make? table = .ok tableName ∧ Name.make? targetKey = .ok column ∧
        db.Restricts s target.name filter clauses ∧
        (throughQuery relation q₀ clauses sourceName tableName column keys).build = .ok sel ∧
        Made db target sel (fun env => targetRow (db.namedRow sel env)) w.store w'.store made ∧
        ∀ m, source m = sourceOf (db.namedRow sel m.1)) := by
  rcases throughRows_gives h with ⟨hk, rfl, rfl⟩ |
    ⟨hk, q, m, m₁, sourceName, tableName, column, sel, answer, rows, hq, hsource, htable, hcolumn, hb, hanswer, hrows,
      hgathered⟩
  · exact ⟨[], fun _ => .null, rfl, .refl _, nofun, fun _ => rfl, fun he => absurd (hk.symm.trans he) nofun⟩
  · obtain ⟨q₀, clauses, hq₀, hr, rfl, hstore⟩ := queryFor_gives db hid hq
    have hready : Ready target (throughQuery relation q₀ clauses sourceName tableName column keys) :=
      ready_throughQuery hid hq₀ hr
    obtain ⟨made, hgroups, hmade, hgrows⟩ := gathered_gives ideal hready hb hanswer hrows hgathered
    rw [hstore] at hmade hgrows
    have hadmits := hmade.admits hid hready hb rfl hr fun env => lookup?_targetRow _
    refine ⟨made, fun m => sourceOf (db.namedRow sel m.1), hgroups, hgrows, ?_, fun he => absurd (hk.symm.trans he) nofun, ?_⟩
    · intro m hm
      exact ⟨hmade.fresh m hm, hadmits m hm⟩
    · intro _
      exact ⟨q₀, clauses, sourceName, tableName, column, sel, hq₀, hsource, htable, hcolumn, hr, hb, hmade, fun _ => rfl⟩

theorem leads_group {P : Nat → Prop} {made : List (Env × Nat)} (source : Env × Nat → Value) (h : ∀ m ∈ made, P m.2)
    (key : Value) : ∀ n ∈ (lookup? key (groupsOf (made.map fun m => (source m, Node.record m.2)))).getD [],
      ∃ id, n = .record id ∧ P id := by
  intro n hn
  rw [lookup?_groupsOf] at hn
  obtain ⟨p, hp, rfl⟩ := List.mem_map.mp hn
  obtain ⟨m, hm, rfl⟩ := List.mem_map.mp (List.mem_filter.mp hp).1
  exact ⟨m.2, rfl, h m hm⟩

omit [Engine δ] in
/-- Where all related records have a property, what is found for a key leads to such a record only. -/
theorem leads_related {P : Nat → Prop} {related : List (Value × Node)} (h : ∀ p ∈ related, ∃ id, p.2 = .record id ∧ P id)
    (key : Value) : Node.Leads P ((lookup? key related).getD .null) := by
  cases hkey : lookup? key related with
  | none => exact .nothing
  | some n =>
    obtain ⟨p, hp, _, rfl⟩ := mem_of_lookup? hkey
    obtain ⟨id, hpid, hid⟩ := h p hp
    rw [Option.getD_some, hpid]
    exact .one hid

omit [Engine δ] in
theorem leads_theirItems {P : Nat → Prop} {groups : List (Value × List Node)} {key : Value} (relation : Relation)
    (h : ∀ n ∈ (lookup? key groups).getD [], ∃ id, n = .record id ∧ P id) :
    Node.Leads P (theirItems relation groups key) := by
  unfold theirItems
  dsimp only
  split
  · exact Node.leads_head h
  · exact Node.leads_list h

/-- Whatever its kind, a relation has keys lead only to records that were made of the rows found. -/
theorem inHand_admits (ideal : Ideal δ db) (hid : target.IntegerId) {relation : Relation} {hand : (Value → Node) × List Node}
    (h : Gives (inHand s relation target fields filter keys) w hand w') : w.store.Grows w'.store ∧
      ∀ v, (hand.1 v).Leads (Admitted db s target.name filter w.store w'.store) := by
  rcases inHand_gives h with ⟨key, related, _, hrelated, rfl⟩ | ⟨key, rows, groups, _, hrows, hgroups, rfl⟩ |
    ⟨table, sourceKey, targetKey, found, _, hfound, rfl⟩
  · obtain ⟨hgrows, hadmitted⟩ := ownRelated_admits ideal hid hrelated
    exact ⟨hgrows, leads_related hadmitted⟩
  · obtain ⟨made, source, rfl, hgrows, hmade, _, _⟩ := theirRows_made ideal hid hrows hgroups
    exact ⟨hgrows, fun v => leads_theirItems relation (leads_group source (fun m hm => (hmade m hm).1) v)⟩
  · obtain ⟨made, source, hgroups, hgrows, hmade, _, _⟩ := throughRows_made ideal hid hfound
    refine ⟨hgrows, fun v => ?_⟩
    rw [hgroups]
    exact Node.leads_list (leads_group source hmade v)

/-- A load attaches records that have the ids of rows which meet its filter, and changes nothing else. -/
theorem load_gives (ideal : Ideal δ db) (ids : s.IntegerIds) {entity name : String} {records out : List Node}
    (h : Gives (load s entity records name fields filter) w out w') :
    ∃ relation, s.relation? entity name = some relation ∧ name ≠ "id" ∧
      w.store.Attaches w'.store records name (Admitted db s relation.target filter w.store w'.store) := by
  obtain ⟨relation, target, hr, ht⟩ := load_known h
  obtain ⟨_, hand, w₁, hhand, hattach, _⟩ := (load_iff hr ht).mp h
  obtain ⟨rfl, e, he, hmem⟩ := Schema.mem_of_relation? hr
  have hname : relation.name ≠ "id" := (ids e he).2.2 relation hmem
  refine ⟨relation, hr, hname, ?_⟩
  rw [← Schema.name_of_entity? ht]
  obtain ⟨hgrows, hleads⟩ := inHand_admits ideal (ids target (Schema.mem_of_entity? ht)) hhand
  exact attaches_of_loop hname hgrows hleads hattach

end Loader

end EntityViews
