import EntityViews.Learning.Entities
import EntityViews.Learning.Sources
import EntityViews.Proofs.Gathering
import EntityViews.Proofs.RecordsInHand

/-!
Batches of records that a relation is loaded onto. Main statement: whatever other records are in the batch, a record gets
the rows that are linked to its own key and that the filter is true of, and a row is the same record wherever it is got.
-/

namespace EntityViews

open Sql

def Link.attached (link : Link) (items : List Node) : Node := if link.isToOne then items.headD .null else .list items

namespace Loader

variable {δ : Type} {db : Contents} {s : Schema} {relation : Relation} {target : Entity} {link : Link}
  {names : List String} {fields : Option (List String)} {filter : Value} {draft : Select} {ids : List Value} {base : Nat}
  {store : Store} {w : World δ}

def HasReference (store : Store) (field : String) (n : Node) : Prop :=
  ∃ id k, n = .record id ∧ id < store.records.size ∧ store.keyAt id field = .ok k ∧ k.isReference = true

theorem HasReference.hasKey {field : String} {n : Node} (h : HasReference store field n) : HasKey store field n := by
  obtain ⟨id, k, hn, _, hk, _⟩ := h
  exact ⟨id, k, hn, hk⟩

theorem HasReference.of_keyAt {field : String} {id : Nat} {k : Value} (h : HasReference store field (.record id))
    (hk : store.keyAt id field = .ok k) : id < store.records.size ∧ k.isReference = true := by
  obtain ⟨other, k', he, hlt, hk', href⟩ := h
  cases he
  cases hk.symm.trans hk'
  exact ⟨hlt, href⟩

def keysAsked (store : Store) (field : String) (records : List Node) : List Value :=
  distinctKeys (records.filterMap (ownKey? store field))

/-- A record adds its key to those that are asked for unless the key is nothing. -/
theorem ownKey?_eq_some {field : String} {n : Node} {k : Value} (h : ownKey? store field n = some k) :
    ∃ id, n = .record id ∧ store.keyAt id field = .ok k ∧ k ≠ .null := by
  cases n with
  | record id =>
    rw [ownKey?] at h
    split at h
    · cases h
    · rename_i key hne hkey
      cases h
      exact ⟨id, rfl, hkey, hne⟩
    · cases h
  | scalar | list | tuple | set => cases h

/-- The keys that are asked for are those of the records that are not nothing. -/
theorem mem_keysAsked {field : String} {records : List Node} (h : ∀ n ∈ records, HasReference store field n) {k : Value} :
    k ∈ keysAsked store field records ↔ ∃ id, .record id ∈ records ∧ store.keyAt id field = .ok k ∧ k ≠ .null := by
  have hall : ∀ k ∈ records.filterMap (ownKey? store field), k.isReference = true := by
    intro k hk
    obtain ⟨n, hn, hkey⟩ := List.mem_filterMap.mp hk
    obtain ⟨id, rfl, hat, _⟩ := ownKey?_eq_some hkey
    exact ((h _ hn).of_keyAt hat).2
  rw [keysAsked, mem_distinctKeys_iff hall, List.mem_filterMap]
  constructor
  · rintro ⟨n, hn, hkey⟩
    obtain ⟨id, rfl, hat, hne⟩ := ownKey?_eq_some hkey
    exact ⟨id, hn, hat, hne⟩
  · rintro ⟨id, hn, hat, hne⟩
    exact ⟨_, hn, ownKey?_of_keyAt hat hne⟩

theorem keysAsked_references {field : String} {records : List Node} (h : ∀ n ∈ records, HasReference store field n) :
    ∀ k ∈ keysAsked store field records, k.isReference = true := by
  intro k hk
  obtain ⟨id, hn, hat, _⟩ := (mem_keysAsked h).mp hk
  exact ((h _ hn).of_keyAt hat).2

/-- What is in hand before anything is attached: after at most one statement, the records to attach for each key. -/
structure Spread (db : Contents) (s : Schema) (relation : Relation) (target : Entity) (names : List String)
    (filter : Value) (ids : List Value) (w w₁ : World δ) (f : Value → Node) : Prop where
  grows : w.store.Grows w₁.store
  none : ids = [] → w₁.actions = w.actions
  one : ids ≠ [] → ∃ sel, w₁.actions = w.actions.push (.execute (.select sel))
  stock : ∃ hits, Stock db s target relation.link names filter ids w.store.records.size w₁.store hits ∧
    ∀ v, f v = relation.link.attached (items hits v)

/-- Without keys nothing is asked, and nothing is in hand. -/
theorem spread_nothing {f : Value → Node} (hids : ids = []) (hf : ∀ v, f v = relation.link.attached []) :
    Spread db s relation target names filter ids w w f := by
  refine ⟨.refl _, fun _ => rfl, fun hne => absurd hids hne, [], ⟨nofun, nofun, nofun, ?_⟩, hf⟩
  intro v _ hmem
  have hnull : v = .null := by
    by_contra hne
    rw [hids] at hmem
    exact absurd (hmem hne) List.not_mem_nil
  rw [hnull, Contents.rowsFor_null]
  rfl

theorem spread_stock {f : Value → Node} {hits : List Hit} {sel : Select} {w₁ : World δ} (hids : ids ≠ [])
    (hactions : w₁.actions = w.actions.push (.execute (.select sel))) (hgrows : w.store.Grows w₁.store)
    (hstock : Stock db s target relation.link names filter ids w.store.records.size w₁.store hits)
    (hf : ∀ v, f v = relation.link.attached (items hits v)) : Spread db s relation target names filter ids w w₁ f :=
  ⟨hgrows, fun hnil => absurd hnil hids, fun _ => ⟨sel, hactions⟩, hits, hstock, hf⟩

def Prepares (db : Contents) (s : Schema) (relation : Relation) (target : Entity) (names : List String) (filter : Value)
    (key : String) (records : List Node) (w : World δ) (load : Run δ (List Node)) : Prop :=
  ∃ w₁ f out, Spread db s relation target names filter (keysAsked w.store key records) w w₁ f ∧
    ∀ w', Gives (records.forM fun r => do Run.setField r relation.name (f (← keyOf r key))) w₁ ⟨⟩ w' → Gives load w out w'

def Supplies (db : Contents) (s : Schema) (relation : Relation) (target : Entity) (names : List String) (filter : Value)
    (ids : List Value) (w : World δ) (hand : Run δ ((Value → Node) × List Node)) : Prop :=
  ∃ w₁ f out, Spread db s relation target names filter ids w w₁ f ∧ Gives hand w (f, out) w₁

def attachment (db : Contents) (s : Schema) (target : Entity) (link : Link) (names : List String) (filter k : Value) :
    Value :=
  let found := (db.rowsFor s target.name link filter k).map (db.recordOf target link names)
  if link.isToOne then found.headD .null else .list found

/-- Whether a record has got what is linked to a key, made of one record for each row. -/
structure Receives (db : Contents) (s : Schema) (relation : Relation) (target : Entity) (names : List String) (filter : Value)
    (base : Nat) (store : Store) (object : Row → Nat) (i : Nat) (k : Value) : Prop where
  node : store.get? i (.text relation.name) = some (relation.link.attached
    ((db.rowsFor s target.name relation.link filter k).map fun t => .record (object t)))
  value : store.Reads base (relation.link.attached
    ((db.rowsFor s target.name relation.link filter k).map fun t => .record (object t)))
    (attachment db s target relation.link names filter k)

/-- What a record has got along a link to many: the records of the rows, one after the other. -/
theorem Receives.many {object : Row → Nat} {i : Nat} {k : Value} {rows : List Row}
    (h : Receives db s relation target names filter base store object i k) (hmany : relation.link.isToOne = false)
    (hrows : db.rowsFor s target.name relation.link filter k = rows) :
    store.get? i (.text relation.name) = some (.list (rows.map fun t => .record (object t))) ∧
      ∀ t ∈ rows, store.Reads base (.record (object t)) (db.recordOf target relation.link names t) := by
  have hattached : ∀ items, relation.link.attached items = .list items := by
    intro items
    rw [Link.attached, hmany]
    rfl
  have hnode := h.node
  have hvalue := h.value
  rw [attachment, hmany, hattached, hrows] at hvalue
  rw [hattached, hrows] at hnode
  refine ⟨hnode, ?_⟩
  cases hvalue with
  | list hitems => exact hitems.of_map

/-- Whether the database was asked for one statement if some record has a key, and for nothing if none has one. -/
def AsksOnce (w w' : World δ) (field : String) (records : List Node) : Prop :=
  ((∀ i, .record i ∈ records → w.store.keyAt i field = .ok .null) → w'.actions = w.actions) ∧
    ((∃ i k, .record i ∈ records ∧ w.store.keyAt i field = .ok k ∧ k ≠ .null) →
      ∃ sel, w'.actions = w.actions.push (.execute (.select sel)))

/-- What is attached for linked rows reads as their records, or as the first one for a relation to one. -/
theorem reads_attached {object : Row → Nat} {rows : List Row}
    (h : ∀ t ∈ rows, store.Reads base (.record (object t)) (db.recordOf target link names t)) :
    store.Reads base (link.attached (rows.map fun t => .record (object t)))
      (if link.isToOne then (rows.map (db.recordOf target link names)).headD .null
        else .list (rows.map (db.recordOf target link names))) := by
  rw [Link.attached]
  split
  · cases rows with
    | nil => exact .scalar .null
    | cons t rest => exact h t List.mem_cons_self
  · refine .list ?_
    induction rows with
    | nil => exact .nil
    | cons t rest ih => exact .cons (h t List.mem_cons_self) (ih fun u hu => h u (List.mem_cons_of_mem _ hu))

section Runs

variable [Engine δ] (steady : Steady δ db) (h : Loadable db relation target fields draft)
include steady h

omit steady h in
/-- Without a key nothing is asked for, and every key leads to nothing. -/
theorem inHand_nothing (s : Schema) (relation : Relation) (target : Entity) (names : List String)
    (fields : Option (List String)) (filter : Value) (w : World δ) :
    Supplies db s relation target names filter [] w (inHand s relation target fields filter []) := by
  refine ⟨w, fun _ => relation.link.attached [], [], spread_nothing rfl fun _ => rfl, ?_⟩
  unfold inHand
  cases hl : relation.link with
  | manyToOne key | oneToOne key =>
    exact Gives.bind_iff.mpr ⟨[], w, Gives.pure_iff.mpr ⟨rfl, rfl⟩, Gives.pure_iff.mpr ⟨rfl, rfl⟩⟩
  | oneToMany key | oneToOneInverse key =>
    refine Gives.bind_iff.mpr ⟨[], w, Gives.pure_iff.mpr ⟨rfl, rfl⟩, ?_⟩
    refine Gives.bind_iff.mpr ⟨[], w, Gives.foldlM_nil_iff.mpr ⟨rfl, rfl⟩, Gives.pure_iff.mpr ⟨?_, rfl⟩⟩
    rw [← hl]
    rfl
  | manyToMany table sourceKey targetKey =>
    exact Gives.bind_iff.mpr ⟨([], []), w, Gives.pure_iff.mpr ⟨rfl, rfl⟩, Gives.pure_iff.mpr ⟨rfl, rfl⟩⟩

variable (hids : ids ≠ []) (hreferences : ∀ k ∈ ids, k.isReference = true)
  (haccepted : ∃ c n, Gives (Condition.ofFilter s target.name (.row mainRow) filter) w.nextAlias c n)
include hids hreferences haccepted

/-- The records that foreign keys on the parents lead to are had by their ids. -/
theorem inHand_ownKey {key : String} (hlink : relation.link = .manyToOne key ∨ relation.link = .oneToOne key) :
    Supplies db s relation target draft.labels filter ids w (inHand s relation target fields filter ids) := by
  obtain ⟨q₀, hq₀, _⟩ := h.query
  -- Both kinds of links have the key on the parents and differ in nothing that a load goes by.
  have hattached : ∀ nodes, relation.link.attached nodes = nodes.headD .null := by
    intro nodes
    rcases hlink with hl | hl <;> rw [hl] <;> rfl
  have hfetched : fetched relation.link fields = fields := by
    rcases hlink with hl | hl <;> rw [hl] <;> rfl
  have hsorts : sorts relation = [] := by
    rw [sorts]
    rcases hlink with hl | hl <;> rw [hl]
  have hlinks : db.links target.name relation.link = (db.rows target.name).map fun t => (t Name.id.text, t) := by
    rcases hlink with hl | hl <;> rw [hl] <;> rfl
  have hcells : ∀ names t, db.cells target relation.link names t =
      collect (names.map fun name => (Value.text name, db.field target t name)) := by
    intro names t
    rcases hlink with hl | hl <;> rw [hl] <;> rfl
  obtain ⟨clauses, n, hquery, hr⟩ := queryFor_runs h.id (hfetched ▸ hq₀) haccepted
  obtain ⟨sel, hits, w₁, hb, hfetch, hactions, hgrows, hrows, hkeys, hstock⟩ :=
    fetch_runs steady h hq₀ hr hlinks hcells hreferences { w with nextAlias := n }
  rw [hsorts, List.append_nil] at hb
  let related := hits.map fun hit => (hit.key, Node.record hit.record)
  have hrelated : Gives (ownRelated s target fields filter ids) w related w₁ := by
    unfold ownRelated
    rw [if_neg (mt List.isEmpty_iff.mp hids)]
    refine Gives.bind_iff.mpr ⟨_, _, hquery, ?_⟩
    refine Gives.bind_iff.mpr ⟨sel, _, Gives.lift_iff.mpr ⟨hb, rfl⟩, ?_⟩
    exact Gives.bind_iff.mpr ⟨_, _, hfetch, h.byField_runs hkeys hrows hstock⟩
  refine ⟨w₁, fun v => (lookup? v related).getD .null, related.map (·.2),
    spread_stock hids hactions hgrows hstock fun v => (items_lookup hits v).trans (hattached _).symm, ?_⟩
  unfold inHand
  rcases hlink with hl | hl <;> rw [hl] <;>
    exact Gives.bind_iff.mpr ⟨_, _, hrelated, Gives.pure_iff.mpr ⟨rfl, rfl⟩⟩

omit [Engine δ] steady hids hreferences haccepted in
/-- Records that were made of rows still have the keys of these rows, by which they are put into groups. -/
theorem groups_runs {key : String} {hits : List Hit} {w₁ : World δ} (htarget : relation.link.targetKey? = some key)
    (hlinks : db.links target.name relation.link = (db.rows target.name).map fun t => (t key, t))
    (hkeys : ∀ hit ∈ hits, hit.key = hit.row key)
    (hstock : Stock db s target relation.link draft.labels filter ids base w₁.store hits) :
    Gives ((hits.map fun hit => Node.record hit.record).foldlM
      (fun groups row => do return addToGroup groups (← keyOf row key) row) []) w₁
      (groupsOf (hits.map fun hit => (hit.key, Node.record hit.record))) w₁ := by
  rw [groupsOf, List.foldl_map]
  refine Gives.foldlM_runs ?_ []
  intro groups hit hhit
  have hrow := hstock.rows hit hhit
  have href : (hit.row key).isReference = true := by
    refine h.referable.keys (hit.row key, hit.row) ?_
    rw [hlinks]
    exact List.mem_map_of_mem (f := fun t => (t key, t)) hrow
  obtain ⟨node, hget, hkey⟩ := h.reads_key htarget (h.mem_selection htarget) hrow href (hstock.reads hit hhit)
  have hat : w₁.store.keyAt hit.record key = .ok hit.key := by
    rw [Store.keyAt, hget, hkeys hit hhit]
    exact hkey
  exact Gives.bind_iff.mpr ⟨hit.key, w₁, keyOf_runs hat, Gives.pure_iff.mpr ⟨rfl, rfl⟩⟩

/-- The records that have foreign keys to the parents are had by these keys. -/
theorem inHand_theirKey {key : String} (hlink : relation.link = .oneToMany key ∨ relation.link = .oneToOneInverse key) :
    Supplies db s relation target draft.labels filter ids w (inHand s relation target fields filter ids) := by
  obtain ⟨q₀, hq₀, _⟩ := h.query
  have htarget : relation.link.targetKey? = some key := by
    rcases hlink with hl | hl <;> rw [hl] <;> rfl
  -- The key is selected besides, so that the records can be put into groups by it.
  have hfetched : fetched relation.link fields = fields.map (· ++ [key]) := by
    rcases hlink with hl | hl <;> rw [hl] <;> rfl
  have hsorts : sorts relation = sortKeys relation := by
    rw [sorts]
    rcases hlink with hl | hl <;> rw [hl]
  obtain ⟨name, hname⟩ : ∃ name, Name.make? key = .ok name := by
    refine h.names key ?_
    rcases hlink with hl | hl <;> rw [hl] <;> exact List.mem_singleton_self key
  obtain rfl : name.text = key := Name.text_of_ofText? hname
  have hlinks : db.links target.name relation.link = (db.rows target.name).map fun t => (t name.text, t) := by
    rcases hlink with hl | hl <;> rw [hl] <;> rfl
  have hcells : ∀ names t, db.cells target relation.link names t =
      collect (names.map fun name => (Value.text name, db.field target t name)) := by
    intro names t
    rcases hlink with hl | hl <;> rw [hl] <;> rfl
  obtain ⟨clauses, n, hquery, hr⟩ := queryFor_runs h.id (hfetched ▸ hq₀) haccepted
  obtain ⟨sel, hits, w₁, hb, hfetch, hactions, hgrows, _, hkeys, hstock⟩ :=
    fetch_runs steady h hq₀ hr hlinks hcells hreferences { w with nextAlias := n }
  rw [hsorts] at hb
  have hrows : Gives (theirRows s relation name.text target fields filter ids) w
      (hits.map fun hit => Node.record hit.record) w₁ := by
    unfold theirRows
    rw [if_neg (mt List.isEmpty_iff.mp hids)]
    refine Gives.bind_iff.mpr ⟨_, _, hquery, ?_⟩
    refine Gives.bind_iff.mpr ⟨name, _, Gives.lift_iff.mpr ⟨hname, rfl⟩, ?_⟩
    exact Gives.bind_iff.mpr ⟨sel, _, Gives.lift_iff.mpr ⟨hb, rfl⟩, hfetch⟩
  have hgroups := groups_runs h htarget hlinks hkeys hstock
  refine ⟨w₁, theirItems relation (groupsOf (hits.map fun hit => (hit.key, Node.record hit.record))),
    hits.map fun hit => Node.record hit.record,
    spread_stock hids hactions hgrows hstock fun v => congrArg relation.link.attached (items_groups hits v), ?_⟩
  unfold inHand
  rcases hlink with hl | hl <;> rw [hl] <;>
    exact Gives.bind_iff.mpr ⟨_, _, hrows, Gives.bind_iff.mpr ⟨_, _, hgroups, Gives.pure_iff.mpr ⟨rfl, rfl⟩⟩⟩

/-- The records that a table of its own links to the parents are had through this table. -/
theorem inHand_through {table sourceKey targetKey : String}
    (hlink : relation.link = .manyToMany table sourceKey targetKey) :
    Supplies db s relation target draft.labels filter ids w (inHand s relation target fields filter ids) := by
  obtain ⟨q₀, hq₀, _⟩ := h.query
  have hattached : ∀ nodes, relation.link.attached nodes = .list nodes := by
    intro nodes
    rw [hlink]
    rfl
  have hfetched : fetched relation.link fields = fields := by
    rw [hlink]
    rfl
  obtain ⟨tableName, htable⟩ := h.names table (by rw [hlink]; simp [Link.names])
  obtain ⟨source, hsource⟩ := h.names sourceKey (by rw [hlink]; simp [Link.names])
  obtain ⟨column, hcolumn⟩ := h.names targetKey (by rw [hlink]; simp [Link.names])
  have hlink' : relation.link = .manyToMany tableName.text source.text column.text := by
    rw [Name.text_of_ofText? htable, Name.text_of_ofText? hsource, Name.text_of_ofText? hcolumn, hlink]
  obtain ⟨clauses, n, hquery, hr⟩ := queryFor_runs h.id (hfetched ▸ hq₀) haccepted
  obtain ⟨sel, answer, rows, w₁, state, hits, store, hb, hanswer, hnamed, hgather, hactions, hgrows, hgroups, hstock⟩ :=
    join_runs h steady hlink' (hfetched ▸ hq₀) hr hreferences { w with nextAlias := n }
  have hfound : Gives (throughRows s relation table sourceKey targetKey target fields filter ids) w state
      { w₁ with store := store } := by
    unfold throughRows
    rw [if_neg (mt List.isEmpty_iff.mp hids)]
    refine Gives.bind_iff.mpr ⟨_, _, hquery, ?_⟩
    refine Gives.bind_iff.mpr ⟨source, _, Gives.lift_iff.mpr ⟨hsource, rfl⟩, ?_⟩
    refine Gives.bind_iff.mpr ⟨tableName, _, Gives.lift_iff.mpr ⟨htable, rfl⟩, ?_⟩
    refine Gives.bind_iff.mpr ⟨column, _, Gives.lift_iff.mpr ⟨hcolumn, rfl⟩, ?_⟩
    refine Gives.bind_iff.mpr ⟨sel, _, Gives.lift_iff.mpr ⟨hb, rfl⟩, ?_⟩
    refine Gives.bind_iff.mpr ⟨_, _, hanswer, ?_⟩
    exact Gives.bind_iff.mpr ⟨_, _, Gives.lift_iff.mpr ⟨hnamed, rfl⟩, hgather⟩
  refine ⟨{ w₁ with store := store }, fun v => .list ((lookup? v state.2).getD []), state.1.map (·.2),
    spread_stock hids hactions hgrows hstock fun v => ?_, ?_⟩
  · rw [hattached, hgroups, items_groups]
  · unfold inHand
    rw [hlink]
    exact Gives.bind_iff.mpr ⟨_, _, hfound, Gives.pure_iff.mpr ⟨rfl, rfl⟩⟩

omit hids in
/-- Along each kind of link, what a load has in hand for a key is what is linked to it. -/
theorem inHand_supplies :
    Supplies db s relation target draft.labels filter ids w (inHand s relation target fields filter ids) := by
  by_cases hids : ids = []
  · rw [hids]
    exact inHand_nothing s relation target draft.labels fields filter w
  · cases hl : relation.link with
    | manyToOne key => exact inHand_ownKey steady h hids hreferences haccepted (.inl hl)
    | oneToOne key => exact inHand_ownKey steady h hids hreferences haccepted (.inr hl)
    | oneToMany key => exact inHand_theirKey steady h hids hreferences haccepted (.inl hl)
    | oneToOneInverse key => exact inHand_theirKey steady h hids hreferences haccepted (.inr hl)
    | manyToMany table sourceKey targetKey => exact inHand_through steady h hids hreferences haccepted hl

omit hids hreferences in
/-- All kinds of relations end in the same loop, over what is in hand for each key. -/
theorem load_runs {entity : String} {records : List Node} (hr : s.relation? entity relation.name = some relation)
    (ht : s.entity? relation.target = some target)
    (hrecords : ∀ n ∈ records, HasReference w.store relation.link.ownKey n) :
    Prepares db s relation target draft.labels filter relation.link.ownKey records w
      (load s entity records relation.name fields filter) := by
  obtain ⟨w₁, f, out, hspread, hhand⟩ := inHand_supplies steady h (keysAsked_references hrecords) haccepted
  refine ⟨w₁, f, out, hspread, fun w' hloop => (load_iff hr ht).mpr ⟨?_, (f, out), w₁, hhand, hloop, rfl⟩⟩
  exact keysOf_runs fun n hn => (hrecords n hn).hasKey

omit hids hreferences haccepted

/-- What a load comes to: each record has what is linked to its key, made of one record for each row, and the database was
asked once if any record has a key at all. -/
theorem load_spreads {entity : String} {records : List Node} (hr : s.relation? entity relation.name = some relation)
    (ht : s.entity? relation.target = some target)
    (haccepted : ∃ c n, Gives (Condition.ofFilter s target.name (.row mainRow) filter) w.nextAlias c n)
    (hrecords : ∀ n ∈ records, HasReference w.store relation.link.ownKey n)
    (hdistinct : relation.name = relation.link.ownKey → records.Nodup) :
    ∃ (out : List Node) (w' : World δ) (object : Row → Nat),
      Gives (load s entity records relation.name fields filter) w out w' ∧
      (∀ i k, .record i ∈ records → w.store.keyAt i relation.link.ownKey = .ok k →
        Receives db s relation target draft.labels filter w.store.records.size w'.store object i k) ∧
      AsksOnce w w' relation.link.ownKey records := by
  obtain ⟨w₁, f, out, hspread, hrun⟩ := load_runs steady h haccepted hr ht hrecords
  have hsame : ∀ id < w.store.records.size,
      w₁.store.keyAt id relation.link.ownKey = w.store.keyAt id relation.link.ownKey := by
    intro id hlt
    apply Store.keyAt_congr
    rw [Store.get?, Store.get?, hspread.grows.2 id hlt]
  have hkeys : ∀ n ∈ records, HasKey w₁.store relation.link.ownKey n := by
    intro n hn
    obtain ⟨id, k, rfl, hlt, hk, _⟩ := hrecords n hn
    exact ⟨id, k, rfl, (hsame id hlt).trans hk⟩
  obtain ⟨store, hloop, hsize, hkept, hall⟩ := attach_runs f (fun he => hdistinct he.symm) hkeys
  obtain ⟨hits, hstock, hf⟩ := hspread.stock
  obtain ⟨object, hobject⟩ := hstock.objects h.referable
  -- New records are none of those that something is attached to.
  have hnew : w₁.store.KeepsFrom w.store.records.size store := by
    refine ⟨Nat.le_of_eq hsize.symm, ?_⟩
    intro i hi _
    refine hkept i ?_
    intro hn
    obtain ⟨id, k, he, hlt, _⟩ := hrecords _ hn
    cases he
    omega
  refine ⟨out, { w₁ with store := store }, object, hrun _ hloop, ?_, ?_⟩
  · intro i k hi hk
    obtain ⟨hlt, href⟩ := (hrecords _ hi).of_keyAt hk
    have hasked : k ≠ .null → k ∈ keysAsked w.store relation.link.ownKey records :=
      fun hne => (mem_keysAsked hrecords).mpr ⟨i, hi, hk, hne⟩
    obtain ⟨hitems, hreads⟩ := hobject k href hasked
    have hget := hall i k hi (Nat.lt_of_lt_of_le hlt hspread.grows.1) ((hsame i hlt).trans hk)
    rw [hf, hitems] at hget
    exact ⟨hget, reads_attached fun t ht => (hreads t ht).kept hnew⟩
  · constructor
    · intro hnull
      refine hspread.none (List.eq_nil_iff_forall_not_mem.mpr ?_)
      intro k hk
      obtain ⟨i, hi, hat, hne⟩ := (mem_keysAsked hrecords).mp hk
      exact hne (Except.ok.inj (hat.symm.trans (hnull i hi)))
    · rintro ⟨i, k, hi, hat, hne⟩
      refine hspread.one ?_
      intro hnil
      have hmem := (mem_keysAsked hrecords).mpr ⟨i, hi, hat, hne⟩
      rw [hnil] at hmem
      exact absurd hmem List.not_mem_nil

/-- A batch of records gets what each of them gets alone: the rows that are linked to its own key and that the filter is
true of, a row being one record for all that get it; one statement is enough if any record has a key. Records may be given
again, unless the relation goes by the name of the key, in whose place it would stand the second time. -/
theorem load_batch {entity : String} {records : List Node} (hr : s.relation? entity relation.name = some relation)
    (ht : s.entity? relation.target = some target)
    (haccepted : ∃ c n, Gives (Condition.ofFilter s target.name (.row mainRow) filter) w.nextAlias c n)
    (hrecords : ∀ n ∈ records, HasReference w.store relation.link.ownKey n)
    (hdistinct : relation.name = relation.link.ownKey → records.Nodup) :
    ∃ (out : List Node) (w' : World δ) (object : Row → Nat),
      Gives (load s entity records relation.name fields filter) w out w' ∧
      AsksOnce w w' relation.link.ownKey records ∧
      ∀ i k, .record i ∈ records → w.store.keyAt i relation.link.ownKey = .ok k →
        Receives db s relation target draft.labels filter w.store.records.size w'.store object i k ∧
        ∃ (out₁ : List Node) (w₁ : World δ) (object₁ : Row → Nat),
          Gives (load s entity [.record i] relation.name fields filter) w out₁ w₁ ∧
          Receives db s relation target draft.labels filter w.store.records.size w₁.store object₁ i k := by
  obtain ⟨out, w', object, hload, hreceived, hasks⟩ := load_spreads steady h hr ht haccepted hrecords hdistinct
  refine ⟨out, w', object, hload, hasks, ?_⟩
  intro i k hi hk
  refine ⟨hreceived i k hi hk, ?_⟩
  have halone : ∀ n ∈ [Node.record i], HasReference w.store relation.link.ownKey n :=
    List.forall_mem_singleton.mpr (hrecords _ hi)
  obtain ⟨out₁, w₁, object₁, hload₁, hreceived₁, _⟩ :=
    load_spreads steady h hr ht haccepted halone fun _ => List.nodup_singleton _
  exact ⟨out₁, w₁, object₁, hload₁, hreceived₁ i k (List.mem_singleton_self _) hk⟩

end Runs

def reader (id : Int) (bio : String) (isPublic : Int) : Row :=
  .ofCells [("id", .int id), ("userId", .int (id + 10)), ("bio", .text bio), ("isPublic", .int isPublic)]

def bookmark (collection reader : Int) : Row := .ofCells [("collectionId", .int collection), ("bookmarkerId", .int reader)]

def sharedReader : Contents := .ofTables [
  ("Profile", [reader 7 "bee" 1, reader 8 "owl" 1, reader 9 "fox" 0]),
  ("CollectionBookmark", [bookmark 1 7, bookmark 1 8, bookmark 2 7, bookmark 2 9, bookmark 2 7])]

def bookmarkers : Relation :=
  ⟨"bookmarkers", "Profile", .manyToMany "CollectionBookmark" "collectionId" "bookmarkerId", []⟩

def collections : World (Snapshot sharedReader) :=
  { World.start ⟨⟩ Learning.registry with
    store := ⟨#[[(.text "id", .scalar (.int 1))], [(.text "id", .scalar (.int 1))], [(.text "id", .scalar (.int 2))],
      [(.text "id", .null)]]⟩ }

def publicReaders : Value := .map [(.text "isPublic", .bool true)]

def loadReaders (records : List Node) : Run (Snapshot sharedReader) (List Node) :=
  load Learning.schema "Collection" records "bookmarkers" (some ["bio"]) publicReaders

def readerRecord (id : Int) (bio : String) : Value :=
  .map [(.text "id", .int id), (.text "bio", .text bio), (.text "userId", .int (id + 10))]

/-- A reader is one record for all collections, also for the one that is marked twice; each collection, be it given twice,
gets what it gets alone. -/
theorem load_batch_sharedReader :
    ∃ (out out₂ : List Node) (w w₂ : World (Snapshot sharedReader)) (bee owl bee₂ : Nat),
      Gives (loadReaders [.record 0, .record 1, .record 2, .record 0, .record 3]) collections out w ∧
      (∃ sel, w.actions = #[.execute (.select sel)]) ∧
      (∀ i ∈ [0, 1], w.store.get? i (.text "bookmarkers") = some (.list [.record bee, .record owl])) ∧
      w.store.get? 2 (.text "bookmarkers") = some (.list [.record bee, .record bee]) ∧
      w.store.get? 3 (.text "bookmarkers") = some (.list []) ∧
      w.store.Reads 4 (.record bee) (readerRecord 7 "bee") ∧ w.store.Reads 4 (.record owl) (readerRecord 8 "owl") ∧
      Gives (loadReaders [.record 2]) collections out₂ w₂ ∧
      w₂.store.get? 2 (.text "bookmarkers") = some (.list [.record bee₂, .record bee₂]) ∧
      w₂.store.Reads 4 (.record bee₂) (readerRecord 7 "bee") := by
  obtain ⟨draft, hloadable⟩ := loadable_of_check (fun _ _ => rfl)
    (show loadable sharedReader bookmarkers Learning.profile (some ["bio"]) = true by decide +kernel)
  have hlabels : draft.labels = ["id", "bio", "userId"] := by
    have hdraft : (Loader.draft bookmarkers Learning.profile (some ["bio"])).map Select.labels =
        .ok ["id", "bio", "userId"] := by
      with_unfolding_all rfl
    rw [hloadable.drafted] at hdraft
    exact Except.ok.inj hdraft
  obtain ⟨c, n, haccepted, _⟩ : ∃ c n, Gives (Condition.ofFilter Learning.schema "Profile" (.row mainRow) publicReaders)
      collections.nextAlias c n ∧ (fun _ _ => true) c n = true := Gives.of_check (by decide +kernel)
  have hrecords : ∀ n ∈ [Node.record 0, .record 1, .record 2, .record 0, .record 3],
      HasReference collections.store "id" n := by
    have hfirst : HasReference collections.store "id" (.record 0) := ⟨0, .int 1, rfl, by decide, rfl, rfl⟩
    have hagain : HasReference collections.store "id" (.record 1) := ⟨1, .int 1, rfl, by decide, rfl, rfl⟩
    have hother : HasReference collections.store "id" (.record 2) := ⟨2, .int 2, rfl, by decide, rfl, rfl⟩
    have hnone : HasReference collections.store "id" (.record 3) := ⟨3, .null, rfl, by decide, rfl, rfl⟩
    simp only [List.forall_mem_cons]
    exact ⟨hfirst, hagain, hother, hfirst, hnone, nofun⟩
  obtain ⟨out, w, object, hload, hasks, hall⟩ := load_batch (steady_snapshot sharedReader) hloadable
    (show Learning.schema.relation? "Collection" "bookmarkers" = some bookmarkers from rfl)
    (show Learning.schema.entity? "Profile" = some Learning.profile from rfl) ⟨c, n, haccepted⟩ hrecords nofun
  rw [hlabels] at hall
  -- The public readers of each collection, as the tables have them.
  have hone : sharedReader.rowsFor Learning.schema "Profile" bookmarkers.link publicReaders (.int 1) =
      [reader 7 "bee" 1, reader 8 "owl" 1] := by
    with_unfolding_all rfl
  have htwo : sharedReader.rowsFor Learning.schema "Profile" bookmarkers.link publicReaders (.int 2) =
      [reader 7 "bee" 1, reader 7 "bee" 1] := by
    with_unfolding_all rfl
  have hbee : sharedReader.recordOf Learning.profile bookmarkers.link ["id", "bio", "userId"] (reader 7 "bee" 1) =
      readerRecord 7 "bee" := by
    with_unfolding_all rfl
  have howl : sharedReader.recordOf Learning.profile bookmarkers.link ["id", "bio", "userId"] (reader 8 "owl" 1) =
      readerRecord 8 "owl" := by
    with_unfolding_all rfl
  obtain ⟨hfirst, hreads⟩ := (hall 0 (.int 1) (by simp) rfl).1.many rfl hone
  obtain ⟨hagain, _⟩ := (hall 1 (.int 1) (by simp) rfl).1.many rfl hone
  obtain ⟨hreceived, out₂, w₂, object₂, hload₂, halone⟩ := hall 2 (.int 2) (by simp) rfl
  obtain ⟨hother, _⟩ := hreceived.many rfl htwo
  obtain ⟨hsame, hreads₂⟩ := halone.many rfl htwo
  obtain ⟨hempty, _⟩ := (hall 3 .null (by simp) rfl).1.many rfl Contents.rowsFor_null
  refine ⟨out, out₂, w, w₂, object (reader 7 "bee" 1), object (reader 8 "owl" 1), object₂ (reader 7 "bee" 1), hload,
    hasks.2 ⟨0, .int 1, by simp, rfl, nofun⟩, ?_, hother, hempty, ?_, ?_, hload₂, hsame, ?_⟩
  · simp only [List.forall_mem_cons]
    exact ⟨hfirst, hagain, nofun⟩
  · exact hbee ▸ hreads _ (by simp)
  · exact howl ▸ hreads _ (by simp)
  · exact hbee ▸ hreads₂ _ (by simp)

def loanedBook : Relation := ⟨"book", "Book", .manyToOne "book", []⟩

def loan : Entity := ⟨"Loan", [Learning.key "book" "Book"], [loanedBook], []⟩

def book : Entity := ⟨"Book", [Learning.column "title" .str], [], []⟩

def lending : Schema := .ofEntities [loan, book]

def oneBook : Contents := .ofTables [("Book", [.ofCells [("id", .int 5), ("title", .text "Emma")]])]

def oneLoan : World (Snapshot oneBook) :=
  { World.start ⟨⟩ .empty with store := ⟨#[[(.text "id", .scalar (.int 1)), (.text "book", .scalar (.int 5))]]⟩ }

def loadBook (records : List Node) : Run (Snapshot oneBook) (List Node) :=
  load lending "Loan" records "book" (some ["title"]) .null

/-- A loan that is given once gets its book. Given twice, it fails: the book that it got stands in the place of its key. -/
theorem load_fails_loanTwice :
    Steady (Snapshot oneBook) oneBook ∧ (∃ draft, Loadable oneBook loanedBook book (some ["title"]) draft) ∧
    lending.relation? "Loan" "book" = some loanedBook ∧ lending.entity? "Book" = some book ∧
    (∃ c n, Gives (Condition.ofFilter lending "Book" (.row mainRow) .null) oneLoan.nextAlias c n) ∧
    HasReference oneLoan.store "book" (.record 0) ∧
    (∃ out w id, Gives (loadBook [.record 0]) oneLoan out w ∧ w.store.get? 0 (.text "book") = some (.record id)) ∧
    ¬∃ out w, Gives (loadBook [.record 0, .record 0]) oneLoan out w := by
  obtain ⟨draft, hloadable⟩ : ∃ draft, Loadable oneBook loanedBook book (some ["title"]) draft :=
    loadable_of_check (fun _ _ => rfl) (by decide +kernel)
  have hrelation : lending.relation? "Loan" "book" = some loanedBook := rfl
  have hbook : lending.entity? "Book" = some book := rfl
  have haccepted : ∃ c n, Gives (Condition.ofFilter lending "Book" (.row mainRow) .null) oneLoan.nextAlias c n :=
    ⟨_, _, rfl⟩
  have hloan : HasReference oneLoan.store "book" (.record 0) := ⟨0, .int 5, rfl, by decide, rfl, rfl⟩
  refine ⟨steady_snapshot oneBook, ⟨draft, hloadable⟩, hrelation, hbook, haccepted, hloan, ?_, ?_⟩
  · obtain ⟨out, w, object, hload, hall, _⟩ := load_spreads (steady_snapshot oneBook) hloadable hrelation hbook haccepted
      (List.forall_mem_singleton.mpr hloan) fun _ => List.nodup_singleton _
    exact ⟨out, w, _, hload, (hall 0 (.int 5) (List.mem_singleton_self _) rfl).node⟩
  · rintro ⟨out, w, hload⟩
    have hfails : ((loadBook [.record 0, .record 0]).run.run oneLoan).1.isOk = false := by decide +kernel
    rw [hload] at hfails
    cases hfails

end Loader

end EntityViews
