import EntityViews.Proofs.RowsByKey

/-!
The rows of a joined statement. A row is a record that joins the groups of all its sources: it is made for the first of
them and known by its id from then on.
-/

namespace EntityViews

open Sql

namespace Loader

variable {δ : Type} {db : Contents} {s : Schema} {relation : Relation} {target : Entity} {link : Link}
  {names : List String} {fields : Option (List String)} {filter : Value} {draft : Select} {base : Nat} {store : Store}
  {w : World δ}

/-- What is known after some rows of a joined statement: the record of each id, and the records in groups by a key. -/
structure Gathering (db : Contents) (target : Entity) (link : Link) (names : List String) (base : Nat) (key : Env → Value)
    (store : Store) (known : List (Value × Node)) (groups : List (Value × List Node)) (made : List (Env × Nat)) : Prop where
  reads : ∀ m ∈ made, store.Reads base (.record m.2) (db.recordOf target link names (m.1 mainRow))
  complete : ∀ m ∈ made, lookup? (m.1 mainRow "id") known = some (.record m.2)
  sound : ∀ v n, lookup? v known = some n → ∃ m ∈ made, n = .record m.2 ∧ (m.1 mainRow "id").same v = true
  groups : groups = groupsOf (made.map fun m => (key m.1, Node.record m.2))

/-- A row that is known already is put into the group of its key once more. -/
theorem Gathering.again {key : Env → Value} {known : List (Value × Node)} {groups : List (Value × List Node)}
    {made : List (Env × Nat)} (h : Gathering db target link names base key store known groups made) {env : Env}
    {m : Env × Nat} (hm : m ∈ made) (hrow : m.1 mainRow = env mainRow) :
    Gathering db target link names base key store known (addToGroup groups (key env) (.record m.2))
      (made ++ [(env, m.2)]) := by
  have hreads : store.Reads base (.record m.2) (db.recordOf target link names (env mainRow)) := hrow ▸ h.reads m hm
  have hknown : lookup? (env mainRow "id") known = some (.record m.2) := hrow ▸ h.complete m hm
  refine ⟨?_, ?_, ?_, ?_⟩
  · exact List.forall_mem_append.mpr ⟨h.reads, List.forall_mem_singleton.mpr hreads⟩
  · exact List.forall_mem_append.mpr ⟨h.complete, List.forall_mem_singleton.mpr hknown⟩
  · intro v n hv
    obtain ⟨m', hm', hrest⟩ := h.sound v n hv
    exact ⟨m', List.mem_append_left _ hm', hrest⟩
  · rw [List.map_append, h.groups]
    exact (groupsOf_append _ _ _).symm

/-- A row that is not known yet becomes a new record, in the group of its key. -/
theorem Gathering.anew {key : Env → Value} {known : List (Value × Node)} {groups : List (Value × List Node)}
    {made : List (Env × Nat)} (h : Gathering db target link names base key store known groups made) {env : Env} {id : Nat}
    {store' : Store} (hself : (env mainRow "id").same (env mainRow "id") = true)
    (hl : lookup? (env mainRow "id") known = none) (hgrows : store.Grows store')
    (hreads : store'.Reads base (.record id) (db.recordOf target link names (env mainRow))) :
    Gathering db target link names base key store' (assign (env mainRow "id") (.record id) known)
      (addToGroup groups (key env) (.record id)) (made ++ [(env, id)]) := by
  have hkept : ∀ m ∈ made, store'.Reads base (.record m.2) (db.recordOf target link names (m.1 mainRow)) :=
    fun m hm => (h.reads m hm).kept (hgrows.keepsFrom _)
  -- No row before had this id, so that what is known of those stays.
  have hcomplete : ∀ m ∈ made, lookup? (m.1 mainRow "id") (assign (env mainRow "id") (.record id) known) =
      some (.record m.2) := by
    intro m hm
    rw [lookup?_assign, if_neg, h.complete m hm]
    intro hsame
    have hknown := h.complete m hm
    rw [← lookup?_congr hsame, hl] at hknown
    cases hknown
  have hnew : lookup? (env mainRow "id") (assign (env mainRow "id") (.record id) known) = some (.record id) := by
    rw [lookup?_assign, if_pos hself]
  refine ⟨?_, ?_, ?_, ?_⟩
  · exact List.forall_mem_append.mpr ⟨hkept, List.forall_mem_singleton.mpr hreads⟩
  · exact List.forall_mem_append.mpr ⟨hcomplete, List.forall_mem_singleton.mpr hnew⟩
  · intro v n hv
    rw [lookup?_assign] at hv
    split at hv
    · cases hv
      exact ⟨(env, id), List.mem_append_right _ (List.mem_singleton_self _), rfl, ‹_›⟩
    · obtain ⟨m, hm, hrest⟩ := h.sound v n hv
      exact ⟨m, List.mem_append_left _ hm, hrest⟩
  · rw [List.map_append, h.groups]
    exact (groupsOf_append _ _ _).symm

section Runs

variable (h : Loadable db relation target fields draft)
include h

/-- A row of a joined statement joins the group of its source as the record of its id. -/
theorem Loadable.gatherRow_runs {key : Env → Value} {env : Env} {row : List (Value × Value)} {known : List (Value × Node)}
    {groups : List (Value × List Node)} {made : List (Env × Nat)}
    (hrow : targetRow row = db.cells target relation.link draft.labels (env mainRow))
    (hsource : lookup? (.text sourceLabel.text) row = some (key env)) (hkey : (key env).isReference = true)
    (ht : env mainRow ∈ db.rows target.name) (hdone : ∀ m ∈ made, m.1 mainRow ∈ db.rows target.name)
    (hbase : base ≤ w.store.records.size)
    (hg : Gathering db target relation.link draft.labels base key w.store known groups made) :
    ∃ state id store, Gives (gatherRow target (known, groups) row) w state { w with store := store } ∧
      w.store.Grows store ∧
      Gathering db target relation.link draft.labels base key store state.1 state.2 (made ++ [(env, id)]) := by
  obtain ⟨q₀, _, hdrafted⟩ := h.query
  obtain ⟨n, hn⟩ := h.referable.ids _ ht
  have hid : lookup? (.text "id") (targetRow row) = some (env mainRow "id") := by
    rw [hrow]
    exact Contents.lookup?_id_cells h.id hdrafted.id_mem_names
  have hsourceCell : cell row sourceLabel.text = .ok (key env) := by rw [cell, hsource]
  have hidCell : keyCell (targetRow row) "id" = .ok (env mainRow "id") := by
    rw [keyCell, cell, hid, hn]
    rfl
  have hisKey : (key env).isKey = true := by
    obtain he | ⟨m, he⟩ := Value.reference_cases hkey <;> rw [he] <;> rfl
  -- Known or new, the record is put into the group of its source in the same way.
  have hend : ∀ (id : Nat) (known' : List (Value × Node)) (w₁ : World δ),
      Gives (if (key env).isKey then return (known', addToGroup groups (key env) (.record id)) else throw .mistyped :
        Run δ (List (Value × Node) × List (Value × List Node))) w₁
        (known', addToGroup groups (key env) (.record id)) w₁ := by
    intro id known' w₁
    rw [if_pos hisKey]
    exact Gives.pure_iff.mpr ⟨rfl, rfl⟩
  cases hl : lookup? (env mainRow "id") known with
  | some node =>
    obtain ⟨m, hm, rfl, hsame⟩ := hg.sound _ node hl
    have hagain := hg.again hm (h.referable.eq_of_same (hdone m hm) ht hsame)
    refine ⟨(known, addToGroup groups (key env) (.record m.2)), m.2, w.store, ?_, .refl _, hagain⟩
    refine Gives.bind_iff.mpr ⟨_, w, Gives.lift_iff.mpr ⟨hsourceCell, rfl⟩, ?_⟩
    refine Gives.bind_iff.mpr ⟨_, w, Gives.lift_iff.mpr ⟨hidCell, rfl⟩, ?_⟩
    rw [hl]
    exact Gives.bind_iff.mpr ⟨_, w, Gives.pure_iff.mpr ⟨rfl, rfl⟩, hend m.2 known w⟩
  | none =>
    obtain ⟨id, store, hmake, hgrows, hreads⟩ := recordOfRow_runs (hrow ▸ h.fieldsOf_eq ht) w hbase
    have hself : (env mainRow "id").same (env mainRow "id") = true := by
      rw [hn]
      exact Value.same_ints.mpr rfl
    have hanew := hg.anew hself hl hgrows hreads
    refine ⟨(assign (env mainRow "id") (.record id) known, addToGroup groups (key env) (.record id)), id, store, ?_, hgrows,
      hanew⟩
    refine Gives.bind_iff.mpr ⟨_, w, Gives.lift_iff.mpr ⟨hsourceCell, rfl⟩, ?_⟩
    refine Gives.bind_iff.mpr ⟨_, w, Gives.lift_iff.mpr ⟨hidCell, rfl⟩, ?_⟩
    rw [hl]
    refine Gives.bind_iff.mpr ⟨_, _, hmake, ?_⟩
    exact Gives.bind_iff.mpr ⟨_, _, Gives.pure_iff.mpr ⟨rfl, rfl⟩, hend id _ _⟩

/-- Rows that can be made into fields are all gathered, each into the group of its key. -/
theorem Loadable.gather_runs {key : Env → Value} {row : Env → List (Value × Value)} {envs : List Env} {w : World δ}
    (hrow : ∀ env ∈ envs, targetRow (row env) = db.cells target relation.link draft.labels (env mainRow))
    (hsource : ∀ env ∈ envs, lookup? (.text sourceLabel.text) (row env) = some (key env))
    (hkey : ∀ env ∈ envs, (key env).isReference = true) (ht : ∀ env ∈ envs, env mainRow ∈ db.rows target.name) :
    ∃ (state : List (Value × Node) × List (Value × List Node)) (made : List (Env × Nat)) (store : Store),
      made.map (·.1) = envs ∧ Gives (gather target (envs.map row)) w state { w with store := store } ∧
      w.store.Grows store ∧
      Gathering db target relation.link draft.labels w.store.records.size key store state.1 state.2 made := by
  -- The loop is followed from any state in which the rows before have been gathered.
  have hrun : ∀ (envs : List Env) (w₁ : World δ) (state : List (Value × Node) × List (Value × List Node))
      (made : List (Env × Nat)), (∀ env ∈ envs,
        targetRow (row env) = db.cells target relation.link draft.labels (env mainRow) ∧
        lookup? (.text sourceLabel.text) (row env) = some (key env) ∧ (key env).isReference = true ∧
        env mainRow ∈ db.rows target.name) → (∀ m ∈ made, m.1 mainRow ∈ db.rows target.name) →
      w.store.records.size ≤ w₁.store.records.size →
      Gathering db target relation.link draft.labels w.store.records.size key w₁.store state.1 state.2 made →
      ∃ (state' : List (Value × Node) × List (Value × List Node)) (more : List (Env × Nat)) (store : Store),
        more.map (·.1) = envs ∧ Gives ((envs.map row).foldlM (gatherRow target) state) w₁ state' { w₁ with store := store } ∧
        w₁.store.Grows store ∧
        Gathering db target relation.link draft.labels w.store.records.size key store state'.1 state'.2
          (made ++ more) := by
    intro envs
    induction envs with
    | nil =>
      intro w₁ state made _ _ _ hg
      refine ⟨state, [], w₁.store, rfl, Gives.foldlM_nil_iff.mpr ⟨rfl, rfl⟩, .refl _, ?_⟩
      rwa [List.append_nil]
    | cons env rest ih =>
      intro w₁ state made henvs hdone hbase hg
      obtain ⟨hrow, hsource, hkey, ht⟩ := henvs env List.mem_cons_self
      obtain ⟨state₁, id, store₁, hfirst, hgrows, hg₁⟩ := h.gatherRow_runs hrow hsource hkey ht hdone hbase hg
      have hdone₁ : ∀ m ∈ made ++ [(env, id)], m.1 mainRow ∈ db.rows target.name :=
        List.forall_mem_append.mpr ⟨hdone, List.forall_mem_singleton.mpr ht⟩
      obtain ⟨state', more, store, rfl, hrest, hgrows', hg'⟩ := ih { w₁ with store := store₁ } state₁ (made ++ [(env, id)])
        (fun e he => henvs e (List.mem_cons_of_mem _ he)) hdone₁ (Nat.le_trans hbase hgrows.1) hg₁
      refine ⟨state', (env, id) :: more, store, rfl, Gives.foldlM_cons_iff.mpr ⟨_, _, hfirst, hrest⟩,
        hgrows.trans hgrows', ?_⟩
      rwa [List.append_assoc] at hg'
  obtain ⟨state, made, store, hmade, hgives, hgrows, hg⟩ := hrun envs w ([], []) []
    (fun env he => ⟨hrow env he, hsource env he, hkey env he, ht env he⟩) nofun (Nat.le_refl _)
    ⟨nofun, nofun, nofun, rfl⟩
  exact ⟨state, made, store, hmade, hgives, hgrows, hg⟩

/-- What a statement with a join finds becomes a stock, with one record for each row however often it is joined. -/
theorem join_runs [Engine δ] (steady : Steady δ db) {q₀ : Query} {clauses : List Clause} {table source column : Name}
    {ids : List Value} (hlink : relation.link = .manyToMany table.text source.text column.text)
    (hq₀ : selected target fields = .ok q₀) (hr : db.Restricts s target.name filter clauses)
    (hids : ∀ k ∈ ids, k.isReference = true) (w : World δ) :
    ∃ (sel : Select) (answer : Answer) (rows : List (List (Value × Value))) (w₁ : World δ)
      (state : List (Value × Node) × List (Value × List Node)) (hits : List Hit) (store : Store),
      (throughQuery relation q₀ clauses source table column ids).build = .ok sel ∧
      Gives (execute (.select sel)) w answer w₁ ∧ answer.namedRows = .ok rows ∧
      Gives (gather target rows) w₁ state { w₁ with store := store } ∧
      w₁.actions = w.actions.push (.execute (.select sel)) ∧ w.store.Grows store ∧
      state.2 = groupsOf (hits.map fun hit => (hit.key, Node.record hit.record)) ∧
      Stock db s target relation.link draft.labels filter ids w.store.records.size store hits := by
  have hfetched : fetched relation.link fields = fields := by
    rw [hlink]
    rfl
  have hsorts : sorts relation = sortKeys relation := by rw [sorts, hlink]
  obtain ⟨q₁, hq₁, hdrafted⟩ := h.query
  obtain rfl : q₀ = q₁ := Except.ok.inj (hq₀.symm.trans (hfetched ▸ hq₁))
  have hsel := hdrafted.selected
  let output : Output := .labelled (.column joinRow source) sourceLabel
  let sel : Select := ⟨q₀.table, q₀.rowAlias, [.keyed table joinRow column q₀.rowAlias .id],
    draft.outputs ++ [output], clauses ++ [among joinRow source ids], draft.order, .all⟩
  have hb : (throughQuery relation q₀ clauses source table column ids).build = .ok sel := by
    have hbuilt := hdrafted.build_eq (show throughQuery relation q₀ clauses source table column ids = { q₀ with
      joins := q₀.joins ++ [.keyed table joinRow column q₀.rowAlias .id],
      extraColumns := q₀.extraColumns ++ [output],
      clauses := clauses ++ [among joinRow source ids],
      sorts := q₀.sorts ++ sorts relation } from hsorts ▸ rfl)
    rwa [hsel.joins, hsel.extra, List.nil_append, List.nil_append] at hbuilt
  have hready : Ready target (throughQuery relation q₀ clauses source table column ids) :=
    ready_throughQuery h.id hq₀ hr
  have hfound := Contents.found_joined hr hsel.table (show sel.row.text = mainRow from hsel.row)
    (show q₀.rowAlias.text = mainRow from hsel.row) rfl rfl
  rw [← hlink] at hfound
  obtain ⟨answer, envs, w₁, hanswer, hstore, hactions, hnamed, hperm, horder⟩ := steady.select_runs (hready.plain hb) rfl w
  have hlinked : ∀ env ∈ envs, (env joinRow.text source.text, env mainRow) ∈ db.links target.name relation.link := by
    intro env henv
    have hpair := List.mem_map_of_mem (f := fun env => (env joinRow.text source.text, env mainRow))
      (hperm.mem_iff.mp henv)
    rw [hfound] at hpair
    exact (List.mem_filter.mp hpair).1
  have hrow : ∀ env, db.namedRow sel env = collect ((draft.outputs.map fun o => (Value.text o.label, db.cell env o)) ++
      [(.text sourceLabel.text, env joinRow.text source.text)]) := by
    intro env
    rw [Contents.namedRow, List.map_append]
    rfl
  -- The label of the source is dropped again, which leaves the cells of the target.
  have hcells : ∀ env ∈ envs, targetRow (db.namedRow sel env) =
      db.cells target relation.link draft.labels (env mainRow) := by
    intro env _
    rw [hrow, targetRow_concat, hdrafted.entries_eq, hlink]
    rfl
  have hsource : ∀ env ∈ envs,
      lookup? (.text sourceLabel.text) (db.namedRow sel env) = some (env joinRow.text source.text) := by
    intro env _
    rw [hrow]
    exact lookup?_collect_concat (Value.same_texts.mpr rfl) _
  obtain ⟨state, made, store, rfl, hgather, hgrows, hg⟩ := h.gather_runs hcells hsource
    (fun env henv => h.referable.keys _ (hlinked env henv)) fun env henv => Contents.mem_rows_of_links (hlinked env henv)
  rw [hstore] at hgrows hg
  have hshared : ∀ m ∈ made, ∀ m' ∈ made, m.1 mainRow = m'.1 mainRow → m.2 = m'.2 := by
    intro m hm m' hm' he
    have hknown := hg.complete m hm
    rw [he, hg.complete m' hm'] at hknown
    exact (Node.record.inj (Option.some.inj hknown)).symm
  have hstock : Stock db s target relation.link draft.labels filter ids w.store.records.size store
      (made.map fun m => ⟨m.1 joinRow.text source.text, m.1 mainRow, m.2⟩) :=
    stock_of_found h.referable hids hperm horder hsel.row hfound hg.reads hshared
  refine ⟨sel, answer, _, w₁, state, _, store, hb, hanswer, hnamed, hgather, hactions, hgrows, ?_, hstock⟩
  rw [hg.groups, List.map_map]
  rfl

end Runs

end Loader

end EntityViews
