import EntityViews.Proofs.Fields
import EntityViews.Proofs.Readings

/-!
Work that is sure to succeed. A steady database gives every SELECT its rows in the order of the table that the statement
is about; what can be read of them becomes records, and setting a field of records that are there always succeeds.
-/

namespace EntityViews

open Sql

/-- Whether a database has some contents for good and gives all rows that a SELECT finds in the order of the table that the
statement is about; rows of this table that are joined with several others stand together. -/
def Steady (δ : Type) [Engine δ] (db : Contents) : Prop :=
  ∀ (q : Select) (d : δ), q.plain = true → q.page = .all → ∃ (a : Answer) (envs : List Env),
    (Engine.perform (.execute (.select q)) d).1 = .ok a ∧
    a.columns = q.outputs.map Output.label ∧ a.rows = .ok (envs.map fun env => q.outputs.map (db.cell env)) ∧
    envs.Perm (db.found q) ∧ envs.map (· q.row.text) = (db.found q).map (· q.row.text)

theorem steady_snapshot (db : Contents) : Steady (Snapshot db) db := by
  intro q d _ _
  exact ⟨_, db.found q, rfl, rfl, rfl, .refl _, rfl⟩

namespace Gives

variable {σ α β : Type}

/-- Reads that all succeed along a list give what each of them gives, in the same world. -/
theorem filterMapM_runs {f : α → ExceptT Fault (StateM σ) (Option β)} {g : α → Option β} {xs : List α} {s : σ}
    (h : ∀ x ∈ xs, Gives (f x) s (g x) s) : Gives (xs.filterMapM f) s (xs.filterMap g) s := by
  induction xs with
  | nil =>
    rw [List.filterMapM_nil]
    exact pure_iff.mpr ⟨rfl, rfl⟩
  | cons x xs ih =>
    have hrest := ih fun y hy => h y (List.mem_cons_of_mem _ hy)
    rw [List.filterMapM_cons]
    refine bind_iff.mpr ⟨g x, s, h x List.mem_cons_self, ?_⟩
    cases hx : g x with
    | none =>
      rw [List.filterMap_cons_none hx]
      exact hrest
    | some y =>
      rw [List.filterMap_cons_some hx]
      exact bind_iff.mpr ⟨_, s, hrest, pure_iff.mpr ⟨rfl, rfl⟩⟩

/-- A loop that only reads gives what is read of each item. -/
theorem mapM_runs {ι : Type} {f : α → ExceptT Fault (StateM σ) β} {x : ι → α} {g : ι → β} {items : List ι} {s : σ}
    (h : ∀ i ∈ items, Gives (f (x i)) s (g i) s) : Gives ((items.map x).mapM f) s (items.map g) s := by
  induction items with
  | nil => exact mapM_nil_iff.mpr ⟨rfl, rfl⟩
  | cons i items ih =>
    have hrest := ih fun j hj => h j (List.mem_cons_of_mem _ hj)
    exact mapM_cons_iff.mpr ⟨_, _, _, h i List.mem_cons_self, hrest, rfl⟩

theorem foldlM_runs {ι : Type} {f : β → α → ExceptT Fault (StateM σ) β} {x : ι → α} {g : β → ι → β} {items : List ι}
    {s : σ} (h : ∀ b, ∀ i ∈ items, Gives (f b (x i)) s (g b i) s) (b : β) :
    Gives ((items.map x).foldlM f b) s (items.foldl g b) s := by
  induction items generalizing b with
  | nil => exact foldlM_nil_iff.mpr ⟨rfl, rfl⟩
  | cons i items ih =>
    have hrest := ih (fun b j hj => h b j (List.mem_cons_of_mem _ hj)) (g b i)
    exact foldlM_cons_iff.mpr ⟨_, _, h b i List.mem_cons_self, hrest⟩

end Gives

variable {δ : Type}

/-- Asking a steady database for rows changes no record. -/
theorem Steady.select_runs [Engine δ] {db : Contents} (steady : Steady δ db) {q : Select} (hq : q.plain = true)
    (hpage : q.page = .all) (w : World δ) : ∃ (answer : Answer) (envs : List Env) (w₁ : World δ),
      Gives (execute (.select q)) w answer w₁ ∧ w₁.store = w.store ∧
      w₁.actions = w.actions.push (.execute (.select q)) ∧ answer.namedRows = .ok (envs.map (db.namedRow q)) ∧
      envs.Perm (db.found q) ∧ envs.map (· q.row.text) = (db.found q).map (· q.row.text) := by
  obtain ⟨a, envs, ha, hcolumns, hrows, hperm, horder⟩ := steady q w.database hq hpage
  have hrun : Gives (execute (.select q)) w a { w with
      database := (Engine.perform (.execute (.select q)) w.database).2,
      actions := w.actions.push (.execute (.select q)) } := by
    rw [execute, ask]
    simp only [Gives.bind_iff, Gives.get_iff, Gives.set_iff, Gives.lift_iff]
    exact ⟨w, w, ⟨rfl, rfl⟩, ⟨⟩, _, rfl, ha, rfl⟩
  exact ⟨a, envs, _, hrun, rfl, rfl, Contents.namedRows_eq hcolumns hrows, hperm, horder⟩

theorem recordOfRow_runs {e : Entity} {row fields : List (Value × Value)} {base : Nat} (h : e.fieldsOfRow row = .ok fields)
    (w : World δ) (hbase : base ≤ w.store.records.size) : ∃ id store,
      Gives (recordOfRow e row) w (.record id) { w with store := store } ∧ w.store.Grows store ∧
      store.Reads base (.record id) (.map fields) := by
  have hrun : Gives (recordOfRow e row) w (w.store.load (.map fields)).1
      { w with store := (w.store.load (.map fields)).2 } := by
    simp only [recordOfRow, Gives.bind_iff, Gives.lift_iff]
    exact ⟨fields, w, ⟨h, rfl⟩, rfl⟩
  exact ⟨_, _, hrun, Store.grows_load _ _, Store.reads_load _ _ hbase _ (.refl _)⟩

/-- Rows that can be read become records, one for each and in their order. -/
theorem recordsOfRows_runs {ι : Type} {e : Entity} {row fields : ι → List (Value × Value)} {base : Nat} (items : List ι)
    (h : ∀ i ∈ items, e.fieldsOfRow (row i) = .ok (fields i)) (w : World δ) (hbase : base ≤ w.store.records.size) :
    ∃ (made : List (ι × Nat)) (store : Store), made.map (·.1) = items ∧
      Gives ((items.map row).mapM (recordOfRow e)) w (made.map fun m => .record m.2) { w with store := store } ∧
      w.store.Grows store ∧ ∀ m ∈ made, store.Reads base (.record m.2) (.map (fields m.1)) := by
  induction items generalizing w with
  | nil => exact ⟨[], w.store, rfl, Gives.mapM_nil_iff.mpr ⟨rfl, rfl⟩, .refl _, nofun⟩
  | cons item rest ih =>
    obtain ⟨id, store, hrow, hgrows, hreads⟩ := recordOfRow_runs (h item List.mem_cons_self) w hbase
    obtain ⟨made, store', rfl, hrows, hgrows', hall⟩ := ih (fun i hi => h i (List.mem_cons_of_mem _ hi))
      { w with store := store } (Nat.le_trans hbase hgrows.1)
    refine ⟨(item, id) :: made, store', rfl, ?_, hgrows.trans hgrows', ?_⟩
    · exact Gives.mapM_cons_iff.mpr ⟨_, _, _, hrow, hrows, rfl⟩
    · intro m hm
      rcases List.mem_cons.mp hm with rfl | hm
      · exact hreads.kept (hgrows'.keepsFrom _)
      · exact hall m hm

/-- A plain statement without a page succeeds if its rows can be made into fields: each found row becomes one new record,
and the statement is the only action. -/
theorem fetchRecords_runs [Engine δ] {db : Contents} (steady : Steady δ db) {e : Entity} {q : Select}
    (hq : q.plain = true) (hpage : q.page = .all) {fields : Env → List (Value × Value)}
    (h : ∀ env ∈ db.found q, e.fieldsOfRow (db.namedRow q env) = .ok (fields env)) (w : World δ) :
    ∃ (made : List (Env × Nat)) (w₁ : World δ), Gives (fetchRecords e q) w (made.map fun m => .record m.2) w₁ ∧
      w₁.actions = w.actions.push (.execute (.select q)) ∧ (made.map (·.1)).Perm (db.found q) ∧
      (made.map (·.1)).map (· q.row.text) = (db.found q).map (· q.row.text) ∧ w.store.Grows w₁.store ∧
      ∀ m ∈ made, w₁.store.Reads w.store.records.size (.record m.2) (.map (fields m.1)) := by
  obtain ⟨answer, envs, w₁, hselect, hstore, hactions, hnamed, hperm, horder⟩ := steady.select_runs hq hpage w
  have hread : ∀ env ∈ envs, e.fieldsOfRow (db.namedRow q env) = .ok (fields env) :=
    fun env henv => h env (hperm.mem_iff.mp henv)
  obtain ⟨made, store, rfl, hrows, hgrows, hreads⟩ := recordsOfRows_runs envs hread w₁ (Nat.le_refl _)
  rw [hstore] at hgrows hreads
  refine ⟨made, { w₁ with store := store }, ?_, hactions, hperm, horder, hgrows, hreads⟩
  simp only [fetchRecords, Gives.bind_iff, Gives.lift_iff]
  exact ⟨answer, w₁, hselect, _, w₁, ⟨hnamed, rfl⟩, hrows⟩

namespace Run

theorem field?_runs (w : World δ) (id : Nat) (key : String) :
    Gives (Run.field? (.record id) key) w (w.store.get? id (.text key)) w := by
  simp only [Run.field?, Gives.bind_iff, Gives.get_iff, Gives.pure_iff]
  exact ⟨w, w, ⟨rfl, rfl⟩, rfl, rfl⟩

theorem item_runs {w : World δ} {id : Nat} {key : String} {v : Node} (h : w.store.get? id (.text key) = some v) :
    Gives (Run.item (.record id) key) w v w := by
  unfold Run.item
  refine Gives.bind_iff.mpr ⟨w, w, Gives.get_iff.mpr ⟨rfl, rfl⟩, ?_⟩
  rw [h]
  exact Gives.pure_iff.mpr ⟨rfl, rfl⟩

theorem setField_runs (w : World δ) (id : Nat) (key : String) (v : Node) :
    Gives (Run.setField (.record id) key v) w ⟨⟩ { w with store := w.store.set id (.text key) v } :=
  Gives.modify_iff.mpr rfl

end Run

namespace Loader

variable {w : World δ}

/-- To read the key of a record succeeds where the record has the key. -/
theorem keyOf_runs {id : Nat} {field : String} {k : Value} (h : w.store.keyAt id field = .ok k) :
    Gives (keyOf (.record id) field) w k w := by
  refine Gives.bind_iff.mpr ⟨_, w, Run.field?_runs w id field, ?_⟩
  rw [Store.keyAt] at h
  cases hget : w.store.get? id (.text field) with
  | none =>
    rw [hget] at h
    exact Gives.pure_iff.mpr ⟨(Except.ok.inj h).symm, rfl⟩
  | some n =>
    rw [hget] at h
    exact Gives.lift_iff.mpr ⟨h, rfl⟩

def HasKey (store : Store) (field : String) (n : Node) : Prop := ∃ id k, n = .record id ∧ store.keyAt id field = .ok k

/-- The keys of records that all have one are read without any change, each once. -/
theorem keysOf_runs {records : List Node} {field : String} (h : ∀ n ∈ records, HasKey w.store field n) :
    Gives (keysOf records field) w (distinctKeys (records.filterMap (ownKey? w.store field))) w := by
  refine Gives.bind_iff.mpr ⟨records.filterMap (ownKey? w.store field), w, ?_, Gives.pure_iff.mpr ⟨rfl, rfl⟩⟩
  refine Gives.filterMapM_runs ?_
  intro n hn
  -- A field that is absent counts as one that holds nothing.
  obtain ⟨id, k, rfl, hk⟩ := h n hn
  refine Gives.bind_iff.mpr ⟨_, w, Run.field?_runs w id field, ?_⟩
  cases hget : w.store.get? id (.text field) with
  | none =>
    have hnone : ownKey? w.store field (.record id) = none := by rw [ownKey?, Store.keyAt, hget]
    rw [hnone]
    exact Gives.pure_iff.mpr ⟨rfl, rfl⟩
  | some n =>
    by_cases hnull : n = .null
    · subst hnull
      have hnone : ownKey? w.store field (.record id) = none := by
        rw [ownKey?, Store.keyAt, hget]
        rfl
      rw [hnone]
      exact Gives.pure_iff.mpr ⟨rfl, rfl⟩
    · have hkey : n.key = .ok k := by rwa [Store.keyAt, hget] at hk
      have hne : k ≠ .null := by
        rintro rfl
        exact hnull (eq_null_of_key hkey)
      rw [ownKey?_of_keyAt hk hne]
      split
      · cases ‹some n = none›
      · cases ‹some n = some Node.null›
        exact absurd rfl hnull
      · cases ‹some n = some _›
        exact Gives.bind_iff.mpr ⟨k, w, Gives.lift_iff.mpr ⟨hkey, rfl⟩, Gives.pure_iff.mpr ⟨rfl, rfl⟩⟩

/-- Attaching what is looked up by a key: each record gets what is there for its key, unless a record is met again of
which that has taken the place of the key; records that nothing is attached to stay as they are. -/
theorem attach_runs {records : List Node} {key name : String} (f : Value → Node) (hdistinct : key = name → records.Nodup)
    (h : ∀ n ∈ records, HasKey w.store key n) : ∃ store,
      Gives (records.forM fun r => do Run.setField r name (f (← keyOf r key))) w ⟨⟩ { w with store := store } ∧
      store.records.size = w.store.records.size ∧ (∀ i, .record i ∉ records → store.entries i = w.store.entries i) ∧
      ∀ i k, .record i ∈ records → i < w.store.records.size → w.store.keyAt i key = .ok k →
        store.get? i (.text name) = some (f k) := by
  induction records generalizing w with
  | nil => exact ⟨w.store, Gives.forM_nil_iff.mpr rfl, rfl, fun _ _ => rfl, nofun⟩
  | cons n rest ih =>
    obtain ⟨id, k, rfl, hk⟩ := h n List.mem_cons_self
    -- The records that are still to come have their keys as before.
    have hsame : ∀ i, .record i ∈ rest → (w.store.set id (.text name) (f k)).keyAt i key = w.store.keyAt i key := by
      intro i hi
      apply Store.keyAt_congr
      rw [Store.get?_set, if_neg]
      rintro ⟨rfl, _, he⟩
      exact (List.nodup_cons.mp (hdistinct he.symm)).1 hi
    have hlater : ∀ n ∈ rest, HasKey (w.store.set id (.text name) (f k)) key n := by
      intro n hn
      obtain ⟨i, k', rfl, hk'⟩ := h n (List.mem_cons_of_mem _ hn)
      exact ⟨i, k', rfl, (hsame i hn).trans hk'⟩
    obtain ⟨store, hrest, hsize, hkept, hall⟩ := ih (w := { w with store := w.store.set id (.text name) (f k) })
      (fun he => (List.nodup_cons.mp (hdistinct he)).2) hlater
    have hfirst : Gives (do Run.setField (.record id) name (f (← keyOf (.record id) key))) w ⟨⟩
        { w with store := w.store.set id (.text name) (f k) } :=
      Gives.bind_iff.mpr ⟨k, w, keyOf_runs hk, Run.setField_runs w id name (f k)⟩
    refine ⟨store, Gives.forM_cons_iff.mpr ⟨_, hfirst, hrest⟩, ?_, ?_, ?_⟩
    · rw [hsize, Store.size_set]
    · intro i hi
      rw [List.mem_cons, not_or] at hi
      rw [hkept i hi.2, Store.entries_set, if_neg]
      rintro ⟨rfl, _⟩
      exact hi.1 rfl
    · intro i k' hi hlt hk'
      by_cases hagain : .record i ∈ rest
      · exact hall i k' hagain (by rwa [Store.size_set]) ((hsame i hagain).trans hk')
      · obtain rfl : i = id := Node.record.inj ((List.mem_cons.mp hi).resolve_right hagain)
        cases hk.symm.trans hk'
        rw [Store.get?, hkept i hagain]
        exact (Store.get?_set _ _ _ _ _ _).trans (if_pos ⟨rfl, hlt, rfl⟩)

end Loader

end EntityViews
