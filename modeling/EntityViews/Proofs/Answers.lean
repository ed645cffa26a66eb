import EntityViews.Proofs.Meaning
import EntityViews.Proofs.Lookup
import EntityViews.Storage.Loader

/-!
Ideal databases: each answers a SELECT with just the rows that the statement is true of, in some order. What is fetched
from such a database is made from these rows.
-/

namespace EntityViews

open Sql

namespace Sql

def Output.label : Output → String
  | .term (.column _ name) => name.text
  | .term (.formula _ _ text) => text
  | .labelled _ label => label.text
  | .raw sql => sql

def Select.plain (q : Select) : Bool :=
  (q.joins.all fun | .keyed .. => true | .raw _ => false) &&
    (q.outputs.all fun | .raw _ => false | _ => true) && q.clauses.all fun | .condition _ => true | .raw .. => false

end Sql

namespace Contents

variable (db : Contents)

def joined (envs : List Env) : Join → List Env
  | .keyed table row column other otherColumn => envs.flatMap fun env =>
    ((db.rows table.text).map (env.bind row)).filter fun e =>
      db.compare .eq (e row.text column.text) (e other.text otherColumn.text) = .holds
  | .raw _ => []

def clauseHolds (env : Env) : Clause → Bool
  | .condition c => db.truth env c = .holds
  | .raw _ _ => false

def found (q : Select) : List Env :=
  let start := (db.rows q.table.text).map (Env.bind (fun _ _ => .null) q.row)
  (q.joins.foldl db.joined start).filter fun env => q.clauses.all (db.clauseHolds env)

def cell (env : Env) : Output → Value
  | .term t | .labelled t _ => db.value env t
  | .raw _ => .null

def Answers (q : Select) (a : Answer) : Prop :=
  -- The rows may come in any order, and a page may leave some out.
  a.columns = q.outputs.map Output.label ∧
    ∃ envs rest, a.rows = .ok (envs.map fun env => q.outputs.map (db.cell env)) ∧ (envs ++ rest).Perm (db.found q) ∧
      (q.page = .all → rest = [])

def namedRow (q : Select) (env : Env) : List (Value × Value) :=
  collect (q.outputs.map fun o => (.text o.label, db.cell env o))

end Contents

/-- Whether a database has some contents for good and gives every SELECT its answer. -/
def Ideal (δ : Type) [Engine δ] (db : Contents) : Prop :=
  ∀ (q : Select) (d : δ), q.plain = true → ∃ a, (Engine.perform (.execute (.select q)) d).1 = .ok a ∧ db.Answers q a

/-- A database that has some contents for good and gives the rows of an answer in the order in which it finds them. -/
structure Snapshot (db : Contents) where

instance (db : Contents) : Engine (Snapshot db) where
  perform action d :=
    match action with
    | .execute (.select q) =>
      (.ok ⟨q.outputs.map Output.label, .ok ((db.found q).map fun env => q.outputs.map (db.cell env)), 0⟩, d)
    | _ => (.ok .empty, d)

theorem ideal_snapshot (db : Contents) : Ideal (Snapshot db) db := by
  intro q d _
  refine ⟨_, rfl, rfl, db.found q, [], rfl, ?_, fun _ => rfl⟩
  rw [List.append_nil]

variable {δ : Type}

def World.Aside (w w' : World δ) : Prop := ∃ d actions, w' = { w with database := d, actions := actions }

namespace World.Aside

theorem store_eq {w w' : World δ} (h : w.Aside w') : w'.store = w.store := by
  obtain ⟨d, actions, rfl⟩ := h
  rfl

theorem trans {w w' w'' : World δ} (h : w.Aside w') (h' : w'.Aside w'') : w.Aside w'' := by
  obtain ⟨d, actions, rfl⟩ := h
  obtain ⟨d', actions', rfl⟩ := h'
  exact ⟨d', actions', rfl⟩

end World.Aside

namespace Run

/-- Compiling within a run changes the number of the next sub-select only. -/
theorem compile_gives {α : Type} {c : Compile α} {w w' : World δ} {a : α} :
    Gives (Run.compile c) w a w' ↔ ∃ n, Gives c w.nextAlias a n ∧ w' = { w with nextAlias := n } := by
  have hrun : (Run.compile c : Run δ α).run.run w =
      ((c.run.run w.nextAlias).1, { w with nextAlias := (c.run.run w.nextAlias).2 }) := rfl
  unfold Gives
  rw [hrun]
  cases c.run.run w.nextAlias with
  | mk outcome n =>
    constructor
    · intro h
      cases h
      exact ⟨n, rfl, rfl⟩
    · rintro ⟨m, h, rfl⟩
      cases h
      rfl

theorem observe_run {α : Type} (x : Run δ α) (w : World δ) :
    (withConnection.observe x).run.run w = (.ok (x.run.run w).1, (x.run.run w).2) := by
  rw [withConnection.observe, Gives.run_tryCatch, Gives.run_bind]
  cases x.run.run w with
  | mk outcome m => cases outcome <;> rfl

theorem observe_gives {α : Type} {work : Run δ α} {w w' : World δ} {a : α}
    (h : Gives (withConnection.observe work) w (.ok a) w') : Gives work w a w' := by
  obtain ⟨houtcome, hstate⟩ := Prod.mk.inj ((observe_run work w).symm.trans h)
  exact Prod.ext (Except.ok.inj houtcome) hstate

variable [Engine δ]

theorem ask_gives {action : Action} {w w' : World δ} {a : Answer} (h : Gives (ask action) w a w') :
    (Engine.perform action w.database).1 = .ok a ∧ w.Aside w' := by
  simp only [ask, Gives.bind_iff, Gives.get_iff, Gives.set_iff, Gives.lift_iff] at h
  obtain ⟨_, _, ⟨rfl, rfl⟩, _, _, rfl, ha, rfl⟩ := h
  exact ⟨ha, _, _, rfl⟩

/-- Work within a connection that gives a result is done between its setup and its commit. -/
theorem withConnection_parts {α : Type} {body : Run δ α} {w w' : World δ} {a : α}
    (h : Gives (withConnection body) w a w') : ∃ w₁ w₂ before after,
      Gives (ask .connect >>= fun _ => execute .foreignKeys) w before w₁ ∧ Gives body w₁ a w₂ ∧
      Gives (ask .commit >>= fun _ => ask .close) w₂ after w' := by
  simp only [withConnection, Gives.bind_iff, Gives.lift_iff] at h
  obtain ⟨_, w₁, hconnect, before, w₂, hsetting, outcome, w₃, hbody, after, w₄, hclose, rfl, rfl⟩ := h
  have hinner := observe_gives hbody
  simp only [Gives.bind_iff] at hinner
  obtain ⟨inner, w₅, hinner, hmatch⟩ := hinner
  cases inner with
  | error e =>
    simp only [Gives.bind_iff, Gives.throw_iff, and_false, exists_false] at hmatch
  | ok b =>
    obtain ⟨rfl, rfl⟩ := Gives.pure_iff.mp hmatch
    have hwork := observe_gives hinner
    simp only [Gives.bind_iff, Gives.pure_iff] at hwork
    obtain ⟨_, w₆, hwork, _, _, hcommit, rfl, rfl⟩ := hwork
    exact ⟨w₂, w₆, before, after, Gives.bind_iff.mpr ⟨_, w₁, hconnect, hsetting⟩, hwork,
      Gives.bind_iff.mpr ⟨_, _, hcommit, hclose⟩⟩

/-- Work within a connection is done on the state as it is; around it the database alone is asked for something. -/
theorem withConnection_gives {α : Type} {body : Run δ α} {w w' : World δ} {a : α}
    (h : Gives (withConnection body) w a w') : ∃ w₁ w₂, w.Aside w₁ ∧ Gives body w₁ a w₂ ∧ w₂.Aside w' := by
  obtain ⟨w₁, w₂, _, _, hbefore, hbody, hafter⟩ := withConnection_parts h
  have haside : ∀ {b c : Action} {m m' : World δ} {x : Answer},
      Gives (ask b >>= fun _ => ask c) m x m' → m.Aside m' := by
    intro b c m m' x hx
    obtain ⟨_, n, hb, hc⟩ := Gives.bind_iff.mp hx
    exact (ask_gives hb).2.trans (ask_gives hc).2
  exact ⟨w₁, w₂, haside hbefore, hbody, haside hafter⟩

theorem select_gives {db : Contents} (ideal : Ideal δ db) {q : Select} (hq : q.plain = true) {w w' : World δ} {a : Answer}
    (h : Gives (execute (.select q)) w a w') : db.Answers q a ∧ w.Aside w' := by
  obtain ⟨ha, haside⟩ := ask_gives h
  obtain ⟨b, hb, hanswers⟩ := ideal q w.database hq
  have hab : a = b := Except.ok.inj (ha.symm.trans hb)
  exact ⟨hab ▸ hanswers, haside⟩

end Run

/-- An answer with the cells of found rows is read as these rows under the labels of the outputs. -/
theorem Contents.namedRows_eq {db : Contents} {q : Select} {a : Answer} {envs : List Env}
    (hcolumns : a.columns = q.outputs.map Output.label)
    (hrows : a.rows = .ok (envs.map fun env => q.outputs.map (db.cell env))) :
    a.namedRows = .ok (envs.map (db.namedRow q)) := by
  rw [Answer.namedRows, hrows, hcolumns]
  have hmap : (envs.map fun env => q.outputs.map (db.cell env)).map
      (fun row => collect (((q.outputs.map Output.label).map Value.text).zip row)) = envs.map (db.namedRow q) := by
    rw [List.map_map]
    apply List.map_congr_left
    intro env _
    rw [Function.comp, Contents.namedRow, List.map_map, List.zip_map']
    rfl
  exact congrArg Except.ok hmap

theorem Contents.Answers.namedRows {db : Contents} {q : Select} {a : Answer} (h : db.Answers q a) :
    ∃ envs rest, a.namedRows = .ok (envs.map (db.namedRow q)) ∧ (envs ++ rest).Perm (db.found q) ∧
      (q.page = .all → rest = []) := by
  obtain ⟨hcolumns, envs, rest, hrows, hperm, hpage⟩ := h
  exact ⟨envs, rest, Contents.namedRows_eq hcolumns hrows, hperm, hpage⟩

def Store.Made (s : Store) (e : Entity) (row : List (Value × Value)) (id : Nat) : Prop :=
  ∃ fields before, e.fieldsOfRow row = .ok fields ∧ s.entries id = (Store.loadEntries before fields).1

theorem Store.Made.grows {s t : Store} {e : Entity} {row : List (Value × Value)} {id : Nat} (h : s.Made e row id)
    (hid : id < s.records.size) (hg : s.Grows t) : t.Made e row id := by
  obtain ⟨fields, before, hf, he⟩ := h
  exact ⟨fields, before, hf, (hg.2 id hid).trans he⟩

def Store.New (s t : Store) (id : Nat) : Prop := s.records.size ≤ id ∧ id < t.records.size

/-- A row is made into a new record, and nothing else changes. -/
theorem recordOfRow_gives {e : Entity} {row : List (Value × Value)} {w w' : World δ} {n : Node}
    (h : Gives (recordOfRow e row) w n w') :
    ∃ id, n = .record id ∧ w.store.New w'.store id ∧ w'.store.Made e row id ∧ w.store.Grows w'.store := by
  simp only [recordOfRow, Gives.bind_iff, Gives.lift_iff] at h
  obtain ⟨fields, w, ⟨hf, rfl⟩, h⟩ := h
  have hrun : (Run.newRecordOf fields : Run δ Node).run.run w =
      (.ok (w.store.load (.map fields)).1, { w with store := (w.store.load (.map fields)).2 }) := rfl
  rw [Gives, hrun, Prod.mk.injEq, Except.ok.injEq] at h
  obtain ⟨rfl, rfl⟩ := h
  have hgrows := Store.grows_loadEntries w.store fields
  refine ⟨_, rfl, ⟨hgrows.1, ?_⟩, ⟨fields, w.store, hf, ?_⟩, Store.grows_load w.store (.map fields)⟩
  · change (Store.loadEntries w.store fields).2.records.size < ((Store.loadEntries w.store fields).2.records.push _).size
    rw [Array.size_push]
    omega
  · exact (Store.entries_alloc _ _ _).trans (if_pos rfl)

/-- Rows are made into new records in their order. -/
theorem recordsOfRows_gives {ι : Type} {e : Entity} {items : List ι} {row : ι → List (Value × Value)} {w w' : World δ}
    {nodes : List Node} (h : Gives ((items.map row).mapM (recordOfRow e)) w nodes w') :
    ∃ made : List (ι × Nat), items = made.map (·.1) ∧ nodes = made.map (fun m => .record m.2) ∧
      (∀ m ∈ made, w.store.New w'.store m.2 ∧ w'.store.Made e (row m.1) m.2) ∧ w.store.Grows w'.store ∧
      made.Pairwise fun m m' => m.2 < m'.2 := by
  induction items generalizing w nodes with
  | nil =>
    obtain ⟨rfl, rfl⟩ := Gives.mapM_nil_iff.mp h
    exact ⟨[], rfl, rfl, nofun, .refl _, .nil⟩
  | cons item items ih =>
    obtain ⟨n, m, ns, hrow, hrows, rfl⟩ := Gives.mapM_cons_iff.mp h
    obtain ⟨id, rfl, hnew, hmade, hgrows⟩ := recordOfRow_gives hrow
    obtain ⟨made, rfl, rfl, hall, hgrows', hrising⟩ := ih hrows
    refine ⟨(item, id) :: made, rfl, rfl, ?_, hgrows.trans hgrows', List.pairwise_cons.mpr ⟨?_, hrising⟩⟩
    · intro x hx
      rcases List.mem_cons.mp hx with rfl | hx
      · exact ⟨⟨hnew.1, Nat.lt_of_lt_of_le hnew.2 hgrows'.1⟩, hmade.grows hnew.2 hgrows'⟩
      · obtain ⟨hn, hm⟩ := hall x hx
        exact ⟨⟨Nat.le_trans hgrows.1 hn.1, hn.2⟩, hm⟩
    · -- Later records come up when this one is there.
      intro x hx
      exact Nat.lt_of_lt_of_le hnew.2 (hall x hx).1.1

/-- A statement gives a new record for each row that it finds, in some order, up to those that its page leaves out. -/
theorem fetchRecords_gives [Engine δ] {db : Contents} (ideal : Ideal δ db) {e : Entity} {q : Select}
    (hq : q.plain = true) {w w' : World δ} {nodes : List Node} (h : Gives (fetchRecords e q) w nodes w') :
    ∃ (made : List (Env × Nat)) (rest : List Env), (made.map (·.1) ++ rest).Perm (db.found q) ∧
      (q.page = .all → rest = []) ∧ nodes = made.map (fun m => .record m.2) ∧
      (∀ m ∈ made, w.store.New w'.store m.2 ∧ w'.store.Made e (db.namedRow q m.1) m.2) ∧ w.store.Grows w'.store := by
  simp only [fetchRecords, Gives.bind_iff, Gives.lift_iff] at h
  obtain ⟨a, w₁, ha, rows, _, ⟨hrows, rfl⟩, h⟩ := h
  obtain ⟨hanswers, haside⟩ := Run.select_gives ideal hq ha
  obtain ⟨envs, rest, hnamed, hperm, hpage⟩ := hanswers.namedRows
  rw [Except.ok.inj (hrows.symm.trans hnamed)] at h
  obtain ⟨made, rfl, rfl, hall, hgrows, _⟩ := recordsOfRows_gives h
  rw [haside.store_eq] at hall hgrows
  exact ⟨made, rest, hperm, hpage, rfl, hall, hgrows⟩

/-- The records that a statement gives are new, whatever the database. -/
theorem fetchRecords_new [Engine δ] {e : Entity} {q : Select} {w w' : World δ} {nodes : List Node}
    (h : Gives (fetchRecords e q) w nodes w') : ∀ n ∈ nodes, ∃ id, n = .record id ∧ id < w'.store.records.size := by
  obtain ⟨a, w₁, _, hnamed⟩ := Gives.bind_iff.mp h
  obtain ⟨rows, w₂, _, hrows⟩ := Gives.bind_iff.mp hnamed
  rw [← List.map_id rows] at hrows
  obtain ⟨made, _, rfl, hall, _⟩ := recordsOfRows_gives hrows
  intro n hn
  obtain ⟨m, hm, rfl⟩ := List.mem_map.mp hn
  exact ⟨m.2, rfl, (hall m hm).1.2⟩

end EntityViews
