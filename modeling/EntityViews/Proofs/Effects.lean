import EntityViews.Proofs.Columns
import EntityViews.Proofs.Fields
import EntityViews.Fetch.Execution

/-!
What work may do to the state, however it ends. All work is put together from small steps: the database is asked for
something, sub-selects are counted, an event is told, records are made, a field is set, the fields of an entity are built,
a repository comes into use. A relation between states that these steps keep is kept by the work.
-/

namespace EntityViews

open Sql

def Action.select? : Action → Option Select
  | .execute (.select q) => some q
  | _ => none

namespace Run

variable {δ α β : Type}

def Yields (x : Run δ α) (a : α) : Prop := ∃ w w', Gives x w a w'

def failure? : Except Fault α → Option Fault
  | .ok _ => none
  | .error e => some e

def Abides (T : World δ → Option Fault → World δ → Prop) (x : Run δ α) : Prop :=
  ∀ w, T w (failure? (x.run.run w).1) (x.run.run w).2

/-- Whether some work leads from each state to one that is in a relation to it, also if it fails. -/
abbrev Within (R : World δ → World δ → Prop) (x : Run δ α) : Prop := Abides (fun w _ w' => R w w') x

theorem Abides.of_gives {T : World δ → Option Fault → World δ → Prop} {x : Run δ α} {w w' : World δ} {a : α}
    (h : Abides T x) (hg : Gives x w a w') : T w none w' := by
  have ht := h w
  rwa [show x.run.run w = (.ok a, w') from hg] at ht

def Asking (asks : Select → Prop) : Statement → Prop
  | .select q => asks q
  | _ => True

/-- Whether a relation holds across every step of work that issues some statements and sets some fields only. Where a step
succeeds the work may go on. -/
structure Discipline [Engine δ] (asks : Statement → Prop) (touched : Nat → String → Prop)
    (T : World δ → Option Fault → World δ → Prop) : Prop where
  refl : ∀ w o, T w o w
  trans : ∀ {w w' w''} o, T w none w' → T w' o w'' → T w o w''
  issue : ∀ w s, asks s → T w (failure? (Engine.perform (.execute s) w.database).1)
    { w with database := (Engine.perform (.execute s) w.database).2, actions := w.actions.push (.execute s) }
  count : ∀ w n o, T w o { w with nextAlias := n }
  grow : ∀ w (store : Store), w.store.Grows store → T w none { w with store := store }
  set : ∀ w id name v, touched id name → T w none { w with store := w.store.set id (.text name) v }

/-- Whether a relation between states also holds across the steps by which connections are set up and given up, events are
told, entities are built and repositories come into use. -/
structure Guarantee [Engine δ] (asks : Select → Prop) (touched : Nat → String → Prop)
    (R : World δ → World δ → Prop) : Prop extends Discipline (Asking asks) touched fun w _ w' => R w w' where
  turn : ∀ w a, (∀ s, a ≠ .execute s) →
    R w { w with database := (Engine.perform a w.database).2, actions := w.actions.push a }
  tell : ∀ w e, R w { w with events := w.events.push e }
  build : ∀ w entity, R w { w with registry := (w.registry.get entity).2 }
  use : ∀ w names, R w { w with opened := names }

namespace Discipline

variable [Engine δ] {asks : Statement → Prop} {touched : Nat → String → Prop} {T : World δ → Option Fault → World δ → Prop}
  (D : Discipline asks touched T)
include D

/-! Work put together from parts. -/

protected theorem pure (a : α) : Abides T (pure a : Run δ α) := fun w => D.refl w none

protected theorem throw (e : Fault) : Abides T (throw e : Run δ α) := fun w => D.refl w (some e)

protected theorem lift (x : Except Fault α) : Abides T (liftM x : Run δ α) := fun w => D.refl w (failure? x)

protected theorem get : Abides T (get : Run δ (World δ)) := fun w => D.refl w none

/-- Work that abides by a relation goes on to abide by it. -/
protected theorem bind {x : Run δ α} {f : α → Run δ β} (hx : Abides T x) (hf : ∀ a, Yields x a → Abides T (f a)) :
    Abides T (x >>= f) := by
  intro w
  have hw := hx w
  rw [Gives.run_bind]
  cases h : x.run.run w with
  | mk outcome m =>
    rw [h] at hw
    cases outcome with
    | error e => exact hw
    | ok a => exact D.trans _ hw (hf a ⟨w, m, h⟩ m)

protected theorem forM {g : α → Run δ PUnit} (xs : List α) (hg : ∀ a ∈ xs, Abides T (g a)) : Abides T (xs.forM g) := by
  induction xs with
  | nil => exact D.pure _
  | cons x xs ih =>
    rw [List.forM]
    exact D.bind (hg x List.mem_cons_self) fun _ _ => ih fun a ha => hg a (List.mem_cons_of_mem _ ha)

protected theorem mapM {f : α → Run δ β} (xs : List α) (hf : ∀ a, Abides T (f a)) : Abides T (xs.mapM f) := by
  induction xs with
  | nil =>
    rw [List.mapM_nil]
    exact D.pure _
  | cons x xs ih =>
    rw [List.mapM_cons]
    exact D.bind (hf x) fun _ _ => D.bind ih fun _ _ => D.pure _

protected theorem filterMapM {f : α → Run δ (Option β)} (xs : List α) (hf : ∀ a, Abides T (f a)) :
    Abides T (xs.filterMapM f) := by
  induction xs with
  | nil =>
    rw [List.filterMapM_nil]
    exact D.pure _
  | cons x xs ih =>
    rw [List.filterMapM_cons]
    refine D.bind (hf x) ?_
    intro y _
    cases y with
    | none => exact ih
    | some y => exact D.bind ih fun _ _ => D.pure _

protected theorem foldlM {f : β → α → Run δ β} (xs : List α) (b : β) (hf : ∀ b a, Abides T (f b a)) :
    Abides T (xs.foldlM f b) := by
  induction xs generalizing b with
  | nil => exact D.pure _
  | cons x xs ih =>
    rw [List.foldlM_cons]
    exact D.bind (hf b x) fun _ _ => ih _

/-! The records, the registry and the counter. -/

theorem field? (n : Node) (key : String) : Abides T (field? n key : Run δ (Option Node)) := by
  unfold Run.field?
  split
  · exact D.bind D.get fun _ _ => D.pure _
  · exact D.throw _

theorem currentField (n : Node) (key : String) : Abides T (currentField n key : Run δ Value) := by
  refine D.bind (D.field? _ _) ?_
  intro v _
  split
  · exact D.bind D.get fun _ _ => D.pure _
  · exact D.pure _

theorem item (n : Node) (key : String) : Abides T (item n key : Run δ Node) := by
  unfold Run.item
  split
  · refine D.bind D.get ?_
    intro w _
    split
    · exact D.pure _
    · exact D.throw _
  · exact D.throw _

theorem setField (n : Node) {key : String} (v : Node) (ht : ∀ id, n = .record id → touched id key) :
    Abides T (setField n key v : Run δ Unit) := by
  unfold Run.setField
  split
  · exact fun w => D.set w _ key v (ht _ rfl)
  · exact D.throw _

theorem newRecord (entries : List (Value × Node)) : Abides T (newRecord entries : Run δ Node) :=
  fun w => D.grow w _ (Store.grows_alloc _ _)

theorem newRecordOf (fields : List (Value × Value)) : Abides T (newRecordOf fields : Run δ Node) :=
  fun w => D.grow w _ (Store.grows_load _ (.map fields))

theorem compile (c : Compile α) : Abides T (Run.compile c : Run δ α) := fun w => D.count w _ _

/-! The database. -/

theorem execute {statement : Statement} (h : asks statement) :
    Abides T (EntityViews.execute statement : Run δ Answer) := fun w => D.issue w statement h

theorem recordOfRow (e : Entity) (row : List (Value × Value)) : Abides T (recordOfRow e row : Run δ Node) :=
  D.bind (D.lift _) fun _ _ => D.newRecordOf _

theorem fetchRecords (e : Entity) {q : Select} (h : asks (.select q)) : Abides T (fetchRecords e q : Run δ (List Node)) :=
  D.bind (D.execute h) fun _ _ => D.bind (D.lift _) fun _ _ => D.mapM _ fun _ => D.recordOfRow _ _

/-! Relations. -/

theorem queryFor (s : Schema) (target : Entity) (fields : Option (List String)) (filter : Value) :
    Abides T (Loader.queryFor s target fields filter : Run δ Query) :=
  D.bind (D.lift _) fun _ _ => D.bind (D.lift _) fun _ _ => D.compile _

theorem keysOf (records : List Node) (field : String) : Abides T (Loader.keysOf records field : Run δ (List Value)) := by
  refine D.bind (D.filterMapM _ ?_) fun _ _ => D.pure _
  intro r
  refine D.bind (D.field? _ _) ?_
  intro v _
  split
  · exact D.pure _
  · exact D.pure _
  · exact D.bind (D.lift _) fun _ _ => D.pure _

theorem keyOf (record : Node) (field : String) : Abides T (Loader.keyOf record field : Run δ Value) := by
  refine D.bind (D.field? _ _) ?_
  intro v _
  split
  · exact D.pure _
  · exact D.lift _

theorem byField (records : List Node) (field : String) :
    Abides T (Loader.byField records field : Run δ (List (Value × Node))) :=
  D.bind (D.mapM _ fun _ => D.bind (D.item _ _) fun _ _ => D.bind (D.lift _) fun _ _ => D.pure _) fun _ _ => D.pure _

/-- One loop attaches what was loaded. -/
theorem attach {records : List Node} {key name : String} {f : Value → Node}
    (ht : ∀ id, Node.record id ∈ records → touched id name) :
    Abides T (records.forM fun r => do Run.setField r name (f (← Loader.keyOf r key)) : Run δ Unit) := by
  refine D.forM _ fun r hr => D.bind (D.keyOf r key) fun _ _ => D.setField _ _ ?_
  rintro id rfl
  exact ht id hr

theorem gather (target : Entity) (rows : List (List (Value × Value))) :
    Abides T (Loader.gather target rows : Run δ (List (Value × Node) × List (Value × List Node))) := by
  refine D.foldlM _ _ ?_
  rintro ⟨known, groups⟩ row
  refine D.bind (D.lift _) fun source _ => D.bind (D.lift _) fun id _ => ?_
  have hend : ∀ (record : Node) (known : List (Value × Node)),
      Abides T (if source.isKey then return (known, Loader.addToGroup groups source record) else throw .mistyped :
        Run δ (List (Value × Node) × List (Value × List Node))) := by
    intro record known
    split
    · exact D.pure _
    · exact D.throw _
  cases lookup? id known with
  | some record => exact D.bind (D.pure _) fun _ _ => hend _ _
  | none => exact D.bind (D.recordOfRow _ _) fun _ _ => D.bind (D.pure _) fun _ _ => hend _ _

section Load

variable {s : Schema} {relation : Relation} {target : Entity} {records : List Node} {fields : Option (List String)}
  {filter : Value}

/-- Looking up the records that keys lead to abides by a relation if its statement does. -/
theorem ownRelated (h : ∀ sel : Select,
    sel.Lists target (fun name => name = "id" ∨ name ∈ target.selection fields) [] → asks (.select sel)) (keys : List Value) :
    Abides T (Loader.ownRelated s target fields filter keys : Run δ (List (Value × Node))) := by
  unfold Loader.ownRelated
  split
  · exact D.pure _
  · refine D.bind (D.queryFor _ _ _ _) ?_
    rintro q ⟨_, _, hq⟩
    refine D.bind (D.lift _) ?_
    rintro sel ⟨_, _, hsel⟩
    obtain ⟨hchosen, hextra⟩ := Loader.queryFor_chosen hq
    have hlists := hchosen.lists (Gives.lift_iff.mp hsel).1 rfl rfl rfl
    exact D.bind (D.fetchRecords _ (h sel (hextra ▸ hlists.1))) fun _ _ => D.byField _ _

/-- Looking up the records that refer to others abides by a relation if its statement does. -/
theorem theirRows {key : String} (h : ∀ sel : Select, sel.Lists target
      (fun name => name = "id" ∨ name ∈ target.selection (fields.map (· ++ [key]))) [] → asks (.select sel))
    (ids : List Value) : Abides T (Loader.theirRows s relation key target fields filter ids : Run δ (List Node)) := by
  unfold Loader.theirRows
  split
  · exact D.pure _
  · refine D.bind (D.queryFor _ _ _ _) ?_
    rintro q ⟨_, _, hq⟩
    refine D.bind (D.lift _) fun name _ => D.bind (D.lift _) ?_
    rintro sel ⟨_, _, hsel⟩
    obtain ⟨hchosen, hextra⟩ := Loader.queryFor_chosen hq
    have hlists := hchosen.lists (Gives.lift_iff.mp hsel).1 rfl rfl rfl
    exact D.fetchRecords _ (h sel (hextra ▸ hlists.1))

/-- Looking up records through a table of joins abides by a relation if its statement does. -/
theorem throughRows {table sourceKey targetKey : String} (h : ∀ (sel : Select) source, Name.text source = sourceKey →
      sel.Lists target (fun name => name = "id" ∨ name ∈ target.selection fields)
        [.labelled (.column Loader.joinRow source) Loader.sourceLabel] → asks (.select sel)) (ids : List Value) :
    Abides T (Loader.throughRows s relation table sourceKey targetKey target fields filter ids :
      Run δ (List (Value × Node) × List (Value × List Node))) := by
  unfold Loader.throughRows
  split
  · exact D.pure _
  · refine D.bind (D.queryFor _ _ _ _) ?_
    rintro q ⟨_, _, hq⟩
    refine D.bind (D.lift _) ?_
    rintro source ⟨_, _, hsource⟩
    have hname := Name.text_of_ofText? (Gives.lift_iff.mp hsource).1
    refine D.bind (D.lift _) fun tableName _ => D.bind (D.lift _) fun column _ => D.bind (D.lift _) ?_
    rintro sel ⟨_, _, hsel⟩
    obtain ⟨hchosen, hextra⟩ := Loader.queryFor_chosen hq
    have hlists := hchosen.lists (Gives.lift_iff.mp hsel).1 rfl rfl rfl
    refine D.bind (D.execute (h sel source hname ?_)) fun answer _ => D.bind (D.lift _) fun rows _ => D.gather _ _
    have hmore := hlists.1
    rw [Query.sorted, Query.add, Query.extended, Query.joined, hextra] at hmore
    exact hmore

/-- To take in hand what keys lead to sets no fields, and asks at most for what the relation is loaded with. -/
theorem inHand (h : ∀ sel, Loader.Asks relation.link target fields sel → asks (.select sel)) (keys : List Value) :
    Abides T (Loader.inHand s relation target fields filter keys : Run δ ((Value → Node) × List Node)) := by
  unfold Loader.inHand
  cases hlink : relation.link with
  | manyToOne key | oneToOne key =>
    rw [hlink] at h
    exact D.bind (D.ownRelated h keys) fun _ _ => D.pure _
  | oneToMany key | oneToOneInverse key =>
    rw [hlink] at h
    refine D.bind (D.theirRows h keys) fun rows _ => D.bind ?_ fun _ _ => D.pure _
    exact D.foldlM _ _ fun _ _ => D.bind (D.keyOf _ _) fun _ _ => D.pure _
  | manyToMany table sourceKey targetKey =>
    rw [hlink] at h
    have hasks := fun sel source hname hlists => h sel ⟨source, hname, hlists⟩
    exact D.bind (D.throughRows hasks keys) fun _ _ => D.pure _

/-- A load abides by a relation if its statement does and if the key it attaches under may be touched. -/
theorem load {entity name : String} (ht : ∀ id, Node.record id ∈ records → touched id name)
    (h : ∀ relation target sel, s.relation? entity name = some relation → s.entity? relation.target = some target →
      Loader.Asks relation.link target fields sel → asks (.select sel)) :
    Abides T (Loader.load s entity records name fields filter : Run δ (List Node)) := by
  cases hr : s.relation? entity name with
  | none =>
    rw [Loader.load_of_unknown hr]
    exact D.throw _
  | some relation =>
    obtain ⟨rfl, _⟩ := Schema.mem_of_relation? hr
    cases he : s.entity? relation.target with
    | none =>
      rw [Loader.load_of_absent hr he]
      exact D.throw _
    | some target =>
      rw [Loader.load_eq hr he]
      refine D.bind (D.keysOf _ _) fun keys _ => ?_
      refine D.bind (D.inHand (fun sel => h relation target sel hr he) keys) fun hand _ => ?_
      exact D.bind (D.attach ht) fun _ _ => D.pure _

end Load

end Discipline

namespace Guarantee

variable [Engine δ] {asks : Select → Prop} {touched : Nat → String → Prop} {R : World δ → World δ → Prop}
  (G : Guarantee asks touched R)
include G

/-- Work with a handler for its faults stays within a relation if both do. -/
protected theorem tryCatch {x : Run δ α} {f : Fault → Run δ α} (hx : Within R x) (hf : ∀ e, Within R (f e)) :
    Within R (tryCatch x f) := by
  intro w
  have hw := hx w
  rw [Gives.run_tryCatch]
  cases h : x.run.run w with
  | mk outcome m =>
    rw [h] at hw
    cases outcome with
    | error e => exact G.trans none hw (hf e m)
    | ok a => exact hw

theorem tellEvent (e : Event) : Within R (Run.tell e : Run δ Unit) := fun w => G.tell w e

theorem fetchFields (entity : String) : Within R (fetchFields entity : Run δ EntityFields) := fun w => G.build w entity

theorem visit (w : World δ) (entities : List String) : R w { w with registry := w.registry.visit entities } := by
  induction entities generalizing w with
  | nil => exact G.refl w none
  | cons entity rest ih =>
    exact G.trans none (G.build w entity) (ih { w with registry := (w.registry.get entity).2 })

theorem askFor {a : Action} (h : ∀ q, a.select? = some q → asks q) : Within R (EntityViews.ask a : Run δ Answer) :=
  match a with
  | .execute (.select q) => G.execute (h q rfl)
  | .execute .foreignKeys | .execute (.count _) | .execute (.insert ..) | .execute (.createTable ..)
  | .execute (.createIndex ..) | .execute (.tableExists _) | .execute (.raw ..) => G.execute trivial
  | .connect | .commit | .rollback | .close => fun w => G.turn w _ nofun

theorem observe {x : Run δ α} (hx : Within R x) : Within R (withConnection.observe x) :=
  G.tryCatch (G.bind hx fun _ _ => G.pure _) fun _ => G.pure _

/-- Work on a connection of its own stays within a relation if it does on any connection. -/
theorem withConnection {body : Run δ α} (h : Within R body) : Within R (withConnection body) := by
  refine G.bind (G.askFor (by nofun)) fun _ _ => G.bind (G.askFor (by nofun)) fun _ _ => G.bind (G.observe ?_) fun _ _ =>
    G.bind (G.askFor (by nofun)) fun _ _ => G.lift _
  refine G.bind (G.observe (G.bind h fun _ _ => G.bind (G.askFor (by nofun)) fun _ _ => G.pure _)) ?_
  intro outcome _
  cases outcome with
  | ok a => exact G.pure _
  | error e => exact G.bind (G.askFor (by nofun)) fun _ _ => G.throw _

/-- Around work that succeeds within a connection there are steps of the same kind. -/
theorem withConnection_gives {body : Run δ α} {w w' : World δ} {a : α}
    (h : Gives (EntityViews.withConnection body) w a w') : ∃ w₁ w₂, R w w₁ ∧ Gives body w₁ a w₂ ∧ R w₂ w' := by
  obtain ⟨w₁, w₂, _, _, hbefore, hbody, hafter⟩ := withConnection_parts h
  refine ⟨w₁, w₂, ?_, hbody, ?_⟩
  · exact (G.bind (G.askFor (by nofun)) fun _ _ => G.askFor (by nofun)).of_gives hbefore
  · exact (G.bind (G.askFor (by nofun)) fun _ _ => G.askFor (by nofun)).of_gives hafter

theorem fetchAll (sql : String) (params : List Value) : Within R (Database.fetchAll sql params : Run δ (List Node)) :=
  G.withConnection (G.bind (G.askFor (by nofun)) fun _ _ => G.bind (G.lift _) fun _ _ => G.mapM _ fun _ => G.newRecordOf _)

end Guarantee

end Run

namespace Repository

variable {δ : Type} [Engine δ] {asks : Select → Prop} {ofKind : Statement → Prop} {touched : Nat → String → Prop}
  {R : World δ → World δ → Prop} {T : World δ → Option Fault → World δ → Prop} {s : Schema} {e : Entity} {entity : String} {roots : List Node} {filter orderBy : Value}
  {fields : Option (List String)} {populate : List String} {limit offset : Option Int}

def Asks (s : Schema) (entity : String) (fields : Option (List String)) (path : String) (sel : Select) : Prop :=
  ∃ parent relation target,
    entityAt s (Text.splitLast '.' path).1 entity
      (if (Text.splitLast '.' path).1 = "" then [] else Text.segments (Text.splitLast '.' path).1) = .ok parent ∧
    s.relation? parent (Text.splitLast '.' path).2 = some relation ∧ s.entity? relation.target = some target ∧
    Loader.Asks relation.link target (fields.map (fieldsUnder · path)) sel

def rootStatement (s : Schema) (e : Entity) (filter : Value) (fields : Option (List String)) (orderBy : Value)
    (limit offset : Option Int) : Run δ Select := do
  let q ← Query.start e Loader.mainRow
  let q ← q.selecting (e.selection (fields.map ownFields))
  let q ← Run.compile (q.filtered s filter)
  let keys ← sortKeys orderBy
  ((q.sorted keys).paged limit offset).build

theorem find_eq : (find s e filter fields populate orderBy limit offset : Run δ (List Node)) =
    rootStatement s e filter fields orderBy limit offset >>= fun statement => withConnection do
      let records ← fetchRecords e statement
      if !populate.isEmpty && !records.isEmpty then
        populatePaths s e.name records populate fields .null none
      return records := by
  simp only [find, rootStatement, bind_assoc]

omit [Engine δ] in
/-- The statement for the root records asks for the id and the wanted fields, with the page that is given. -/
theorem rootStatement_yields {sel : Select}
    (h : Run.Yields (rootStatement s e filter fields orderBy limit offset : Run δ Select) sel) :
    sel.Lists e (fun name => name = "id" ∨ name ∈ e.selection (fields.map ownFields)) [] ∧
      ∀ n, limit = some n → sel.page = .window n (offset.getD 0) := by
  obtain ⟨w, w', h⟩ := h
  simp only [rootStatement, Gives.bind_iff, Gives.lift_iff, Run.compile_gives] at h
  obtain ⟨start, _, ⟨hstart, rfl⟩, q₀, _, ⟨hselecting, rfl⟩, q, _, ⟨n, hfiltered, rfl⟩, keys, _, ⟨_, rfl⟩, hbuild, _⟩ := h
  obtain ⟨hchosen, columns, formulas, rfl⟩ := Query.selecting_chosen hstart hselecting
  obtain ⟨clauses, rfl⟩ := Query.filtered_gives hfiltered
  obtain ⟨table, row, _, _, rfl⟩ := Query.start_ok hstart
  obtain ⟨hlists, hpage⟩ := hchosen.lists hbuild rfl rfl rfl
  refine ⟨hlists, ?_⟩
  rintro n rfl
  exact hpage

theorem abides_rootStatement (D : Run.Discipline ofKind touched T) :
    Run.Abides T (rootStatement s e filter fields orderBy limit offset : Run δ Select) :=
  D.bind (D.lift _) fun _ _ => D.bind (D.lift _) fun _ _ => D.bind (D.compile _) fun _ _ => D.bind (D.lift _) fun _ _ =>
    D.lift _

/-- To populate a path asks for the fields under it and touches its last key only. -/
theorem abides_populatePath (D : Run.Discipline ofKind touched T) {path : String}
    (ht : ∀ id, touched id (Text.splitLast '.' path).2)
    (h : ∀ sel, Asks s entity fields path sel → ofKind (.select sel)) :
    Run.Abides T (populatePath s entity roots fields filter path : Run δ Unit) := by
  refine D.bind (D.lift _) ?_
  rintro parent ⟨_, _, hparent⟩
  refine D.bind D.get fun w _ => D.bind (D.lift _) fun parents _ => ?_
  split
  · exact D.pure _
  · refine D.bind (D.load (fun id _ => ht id) ?_) fun _ _ => D.pure _
    intro relation target sel hrelation htarget hsel
    exact h sel ⟨parent, relation, target, (Gives.lift_iff.mp hparent).1, hrelation, htarget, hsel⟩

theorem mem_parentsFirst {path : String} {paths : List String} : path ∈ parentsFirst paths ↔ path ∈ paths := by
  rw [parentsFirst, List.mem_mergeSort, mem_distinct]

theorem abides_populatePaths (D : Run.Discipline ofKind touched T)
    (ht : ∀ path ∈ populate, ∀ id, touched id (Text.splitLast '.' path).2)
    {filterPath : Option String} (h : ∀ path ∈ populate, ∀ sel, Asks s entity fields path sel → ofKind (.select sel)) :
    Run.Abides T (populatePaths s entity roots populate fields filter filterPath : Run δ Unit) :=
  D.forM _ fun path hpath =>
    abides_populatePath D (ht path (mem_parentsFirst.mp hpath)) (h path (mem_parentsFirst.mp hpath))

/-- To populate paths asks for the fields under them and touches their last keys only. -/
theorem within_populate (G : Run.Guarantee asks touched R)
    (ht : ∀ path ∈ populate, ∀ id, touched id (Text.splitLast '.' path).2)
    (h : ∀ path ∈ populate, ∀ sel, Asks s entity fields path sel → asks sel) :
    Run.Within R (Repository.populate s entity roots populate filter fields : Run δ Unit) := by
  unfold Repository.populate
  split
  · exact G.pure _
  · split
    · exact G.pure _
    · exact G.withConnection (abides_populatePaths G.toDiscipline ht h)

/-- To find records asks for the root records, then for what is populated. -/
theorem within_find (G : Run.Guarantee asks touched R)
    (ht : ∀ path ∈ populate, ∀ id, touched id (Text.splitLast '.' path).2)
    (hroot : ∀ sel : Select, sel.Lists e (fun name => name = "id" ∨ name ∈ e.selection (fields.map ownFields)) [] → asks sel)
    (h : ∀ path ∈ populate, ∀ sel, Asks s e.name fields path sel → asks sel) :
    Run.Within R (find s e filter fields populate orderBy limit offset : Run δ (List Node)) := by
  rw [find_eq]
  refine G.bind (abides_rootStatement G.toDiscipline) ?_
  intro sel hsel
  refine G.withConnection (G.bind (G.fetchRecords _ (hroot sel (rootStatement_yields hsel).1)) fun records _ => ?_)
  split
  · exact G.bind (abides_populatePaths G.toDiscipline ht h) fun _ _ => G.pure _
  · exact G.pure _

end Repository

end EntityViews
