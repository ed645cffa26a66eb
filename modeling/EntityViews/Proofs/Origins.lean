import EntityViews.Proofs.Course
import EntityViews.Proofs.Faults
import EntityViews.Proofs.Scope

/-!
Where a fault about a path comes from. Main statement: if the database has none, an execution that ends in one has found its
root records and done all its loads before.
-/

namespace EntityViews

open Sql

/-! The database. -/

def Engine.Pathless (δ : Type) [Engine δ] : Prop :=
  ∀ (action : Action) (d : δ), Except.Pathless (Engine.perform action d).1 ∧
    ∀ answer, (Engine.perform action d).1 = .ok answer → Except.Pathless answer.rows

/-- A database that holds contents fails by no fault of a path. -/
theorem pathless_snapshot (db : Contents) : Engine.Pathless (Snapshot db) := by
  intro action d
  -- Every action has an answer, and all its rows can be read.
  obtain ⟨answer, rows, hanswer, hrows⟩ :
      ∃ answer rows, (Engine.perform action d).1 = .ok answer ∧ answer.rows = .ok rows := by
    cases action with
    | execute statement => cases statement <;> exact ⟨_, _, rfl, rfl⟩
    | _ => exact ⟨_, _, rfl, rfl⟩
  rw [hanswer]
  refine ⟨.ok _, ?_⟩
  intro a ha
  cases ha
  rw [hrows]
  exact .ok _

section Database

variable {δ α : Type}

namespace Run

theorem compile_pathless {c : Compile α} (h : Pathless c) : Pathless (Run.compile c : Run δ α) := fun w => h w.nextAlias

theorem field?_pathless (n : Node) (key : String) : Pathless (field? n key : Run δ (Option Node)) := by
  unfold field?
  split
  · exact .bind .get fun _ => .pure _
  · exact .throw trivial

theorem item_pathless (n : Node) (key : String) : Pathless (item n key : Run δ Node) := by
  unfold item
  split
  · refine .bind .get fun w => ?_
    split
    · exact .pure _
    · exact .throw trivial
  · exact .throw trivial

theorem setField_pathless (n : Node) (key : String) (v : Node) : Pathless (setField n key v : Run δ Unit) := by
  unfold setField
  split
  · exact .modify _
  · exact .throw trivial

theorem newNode_pathless (v : Value) : Pathless (newNode v : Run δ Node) := fun _ => .ok _

/-- A fault that is held back as a value is of the same kind when it is passed on. -/
theorem observe_pathless {β : Type} {x : Run δ α} {f : Except Fault α → Run δ β} (hx : Pathless x)
    (hf : ∀ outcome, Except.Pathless outcome → Pathless (f outcome)) : Pathless (withConnection.observe x >>= f) := by
  refine Pathless.bind_of_gives ?_ ?_
  · intro w
    rw [observe_run]
    exact .ok _
  · intro w outcome w' h
    have hrun := (observe_run x w).symm.trans h
    cases hrun
    exact hf _ (hx w)

end Run

theorem recordOfRow_pathless (e : Entity) (row : List (Value × Value)) : Pathless (recordOfRow e row : Run δ Node) :=
  .bind (.lift (e.fieldsOfRow_pathless row)) fun _ => Run.newNode_pathless _

variable [Engine δ] (engine : Engine.Pathless δ)
include engine

theorem ask_pathless (action : Action) : Pathless (ask action : Run δ Answer) := fun w => (engine action w.database).1

/-- A connection around work adds no fault of a path. -/
theorem withConnection_pathless {body : Run δ α} (h : Pathless body) : Pathless (withConnection body) := by
  have hinner : Pathless (body >>= fun a => ask .commit >>= fun _ => pure a) :=
    .bind h fun _ => .bind (ask_pathless engine _) fun _ => .pure _
  refine .bind (ask_pathless engine _) fun _ => .bind (ask_pathless engine _) fun _ => Run.observe_pathless ?_ ?_
  · refine Run.observe_pathless hinner ?_
    intro outcome houtcome
    cases outcome with
    | ok a => exact .pure _
    | error e => exact .bind (ask_pathless engine _) fun _ => .throw (houtcome e rfl)
  · intro outcome houtcome
    exact .bind (ask_pathless engine _) fun _ => .lift houtcome

/-- A statement and what is done with its rows. -/
theorem answer_pathless {β : Type} (statement : Statement) {f : List (List (Value × Value)) → Run δ β}
    (hf : ∀ rows, Pathless (f rows)) :
    Pathless (execute statement >>= fun answer => liftM answer.namedRows >>= f : Run δ β) := by
  refine Pathless.bind_of_gives (ask_pathless engine _) ?_
  intro w answer w' h
  exact .bind (.lift (.map ((engine _ _).2 answer (Run.ask_gives h).1) _)) hf

theorem fetchRecords_pathless (e : Entity) (q : Select) : Pathless (fetchRecords e q : Run δ (List Node)) :=
  answer_pathless engine _ fun _ => .mapM _ fun _ => recordOfRow_pathless e _

end Database

/-! Loads. -/

section Loads

variable {δ : Type}

namespace Loader

theorem queryFor_pathless (s : Schema) (target : Entity) (fields : Option (List String)) (filter : Value) :
    Pathless (queryFor s target fields filter : Run δ Query) :=
  .bind (.lift (Query.start_pathless target mainRow)) fun q => .bind (.lift (q.selecting_pathless _)) fun q =>
    Run.compile_pathless (q.filtered_pathless s filter)

/-- To read the keys of records fails by no fault of a path. -/
theorem keysOf_pathless (records : List Node) (field : String) : Pathless (keysOf records field : Run δ (List Value)) := by
  refine .bind (.filterMapM _ ?_) fun _ => .pure _
  intro r
  refine .bind (Run.field?_pathless r field) ?_
  intro v
  split
  · exact .pure _
  · exact .pure _
  · exact .bind (.lift (Node.key_pathless _)) fun _ => .pure _

theorem keyOf_pathless (record : Node) (field : String) : Pathless (keyOf record field : Run δ Value) := by
  refine .bind (Run.field?_pathless record field) ?_
  intro v
  split
  · exact .pure _
  · exact .lift (Node.key_pathless _)

theorem byField_pathless (records : List Node) (field : String) :
    Pathless (byField records field : Run δ (List (Value × Node))) := by
  refine .bind (.mapM _ ?_) fun _ => .pure _
  exact fun r => .bind (Run.item_pathless r field) fun v => .bind (.lift v.key_pathless) fun _ => .pure _

/-- One loop attaches what was loaded. -/
theorem attach_pathless (records : List Node) (key name : String) (f : Value → Node) :
    Pathless (records.forM fun r => do Run.setField r name (f (← keyOf r key)) : Run δ Unit) :=
  .forM _ fun r => .bind (keyOf_pathless r key) fun _ => Run.setField_pathless _ _ _

/-- To gather rows fails by no fault of a path. -/
theorem gather_pathless (target : Entity) (rows : List (List (Value × Value))) :
    Pathless (gather target rows : Run δ (List (Value × Node) × List (Value × List Node))) := by
  refine .foldlM _ _ ?_
  rintro ⟨known, groups⟩ row
  refine .bind (.lift (cell_pathless _ _)) fun source => .bind (.lift (keyCell_pathless _ _)) fun id => ?_
  have hend : ∀ (record : Node) (known : List (Value × Node)),
      Pathless (if source.isKey then return (known, addToGroup groups source record) else throw .mistyped :
        Run δ (List (Value × Node) × List (Value × List Node))) := by
    intro record known
    split
    · exact .pure _
    · exact .throw trivial
  cases lookup? id known with
  | some record => exact .bind (.pure _) fun _ => hend _ _
  | none => exact .bind (recordOfRow_pathless target _) fun _ => .bind (.pure _) fun _ => hend _ _

variable [Engine δ] (engine : Engine.Pathless δ) (s : Schema) (relation : Relation) (target : Entity)
  (fields : Option (List String)) (filter : Value) (keys : List Value)
include engine

theorem ownRelated_pathless : Pathless (ownRelated s target fields filter keys : Run δ (List (Value × Node))) := by
  unfold ownRelated
  split
  · exact .pure _
  · exact .bind (queryFor_pathless s target fields filter) fun _ => .bind (.lift (Query.build_pathless _)) fun _ =>
      .bind (fetchRecords_pathless engine target _) fun _ => byField_pathless _ _

theorem theirRows_pathless (key : String) :
    Pathless (theirRows s relation key target fields filter keys : Run δ (List Node)) := by
  unfold theirRows
  split
  · exact .pure _
  · exact .bind (queryFor_pathless s target _ filter) fun _ => .bind (.lift (Name.ofText?_pathless _ _)) fun _ =>
      .bind (.lift (Query.build_pathless _)) fun _ => fetchRecords_pathless engine target _

/-- To load what stands behind a table fails by no fault of a path. -/
theorem throughRows_pathless (table sourceKey targetKey : String) :
    Pathless (throughRows s relation table sourceKey targetKey target fields filter keys :
      Run δ (List (Value × Node) × List (Value × List Node))) := by
  have hname : ∀ text, Pathless (liftM (Name.make? text) : Run δ Name) := fun text => .lift (Name.ofText?_pathless _ text)
  unfold throughRows
  split
  · exact .pure _
  · exact .bind (queryFor_pathless s target fields filter) fun _ => .bind (hname _) fun _ => .bind (hname _) fun _ =>
      .bind (hname _) fun _ => .bind (.lift (Query.build_pathless _)) fun _ =>
        answer_pathless engine _ fun _ => gather_pathless target _

/-- To have related records in hand fails by no fault of a path. -/
theorem inHand_pathless :
    Pathless (inHand s relation target fields filter keys : Run δ ((Value → Node) × List Node)) := by
  unfold inHand
  cases relation.link with
  | manyToOne key | oneToOne key => exact .bind (ownRelated_pathless engine s target fields filter keys) fun _ => .pure _
  | oneToMany key | oneToOneInverse key =>
    refine .bind (theirRows_pathless engine s relation target fields filter keys key) fun rows => .bind ?_ fun _ => .pure _
    exact .foldlM _ _ fun _ _ => .bind (keyOf_pathless _ _) fun _ => .pure _
  | manyToMany table sourceKey targetKey =>
    exact .bind (throughRows_pathless engine s relation target fields filter keys _ _ _) fun _ => .pure _

/-- To load a relation fails by no fault of a path. -/
theorem load_pathless (records : List Node) (entity name : String) :
    Pathless (load s entity records name fields filter : Run δ (List Node)) := by
  cases hr : s.relation? entity name with
  | none =>
    rw [load_of_unknown hr]
    exact .throw trivial
  | some relation =>
    cases ht : s.entity? relation.target with
    | none =>
      rw [load_of_absent hr ht]
      exact .throw trivial
    | some target =>
      rw [load_eq hr ht]
      refine .bind (keysOf_pathless _ _) fun keys => ?_
      refine .bind (inHand_pathless engine s relation target fields filter keys) fun hand => ?_
      exact .bind (attach_pathless _ _ _ _) fun _ => .pure _

end Loader

variable [Engine δ] (engine : Engine.Pathless δ)
include engine

namespace Repository

variable (s : Schema) (entity : String) (roots : List Node) (fields : Option (List String)) (filter : Value)

/-- To populate paths fails by no fault of a path. -/
theorem populatePaths_pathless (paths : List String) (filterPath : Option String) :
    Pathless (populatePaths s entity roots paths fields filter filterPath : Run δ Unit) := by
  refine .forM _ ?_
  intro path
  refine .bind (.lift (entityAt_pathless s _ _ _)) fun parent => .bind .get fun w =>
    .bind (.lift (w.store.recordsAt_pathless roots _)) fun parents => ?_
  split
  · exact .pure _
  · exact .bind (Loader.load_pathless engine s _ _ _ _ _) fun _ => .pure _

/-- To load relations onto records does not fail at a path. -/
theorem populate_pathless (paths : List String) :
    Pathless (populate s entity roots paths filter fields : Run δ Unit) := by
  unfold populate
  split
  · exact .pure _
  · split
    · exact .pure _
    · exact withConnection_pathless engine (populatePaths_pathless engine s entity roots fields filter _ _)

omit [Engine δ] engine in
theorem rootStatement_pathless (e : Entity) (orderBy : Value) (limit offset : Option Int) :
    Pathless (rootStatement s e filter fields orderBy limit offset : Run δ Select) :=
  .bind (.lift (Query.start_pathless e _)) fun q => .bind (.lift (q.selecting_pathless _)) fun q =>
    .bind (Run.compile_pathless (q.filtered_pathless s filter)) fun _ =>
      .bind (.lift (sortKeys_pathless orderBy)) fun _ => .lift (Query.build_pathless _)

/-- To find records does not fail at a path. -/
theorem find_pathless (e : Entity) (paths : List String) (orderBy : Value) (limit offset : Option Int) :
    Pathless (find s e filter fields paths orderBy limit offset : Run δ (List Node)) := by
  rw [find_eq]
  refine .bind (rootStatement_pathless s fields filter e orderBy limit offset) fun sel => withConnection_pathless engine ?_
  refine .bind (fetchRecords_pathless engine e sel) fun records => ?_
  split
  · exact .bind (populatePaths_pathless engine s e.name records fields .null paths none) fun _ => .pure _
  · exact .pure _

end Repository

/-- To run a plan without annotators does not fail at a path. -/
theorem Execution.run_pathless (s : Schema) (e : Entity) (p : Plan) (filter : Value) (sources : EntityFields)
    (context : Context) (paging : Paging) :
    Pathless (run (Repository.source s e) { p with annotations := [] } filter sources context paging : Run δ (List Node)) := by
  refine .bind (Repository.find_pathless engine s _ _ e _ _ _ _) fun records => ?_
  refine .bind (.forM _ fun f => Repository.populate_pathless engine s e.name records _ _ _) fun _ => ?_
  exact .bind (.pure PUnit.unit) fun _ => .pure _

end Loads

namespace Setting

variable {δ : Type} [Engine δ] (x : Setting δ) {overrides view : Value} {w m : World δ}

/-- An execution that fails without its annotators fails with them in the same way. -/
theorem execute_error {fault : Fault}
    (h : (Execution.executeUnannotated x.source x.filter overrides view x.sources x.context x.paging).run.run w =
      (.error fault, m)) : (x.execute overrides view).run.run w = (.error fault, m) := by
  rw [Execution.executeUnannotated, Gives.run_bind] at h
  rw [execute, Execution.executeWith, Gives.run_bind]
  -- Up to the annotators both executions are the same work.
  cases hplan : (Execution.plan x.sources view x.context overrides "").run.run w with
  | mk outcome w₁ =>
    rw [hplan] at h
    cases outcome with
    | error e => exact h
    | ok p =>
      dsimp only at h ⊢
      rw [Execution.run, Execution.runWith, Gives.run_bind] at h
      rw [Execution.runWith, Gives.run_bind]
      dsimp only at h
      cases hfind : (x.source.find x.filter p.fields p.populate x.paging.orderBy x.paging.limit x.paging.offset).run.run w₁ with
      | mk outcome w₂ =>
        rw [hfind] at h
        cases outcome with
        | error e => exact h
        | ok records =>
          dsimp only at h ⊢
          rw [Gives.run_bind] at h ⊢
          cases hfiltered : (p.filtered.forM fun f => x.source.populate records f.populate f.filter f.fields).run.run w₂ with
          | mk outcome w₃ =>
            rw [hfiltered] at h
            cases outcome with
            | error e => exact h
            | ok done => cases h

/-- An execution of a view with a plan ends at a path only once its root records are found and its loads are done. -/
theorem gives_of_path {s : Schema} {e : Entity} {v : View} {p : Plan} {reason : PathProblem} {path : String}
    (engine : Engine.Pathless δ) (hsource : x.source = Repository.source s e) (hv : View.ofValue view = .ok v)
    (hp : Plan.compile w.registry.graph x.context overrides x.sources "" v = .ok p)
    (h : (x.execute overrides view).run.run w = (.error (.path reason path), m)) :
    ∃ roots loaded, Gives (Execution.executeUnannotated x.source x.filter overrides view x.sources x.context x.paging) w
      roots loaded := by
  cases hrun : (Execution.executeUnannotated x.source x.filter overrides view x.sources x.context x.paging).run.run w with
  | mk outcome loaded =>
    cases outcome with
    | ok roots => exact ⟨roots, loaded, hrun⟩
    | error fault =>
      -- The same fault would end the work before the annotators, and that has no fault of this kind.
      exfalso
      obtain ⟨hfault, _⟩ := Prod.mk.inj (h.symm.trans (x.execute_error hrun))
      obtain ⟨m₁, hplan⟩ := Execution.gives_plan hv hp
      rw [Execution.executeUnannotated, Gives.run_bind, show (Execution.plan x.sources view x.context overrides "").run.run w =
        (.ok p, m₁) from hplan, hsource] at hrun
      dsimp only at hrun
      have hpathless := Execution.run_pathless engine s e p x.filter x.sources x.context x.paging m₁
      rw [hrun] at hpathless
      have hcause := hpathless fault rfl
      rw [← Except.error.inj hfault] at hcause
      exact hcause

end Setting

end EntityViews
