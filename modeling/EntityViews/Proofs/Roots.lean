import Mathlib.Data.List.Forall2
import EntityViews.Proofs.Paging
import EntityViews.Proofs.Scope

/-!
The root records of a view. Main statement: the statement that they are looked up with depends on the filter, the order,
the page and the columns and formulas that are asked for of the root, and on nothing else; and a run that succeeds gives
one record for each row of its answer, in the order of the rows.
-/

namespace EntityViews

open Sql

def Source.selected : Source → Bool
  | column | formula => true
  | _ => false

def EntityFields.selects (f : EntityFields) (name : String) : Bool := (f.source? name).any Source.selected

def EntityFields.NamesRelations (f : EntityFields) : Prop :=
  ∀ name r, f.source? name = some (.relation r) → r.populate ≠ ""

namespace Tour

/-- The fields that a level asks for are those of its names that are columns or formulas. -/
theorem fields_asked? {sources : EntityFields} {path : String} {names : List String} {asked : List Asked}
    (h : asked? sources path names = some asked) :
    asked.filterMap Asked.field? = (names.filter sources.selects).map (Text.qualify path) := by
  induction names generalizing asked with
  | nil =>
    rw [asked?, Option.some.injEq] at h
    subst h
    rfl
  | cons name rest ih =>
    rw [asked?] at h
    simp only [bind, Option.bind_eq_some_iff] at h
    obtain ⟨source, hs, more, hmore, hasked⟩ := h
    have hrest := ih hmore
    have hselects : sources.selects name = source.selected := by rw [EntityFields.selects, hs, Option.any_some]
    cases source with
    | column | formula =>
      cases hasked
      rw [List.filterMap_cons, List.filter_cons_of_pos (hselects.trans rfl), List.map_cons, hrest]
      rfl
    | annotated =>
      cases hasked
      rw [List.filterMap_cons, List.filter_cons_of_neg (by simp [hselects, Source.selected]), hrest]
      rfl
    | relation =>
      cases hasked
      rw [List.filter_cons_of_neg (by simp [hselects, Source.selected]), hrest]
    | «foreign» => cases hasked

section Dotted

variable {graph : Graph} {context : Context} {overrides : Value}

theorem mem_qualify {path : String} (h : path ≠ "") (name : String) : '.' ∈ (Text.qualify path name).toList := by
  rw [Text.qualify, if_neg h]
  simp [String.toList_append]

/-- A name that is not empty has a path that is not empty. -/
theorem qualify_ne {name : String} (h : name ≠ "") (path : String) : Text.qualify path name ≠ "" := by
  by_cases hp : path = ""
  · rwa [Text.qualify, if_pos hp]
  · intro he
    have hdot := mem_qualify hp name
    rw [he] at hdot
    exact List.not_mem_nil hdot

mutual

/-- What is asked for of related records goes by a name with a dot. -/
theorem dotted_of? (hg : ∀ entity f, graph entity = .ok f → f.NamesRelations) : (view : NormalView) →
    ∀ (sources : EntityFields) (path : String) (tour : Tour), sources.NamesRelations → path ≠ "" →
    of? graph context overrides sources path view = some tour → ∀ f ∈ tour.gather.fields, '.' ∈ f.toList
  | .mk fields relations => by
    intro sources path tour hs hp h f hf
    simp only [of?, bind, Option.bind_eq_some_iff, pure, Option.some.injEq] at h
    obtain ⟨asked, hasked, legs, hlegs, rfl⟩ := h
    rcases List.mem_append.mp hf with hown | hbelow
    · have hown' : f ∈ asked.filterMap Asked.field? := hown
      rw [fields_asked? hasked] at hown'
      obtain ⟨name, _, rfl⟩ := List.mem_map.mp hown'
      exact mem_qualify hp name
    · exact dotted_legs? hg relations sources path legs hs hlegs f hbelow

/-- Where relations have names, every field of the legs has a dot in its path. -/
theorem dotted_legs? (hg : ∀ entity f, graph entity = .ok f → f.NamesRelations) :
    (relations : List (String × NormalView)) → ∀ (sources : EntityFields) (path : String) (legs : List (Leg × Tour)),
    sources.NamesRelations → legs? graph context overrides sources path relations = some legs →
    ∀ f ∈ (gatherLegs legs).fields, '.' ∈ f.toList
  | [] => by
    intro sources path legs hs h f hf
    rw [legs?, Option.some.injEq] at h
    subst h
    cases hf
  | (name, view) :: rest => by
    intro sources path legs hs h f hf
    rcases legs?_cons h with ⟨_, h⟩ | ⟨r, target, tour, own, given, legs', hr, htarget, htour, _, _, hlegs, rfl⟩
    · exact dotted_legs? hg rest sources path legs hs h f hf
    · have hhere : Text.qualify path r.populate ≠ "" := qualify_ne (hs name r hr) path
      have hnested := dotted_of? hg view target _ tour (hg _ _ htarget) hhere htour
      rcases List.mem_append.mp hf with hleg | hrest
      · -- Fields below a filtered relation are asked for with it, the others with the root.
        unfold Plan.ofLeg at hleg
        split at hleg
        · cases hleg
        · exact hnested f hleg
      · exact dotted_legs? hg rest sources path legs' hs hlegs f hrest

end

end Dotted

end Tour

def Engine.connected {δ : Type} [Engine δ] (d : δ) : Except Fault δ := do
  let _ ← (Engine.perform .connect d).1
  let d := (Engine.perform .connect d).2
  let _ ← (Engine.perform (.execute .foreignKeys) d).1
  return (Engine.perform (.execute .foreignKeys) d).2

def World.after {δ : Type} [Engine δ] (w : World δ) (a : Action) : World δ :=
  { w with database := (Engine.perform a w.database).2, actions := w.actions.push a }

structure Store.Lists (s t : Store) (e : Entity) (rows : List (List (Value × Value))) (records : List Node) : Prop where
  made : List.Forall₂ (fun row n => ∃ id, n = .record id ∧ s.New t id ∧ t.Made e row id) rows records
  nodup : records.Nodup

variable {δ α β : Type}

namespace Run

/-- Whether some work asks for rows by a statement before it asks for any by another one, however it ends. -/
def Starts (sel : Select) (x : Run δ α) : Prop := ∀ w, ∃ more, (x.run.run w).2.selects = w.selects ++ sel :: more

variable {sel : Select}

theorem continued {before : List Select} {m w' : World δ} (hx : ∃ more, m.selects = before ++ sel :: more)
    (h : Asked (fun _ => True) m w') : ∃ more, w'.selects = before ++ sel :: more := by
  obtain ⟨more, hmore⟩ := hx
  obtain ⟨further, hfurther, _⟩ := h
  refine ⟨more ++ further, ?_⟩
  rw [hfurther, hmore, List.append_assoc, List.cons_append]

/-- What was asked for first stays the first, whatever is done afterwards. -/
theorem bind_continued {before : List Select} {x : Run δ α} {f : α → Run δ β} {w : World δ}
    (hstart : ∃ more, (x.run.run w).2.selects = before ++ sel :: more)
    (hf : ∀ a, Within (Asked fun _ => True) (f a)) : ∃ more, ((x >>= f).run.run w).2.selects = before ++ sel :: more := by
  rw [Gives.run_bind]
  cases hrun : x.run.run w with
  | mk outcome m =>
    rw [hrun] at hstart
    cases outcome with
    | error e => exact hstart
    | ok a => exact continued hstart (hf a m)

theorem Starts.bind {x : Run δ α} {f : α → Run δ β} (hx : Starts sel x)
    (hf : ∀ a, Within (Asked fun _ => True) (f a)) : Starts sel (x >>= f) := fun w => bind_continued (hx w) hf

theorem Starts.tryCatch {x : Run δ α} {f : Fault → Run δ α} (hx : Starts sel x)
    (hf : ∀ e, Within (Asked fun _ => True) (f e)) : Starts sel (tryCatch x f) := by
  intro w
  have hstart := hx w
  rw [Gives.run_tryCatch]
  cases hrun : x.run.run w with
  | mk outcome m =>
    rw [hrun] at hstart
    cases outcome with
    | error e => exact continued hstart (hf e m)
    | ok a => exact hstart

variable [Engine δ]

theorem Starts.execute (sel : Select) : Starts sel (EntityViews.execute (.select sel) : Run δ Answer) := by
  intro w
  refine ⟨[], ?_⟩
  exact (congrArg (List.filterMap Action.select?) (Array.toList_push ..)).trans (List.filterMap_append ..)

def connected (body : Run δ α) : Run δ α := do
  let outcome ← withConnection.observe do
    let outcome ← withConnection.observe do
      let result ← body
      let _ ← ask .commit
      return result
    match outcome with
    | .ok result => return result
    | .error fault =>
      let _ ← ask .rollback
      throw fault
  let _ ← ask .close
  outcome

/-- A connected body starts with the statement that the body starts with. -/
theorem Starts.connected {body : Run δ α} (h : Starts sel body) : Starts sel (connected body) := by
  have G := guarantee_asked (δ := δ) fun _ => True
  have hobserve {γ : Type} {x : Run δ γ} (hx : Starts sel x) : Starts sel (withConnection.observe x) :=
    (hx.bind fun _ => G.pure _).tryCatch fun _ => G.pure _
  have hwork : Starts sel (body >>= fun result => ask .commit >>= fun _ => pure result) :=
    h.bind fun _ => G.bind (G.askFor (by nofun)) fun _ _ => G.pure _
  refine (hobserve ((hobserve hwork).bind ?_)).bind fun _ => G.bind (G.askFor (by nofun)) fun _ _ => G.lift _
  intro outcome
  cases outcome with
  | ok result => exact G.pure _
  | error fault => exact G.bind (G.askFor (by nofun)) fun _ _ => G.throw _

theorem ask_run (a : Action) (w : World δ) :
    (ask a : Run δ Answer).run.run w = ((Engine.perform a w.database).1, w.after a) := rfl

end Run

namespace Run

def Computes (x : Run δ α) (outcome : Nat → Except Fault α) : Prop :=
  ∀ w, ∃ n, x.run.run w = (outcome w.nextAlias, { w with nextAlias := n })

theorem Computes.lift (x : Except Fault α) : Computes (liftM x : Run δ α) fun _ => x := fun w => ⟨w.nextAlias, rfl⟩

theorem Computes.lift_bind {x : Except Fault α} {f : α → Run δ β} {g : α → Nat → Except Fault β}
    (h : ∀ a, Computes (f a) (g a)) : Computes (liftM x >>= f) fun n => x >>= fun a => g a n := by
  intro w
  rw [Gives.run_bind]
  cases x with
  | error fault => exact ⟨w.nextAlias, rfl⟩
  | ok a => exact h a w

end Run

namespace Repository

variable {s : Schema} {e : Entity} {filter : Value} {fields populate : List String} {paging : Paging} {w w' : World δ}

variable [Engine δ]

def lookup (s : Schema) (e : Entity) (fields populate : List String) (sel : Select) : Run δ (List Node) := do
  let records ← fetchRecords e sel
  if !populate.isEmpty && !records.isEmpty then
    populatePaths s e.name records populate (some fields) .null none
  return records

end Repository

namespace Execution

variable [Engine δ] {s : Schema} {e : Entity} {filter overrides view : Value} {sources : EntityFields} {context : Context}
  {paging : Paging} {p : Plan} {w w' : World δ}

def complete (source : RecordSource δ) (p : Plan) (sources : EntityFields) (context : Context) (records : List Node) :
    Run δ (List Node) := do
  p.filtered.forM fun f => source.populate records f.populate f.filter f.fields
  p.annotations.forM fun a => do
    let targets ← recordsAt sources a.path records
    annotate a.annotator targets context
  return records

end Execution

end EntityViews
