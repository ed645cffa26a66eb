import EntityViews.Proofs.Restriction
import EntityViews.Storage.Repository

/-!
The select lists of statements. A query lists the id and the fields that it was asked for, and after them what it was
extended by; so do the statements that records and their relations are fetched with.
-/

namespace EntityViews

open Sql

namespace Sql

def Output.IsOf (e : Entity) (row : Alias) (name : String) : Output → Prop
  | .term t => ∃ n, t = .column row n ∧ n.text = name ∧ e.formula? name = none
  | .labelled t n => n.text = name ∧ ∃ f, e.formula? name = some f ∧ Term.ofFormula f row = .ok t
  | .raw _ => False

/-- A field is told under its own name. -/
theorem Output.label_of_isOf {e : Entity} {row : Alias} {name : String} {o : Output} (h : o.IsOf e row name) :
    o.label = name := by
  cases o with
  | term t =>
    obtain ⟨n, rfl, hn, _⟩ := h
    exact hn
  | labelled t n => exact h.1
  | raw sql => exact h.elim

structure Select.Lists (q : Select) (e : Entity) (P : String → Prop) (more : List Output) : Prop where
  table : q.table.text = e.name
  outputs : ∃ own, q.outputs = own ++ more ∧ (∀ o ∈ own, ∃ name, P name ∧ o.IsOf e q.row name) ∧
    ∀ name, P name → ∃ o ∈ own, o.IsOf e q.row name

theorem Select.Lists.congr {q : Select} {e : Entity} {P P' : String → Prop} {more : List Output}
    (h : q.Lists e P more) (hp : ∀ name, P name ↔ P' name) : q.Lists e P' more := by
  have he : P = P' := funext fun name => propext (hp name)
  exact he ▸ h

/-- The names of what a statement gives are those of the fields and of what comes after them. -/
theorem Select.Lists.labels {q : Select} {e : Entity} {P : String → Prop} {more : List Output} (h : q.Lists e P more)
    (label : String) : label ∈ q.outputs.map Output.label ↔ P label ∨ label ∈ more.map Output.label := by
  obtain ⟨own, ho, hfrom, hto⟩ := h.outputs
  rw [ho, List.map_append, List.mem_append]
  refine or_congr_left ?_
  rw [List.mem_map]
  constructor
  · rintro ⟨o, ho, rfl⟩
    obtain ⟨name, hname, hof⟩ := hfrom o ho
    rwa [Output.label_of_isOf hof]
  · intro hl
    obtain ⟨o, ho, hof⟩ := hto label hl
    exact ⟨o, ho, Output.label_of_isOf hof⟩

namespace Query

theorem selects_selectOne {q q' : Query} {name : String} (h : q.selectOne name = .ok q') (other : String) :
    q'.selects other = true ↔ q.selects other = true ∨ other = name := by
  rw [selectOne] at h
  split at h
  · rename_i hknown
    cases h
    constructor
    · exact Or.inl
    · rintro (h | rfl)
      · exact h
      · exact hknown
  split at h
  · rename_i f hf
    cases h
    have hname : f.name = name := by simpa using List.find?_some hf
    simp only [selects_iff, List.mem_append, List.mem_singleton, or_and_right, exists_or, exists_eq_left, hname]
    rw [or_assoc, eq_comm (a := other)]
  · split at h
    · cases h
      simp only [selects_iff, List.mem_append, List.mem_singleton]
      rw [or_right_comm]
    · cases h

/-- Selecting some names adds just these names. -/
theorem selects_selectEach {q : Query} (names : List String) (h : (q.selectEach names).2 = .ok ⟨⟩) (other : String) :
    (q.selectEach names).1.selects other = true ↔ q.selects other = true ∨ other ∈ names := by
  induction names generalizing q with
  | nil => simp [selectEach]
  | cons name rest ih =>
    rw [selectEach] at h ⊢
    cases hq : q.selectOne name with
    | error e =>
      rw [hq] at h
      cases h
    | ok q' =>
      rw [hq] at h
      simp only [ih h, selects_selectOne hq, List.mem_cons, or_assoc]

structure Chosen (q : Query) (e : Entity) (names : List String) : Prop where
  table : q.table.text = e.name
  selects : ∀ name, q.selects name = true ↔ name = "id" ∨ name ∈ names
  columns : ∀ c ∈ q.columns, e.formula? c = none
  formulas : ∀ f ∈ q.formulas, e.formula? f.name = some f

variable {q q' : Query} {e : Entity} {names : List String}

/-- A new query that selects some names chooses just these fields. -/
theorem selecting_chosen {row : String} (hstart : Query.start e row = .ok q) (h : q.selecting names = .ok q') :
    q'.Chosen e names ∧ ∃ columns formulas, q' = { q with columns := columns, formulas := formulas } := by
  obtain ⟨table, name, htable, _, rfl⟩ := start_ok hstart
  rw [selecting] at h
  cases ho : (select ⟨e, table, name, [], [], [], [], [], [], none, none⟩ names).2 with
  | error f =>
    simp only [ho] at h
    cases h
  | ok u =>
    simp only [ho] at h
    cases h
    obtain ⟨⟨columns, formulas, hq, hcolumns, hformulas⟩, _⟩ := widens_selectEach ("id" :: names) ho
    have hselects := selects_selectEach ("id" :: names) ho
    rw [select]
    refine ⟨⟨?_, ?_, ?_, ?_⟩, _, _, hq⟩
    · rw [hq]
      exact htable
    · intro other
      rw [hselects, List.mem_cons]
      simp [selects_iff]
    · rw [hq]
      exact hcolumns
    · rw [hq]
      exact hformulas

/-- A filter adds clauses and changes nothing else. -/
theorem filtered_gives {s : Schema} {filter : Value} {n n' : Nat} (h : Gives (q.filtered s filter) n q' n') :
    ∃ clauses, q' = { q with clauses := clauses } := by
  rw [filtered] at h
  split at h
  · obtain ⟨c, m, _, h⟩ := Gives.bind_iff.mp h
    obtain ⟨rfl, _⟩ := Gives.pure_iff.mp h
    exact ⟨_, rfl⟩
  · obtain ⟨rfl, _⟩ := Gives.pure_iff.mp h
    exact ⟨_, rfl⟩

/-- The outputs of a query are the id and the chosen fields, and after them what was added in given words. -/
theorem Chosen.outputs {outputs : List Output} (hq : q.Chosen e names) (h : q.outputs = .ok outputs) :
    ∃ own, outputs = own ++ q.extraColumns ∧
      (∀ o ∈ own, ∃ name, (name = "id" ∨ name ∈ names) ∧ o.IsOf e q.rowAlias name) ∧
      ∀ name, name = "id" ∨ name ∈ names → ∃ o ∈ own, o.IsOf e q.rowAlias name := by
  rw [Query.outputs] at h
  obtain ⟨columns, hcolumns, h⟩ := Except.bind_ok h
  obtain ⟨formulas, hformulas, h⟩ := Except.bind_ok h
  cases h
  refine ⟨columns ++ formulas, rfl, ?_⟩
  obtain ⟨hfrom, hto⟩ := Except.mem_of_mapM_ok hcolumns
  obtain ⟨hfrom', hto'⟩ := Except.mem_of_mapM_ok hformulas
  have hcolumn : ∀ c ∈ q.columns, ∀ o, ((Name.make? c).map fun n => Output.term (.column q.rowAlias n)) = .ok o →
      o.IsOf e q.rowAlias c := by
    intro c hc o ho
    obtain ⟨n, hn, rfl⟩ := Except.map_ok ho
    exact ⟨n, rfl, Name.text_of_ofText? hn, hq.columns c hc⟩
  have hformula : ∀ f ∈ q.formulas, ∀ o, (do
      return Output.labelled (← Term.ofFormula f q.rowAlias) (← Name.make? f.name) : Except Fault Output) = .ok o →
      o.IsOf e q.rowAlias f.name := by
    intro f hf o ho
    obtain ⟨t, ht, ho⟩ := Except.bind_ok ho
    obtain ⟨n, hn, ho⟩ := Except.bind_ok ho
    cases ho
    exact ⟨Name.text_of_ofText? hn, f, hq.formulas f hf, ht⟩
  constructor
  · intro o ho
    rcases List.mem_append.mp ho with ho | ho
    · obtain ⟨c, hc, he⟩ := hfrom o ho
      exact ⟨c, (hq.selects c).mp (selects_iff.mpr (Or.inl hc)), hcolumn c hc o he⟩
    · obtain ⟨f, hf, he⟩ := hfrom' o ho
      exact ⟨f.name, (hq.selects f.name).mp (selects_iff.mpr (Or.inr ⟨f, hf, rfl⟩)), hformula f hf o he⟩
  · intro name hname
    rcases selects_iff.mp ((hq.selects name).mpr hname) with hc | ⟨f, hf, rfl⟩
    · obtain ⟨o, ho, he⟩ := hto name hc
      exact ⟨o, List.mem_append_left _ ho, hcolumn name hc o he⟩
    · obtain ⟨o, ho, he⟩ := hto' f hf
      exact ⟨o, List.mem_append_right _ ho, hformula f hf o he⟩

theorem settled_of_selects {name : String} (h : q.selects name = true) : q.settled = q := by
  rw [settled]
  split
  · rename_i hnone
    rw [Bool.and_eq_true, List.isEmpty_iff, List.isEmpty_iff] at hnone
    rw [selects_iff, hnone.1, hnone.2] at h
    simp at h
  · rfl

/-- What else a query is given does not change which fields its statement lists. -/
theorem Chosen.lists {sel : Select} (hq : q.Chosen e names) (h : q'.build = .ok sel) (ht : q'.table = q.table)
    (hc : q'.columns = q.columns) (hf : q'.formulas = q.formulas) :
    sel.Lists e (fun name => name = "id" ∨ name ∈ names) q'.extraColumns ∧ sel.page = q'.page := by
  have hq' : q'.Chosen e names := by
    refine ⟨ht ▸ hq.table, ?_, hc ▸ hq.columns, hf ▸ hq.formulas⟩
    intro name
    rw [← hq.selects, selects_iff, selects_iff, hc, hf]
  rw [build, settled_of_selects ((hq'.selects "id").mpr (Or.inl rfl))] at h
  obtain ⟨outputs, houtputs, h⟩ := Except.bind_ok h
  obtain ⟨order, _, h⟩ := Except.bind_ok h
  cases h
  exact ⟨⟨hq'.table, hq'.outputs houtputs⟩, rfl⟩

end Query

end Sql

def Link.targetKey? : Link → Option String
  | oneToMany key | oneToOneInverse key => some key
  | _ => none

namespace Loader

variable {δ : Type} {s : Schema} {target : Entity} {fields : Option (List String)} {filter : Value} {w w' : World δ}

/-- The query for a relation chooses the selection of the target, whatever its filter is. -/
theorem queryFor_chosen {q : Query} (h : Gives (queryFor s target fields filter) w q w') :
    q.Chosen target (target.selection fields) ∧ q.extraColumns = [] := by
  simp only [queryFor, Gives.bind_iff, Gives.lift_iff, Run.compile_gives] at h
  obtain ⟨start, _, ⟨hstart, rfl⟩, q₀, _, ⟨hselecting, rfl⟩, n, hfiltered, rfl⟩ := h
  obtain ⟨hchosen, columns, formulas, rfl⟩ := Query.selecting_chosen hstart hselecting
  obtain ⟨clauses, rfl⟩ := Query.filtered_gives hfiltered
  obtain ⟨table, row, _, _, rfl⟩ := Query.start_ok hstart
  exact ⟨⟨hchosen.table, hchosen.selects, hchosen.columns, hchosen.formulas⟩, rfl⟩

def fetched (link : Link) (fields : Option (List String)) : Option (List String) :=
  -- The key is fetched with what is wanted if the target holds it.
  match link with
  | .oneToMany key | .oneToOneInverse key => fields.map (· ++ [key])
  | _ => fields

/-- Whether a statement is of the kind that a relation is loaded with: it lists fields of the target, and the id of the
source where a table of its own has that. -/
def Asks (link : Link) (target : Entity) (fields : Option (List String)) (sel : Select) : Prop :=
  match link with
  | .manyToMany _ sourceKey _ => ∃ source, Name.text source = sourceKey ∧
    sel.Lists target (fun name => name = "id" ∨ name ∈ target.selection (fetched link fields))
      [.labelled (.column joinRow source) sourceLabel]
  | _ => sel.Lists target (fun name => name = "id" ∨ name ∈ target.selection (fetched link fields)) []

end Loader

end EntityViews
