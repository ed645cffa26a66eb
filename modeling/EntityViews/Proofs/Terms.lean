import EntityViews.Proofs.Combination

/-!
The terms of the condition that a filter compiles to. Main statement: what holds of all columns of rows, and of all formulas of
a schema that are put for these rows, holds of every term in the condition, at every depth of sub-selects.
-/

namespace EntityViews

open Sql

namespace Sql.Condition

mutual

/-- Whether all terms of a condition are of a kind, those that sub-selects give among them, whose rows are numbered. -/
def Over (P : Term → Prop) : Condition → Prop
  | always | never => True
  | compare _ term _ | isNull _ term | among _ term _ => P term
  | all parts | any parts => AllOver P parts
  | not part => part.Over P
  | within _ term column _ row condition => P term ∧ P (.column row column) ∧ (∃ n, row = .sub n) ∧ condition.Over P

def AllOver (P : Term → Prop) : List Condition → Prop
  | [] => True
  | part :: rest => part.Over P ∧ AllOver P rest

end

variable {P : Term → Prop}

theorem AllOver.conjunction {cs : List Condition} (h : AllOver P cs) : (Condition.conjunction cs).Over P := by
  unfold Condition.conjunction
  split
  · exact h.1
  · exact h

theorem AllOver.group {cs : List Condition} (h : AllOver P cs) (empty disjunctive : Bool) :
    Over P (if empty then (if disjunctive then .never else .always)
      else if disjunctive then .any cs else .all cs) := by
  cases empty
  · cases disjunctive <;> exact h
  · cases disjunctive <;> exact trivial

end Sql.Condition

structure Schema.Provides (s : Schema) (Rows : Alias → Prop) (P : Term → Prop) : Prop where
  sub : ∀ n, Rows (.sub n)
  column : ∀ row, Rows row → ∀ name, P (.column row name)
  formula : ∀ e ∈ s.entities, ∀ f ∈ e.formulas, ∀ row, Rows row → ∀ t, Term.ofFormula f row = .ok t → P t

namespace Filter

open Condition

variable {s : Schema} {Rows : Alias → Prop} {P : Term → Prop}

/-! Every step of compiling a filter is over the term that it is given. -/

section Steps

variable {t : Term} (ht : P t) {v : Value} {c : Condition}

include ht

theorem over_operatorCondition {op : Operator} (h : operatorCondition t op v = .ok c) : c.Over P := by
  obtain ⟨p, _, hmakes⟩ := operatorCondition_makes h
  cases hmakes with
  | isNull | notNull | compare | among | notAmong => exact ht
  | amongNone | notAmongNone => trivial

/-- The conditions of several operators speak of their term only. -/
theorem over_operatorConditions {whole : Value} {entries : List (Value × Value)} {cs : List Condition}
    (h : operatorConditions t whole entries = .ok cs) : AllOver P cs := by
  induction entries generalizing cs with
  | nil =>
    cases h
    trivial
  | cons e rest ih =>
    obtain ⟨c, cs', hc, hcs, rfl⟩ := Except.mapM_cons_ok h
    refine ⟨?_, ih hcs⟩
    simp only at hc
    split at hc
    · exact over_operatorCondition ht hc
    · cases hc

/-- The condition of a comparison speaks of its term only. -/
theorem over_comparisonCondition (h : comparisonCondition t v = .ok c) : c.Over P := by
  unfold comparisonCondition at h
  split at h
  · cases h
    trivial
  · obtain ⟨cs, hcs, rfl⟩ := Except.map_ok h
    exact (over_operatorConditions ht hcs).conjunction
  · exact over_operatorCondition ht h
  · exact over_operatorCondition ht h
  · exact over_operatorCondition ht h
  · exact over_operatorCondition ht h

end Steps

section Relation

variable (hs : s.Provides Rows P) {target : Entity} {v : Value} {nested : Alias → Compile Condition}
  (hn : ∀ k m d m', Gives (nested (.sub k)) m d m' → d.Over P) {c : Condition} {n n' : Nat}

include hs hn

/-- What is said of a key speaks of it and of the related rows. -/
theorem over_keyCondition {t : Term} (ht : P t) (h : Gives (keyCondition target t v nested) n c n') : c.Over P := by
  unfold keyCondition at h
  split at h
  · exact over_comparisonCondition ht (Gives.lift_iff.mp h).1
  · simp only [Gives.bind_iff, Gives.lift_iff, Gives.pure_iff, freshAlias_gives_iff] at h
    obtain ⟨_, _, ⟨rfl, _⟩, d, _, hd, table, _, _, rfl, _⟩ := h
    exact ⟨ht, hs.column _ (hs.sub n) .id, ⟨n, rfl⟩, hn _ _ d _ hd⟩

/-- What is said of a related row speaks of terms of this row. -/
theorem over_targetCondition {k : Nat} {back : Name} (h : Gives (targetCondition (.sub k) back v nested) n c n') :
    c.Over P := by
  unfold targetCondition at h
  split at h
  · obtain ⟨rfl, _⟩ := Gives.pure_iff.mp h
    exact hs.column _ (hs.sub k) back
  split at h
  · exact over_comparisonCondition (hs.column _ (hs.sub k) .id) (Gives.lift_iff.mp h).1
  · exact hn _ _ c _ h

/-- A relation speaks of the terms of its row and of the rows related to it. -/
theorem over_relationCondition {row : Alias} (hrow : Rows row) {link : Link}
    (h : Gives (relationCondition target row link v nested) n c n') : c.Over P := by
  have hid := hs.column row hrow .id
  cases link with
  | manyToOne key | oneToOne key =>
    rw [relationCondition_held target row key (by simp)] at h
    obtain ⟨t, _, ht, h⟩ := Gives.bind_iff.mp h
    obtain ⟨name, _, rfl⟩ := columnTerm_gives ht
    exact over_keyCondition hs hn (hs.column row hrow name) h
  | manyToMany table sourceKey targetKey =>
    rw [relationCondition_through] at h
    simp only [Gives.bind_iff, Gives.lift_iff, Gives.pure_iff, freshAlias_gives_iff] at h
    obtain ⟨_, _, ⟨rfl, rfl⟩, source, _, _, t, _, ht, d, _, hd, _, _, _, rfl, _⟩ := h
    obtain ⟨name, _, rfl⟩ := columnTerm_gives ht
    have hjoin := hs.column _ (hs.sub n)
    exact ⟨hid, hjoin source, ⟨n, rfl⟩, over_keyCondition hs hn (hjoin name) hd⟩
  | oneToMany key | oneToOneInverse key =>
    rw [relationCondition_back target row key (by simp)] at h
    simp only [Gives.bind_iff, Gives.lift_iff, Gives.pure_iff, freshAlias_gives_iff] at h
    obtain ⟨_, _, ⟨rfl, rfl⟩, back, _, _, d, _, hd, _, _, _, rfl, _⟩ := h
    exact ⟨hid, hs.column _ (hs.sub n) back, ⟨n, rfl⟩, over_targetCondition hs hn hd⟩

end Relation

mutual

/-- The condition of an accepted filter is over the terms that the schema provides for its rows. -/
theorem over_ofFilter (hs : s.Provides Rows P) : (filter : Value) → ∀ (entity : String) (row : Alias) (c : Condition)
    (n n' : Nat), Rows row → Gives (ofFilter s entity row filter) n c n' → c.Over P
  | .map [] => by
    intro entity row c n n' hrow h
    rw [ofFilter] at h
    obtain ⟨rfl, _⟩ := Gives.pure_iff.mp h
    trivial
  | .map (entry :: rest) => by
    intro entity row c n n' hrow h
    obtain ⟨e, cs, he, hcs, rfl⟩ := ofFilter_map_gives h
    exact (over_ofEntries hs (entry :: rest) e row _ cs _ _ (List.mem_of_find?_eq_some he) hrow hcs).conjunction
  | .scalar _ | .list _ | .tuple _ | .set _ => by
    intro entity row c n n' hrow h
    rw [ofFilter.eq_def] at h
    rw [always_of_gives h]
    trivial

/-- The entries of a map speak of terms of their row and of related rows. -/
theorem over_ofEntries (hs : s.Provides Rows P) : (entries : List (Value × Value)) → ∀ (e : Entity) (row : Alias)
    (whole : Value) (cs : List Condition) (n n' : Nat), e ∈ s.entities → Rows row →
    Gives (ofEntries s e row whole entries) n cs n' → AllOver P cs
  | [] => by
    intro e row whole cs n n' he hrow h
    rw [ofEntries] at h
    obtain ⟨rfl, _⟩ := Gives.pure_iff.mp h
    trivial
  | (key, value) :: rest => by
    intro e row whole cs n n' he hrow h
    obtain ⟨k, part, m, parts, hk, hpart, hparts, rfl⟩ := ofEntries_cons_gives h
    refine ⟨?_, over_ofEntries hs rest e row whole parts _ _ he hrow hparts⟩
    cases k with
    | negation =>
      obtain ⟨d, hd, rfl⟩ := hpart
      exact over_ofFilter hs value _ row d _ _ hrow hd
    | group disjunctive =>
      obtain ⟨items, ds, hv, hds, rfl⟩ := hpart
      exact over_ofGroup hs value items hv e.name row ds _ _ disjunctive hrow hds
    | relation r =>
      obtain ⟨target, _, hc⟩ := hpart
      refine over_relationCondition hs ?_ hrow hc
      intro k m d m' hd
      exact over_ofFilter hs value _ _ d _ _ (hs.sub k) hd
    | column name =>
      obtain ⟨t, _, ht, hc, rfl⟩ := hpart
      obtain ⟨column, _, rfl⟩ := columnTerm_gives ht
      exact over_comparisonCondition (hs.column row hrow column) hc
    | formula f =>
      obtain ⟨t, ht, hc, rfl⟩ := hpart
      exact over_comparisonCondition (hs.formula e he f (mem_formulas_of_key hk) row hrow t ht) hc

/-- The members of a group speak of terms of their row and of related rows. -/
theorem over_ofMembers (hs : s.Provides Rows P) : (filters : List Value) → ∀ (entity : String) (row : Alias)
    (cs : List Condition) (n n' : Nat), Rows row → Gives (ofMembers s entity row filters) n cs n' → AllOver P cs
  | [] => by
    intro entity row cs n n' hrow h
    rw [ofMembers] at h
    obtain ⟨rfl, _⟩ := Gives.pure_iff.mp h
    trivial
  | filter :: rest => by
    intro entity row cs n n' hrow h
    obtain ⟨part, m, parts, hpart, hparts, rfl⟩ := ofMembers_cons_gives h
    exact ⟨over_ofFilter hs filter entity row part _ _ hrow hpart,
      over_ofMembers hs rest entity row parts _ _ hrow hparts⟩

theorem over_ofGroup (hs : s.Provides Rows P) : (value : Value) → ∀ items, value = .list items ∨ value = .tuple items →
    ∀ (entity : String) (row : Alias) (cs : List Condition) (n n' : Nat) (disjunctive : Bool), Rows row →
    Gives (ofMembers s entity row items) n cs n' →
    Over P (if items.isEmpty then (if disjunctive then .never else .always)
      else if disjunctive then .any cs else .all cs)
  | .list own | .tuple own => by
    intro items hv entity row cs n n' disjunctive hrow h
    have hi : items = own := by
      rcases hv with hv | hv <;> cases hv
      rfl
    subst hi
    exact (over_ofMembers hs items entity row cs n n' hrow h).group _ disjunctive
  | .map _ | .set _ | .scalar _ => by
    intro items hv
    rcases hv with hv | hv <;> cases hv

end

end Filter

end EntityViews
