import EntityViews.Proofs.Identifiers
import EntityViews.Proofs.Meaning
import EntityViews.Proofs.Wording
import Mathlib.Data.List.Forall2

/-!
What the placeholders of a filter's text stand for. The operands of a filter are told from the filter alone, in its order.
Main statement: the condition that a filter compiles to has one question mark for each operand, and takes them in this
order, each as it is put to the database.
-/

namespace EntityViews

open Sql
open Text (NoMark noMark_literal noMark_ofList)

namespace Filter

def choices : Value → List Value
  | .list items | .tuple items | .set items => items
  | v => [v]

def operatorOperands : Operator → Value → List Value
  -- A test against nothing takes none.
  | .comparison .eq, .null | .comparison .ne, .null => []
  | .comparison _, v => [v]
  | .isIn, v | .notIn, v => choices v

def comparedOperands : Value → List Value
  | .map entries => entries.flatMap fun e =>
    match Operator.ofKey? e.1 with
    | some op => operatorOperands op e.2
    | none => []
  | .list items => operatorOperands .isIn (.list items)
  | .tuple items => operatorOperands .isIn (.tuple items)
  | .set items => operatorOperands .isIn (.set items)
  | v => operatorOperands (.comparison .eq) v

mutual

/-- The operands of a filter in its order. -/
def operands : Value → List Value
  | .map entries => entryOperands entries
  | _ => []

def entryOperands : List (Value × Value) → List Value
  | [] => []
  | (key, value) :: rest =>
    (match key.asText? with
    | some "$not" => operands value
    | some "$and" | some "$or" => groupOperands value
    | _ => if isIdComparison value then comparedOperands value else operands value) ++ entryOperands rest

def groupOperands : Value → List Value
  | .list items | .tuple items => memberOperands items
  | _ => []

def memberOperands : List Value → List Value
  | [] => []
  | filter :: rest => operands filter ++ memberOperands rest

end

end Filter

def Schema.Unmarked (s : Schema) : Prop := ∀ e ∈ s.entities, ∀ f ∈ e.formulas, NoMark f.sql

/-! Names and terms without question marks. -/

section Clear

theorem noMark_of_isName {text : String} (h : isName text.toList = true) : NoMark text := by
  intro hm
  rcases isNameChar_or_newline h _ hm with hc | hc
  · exact absurd hc (by decide)
  · exact absurd hc (by decide)

theorem Sql.Name.noMark_text (n : Name) : NoMark n.text := by
  cases n with
  | plain text h => exact noMark_of_isName h
  | kind k =>
    have hconstant : NoMark k.constant := by
      cases k <;> exact noMark_literal (by decide)
    exact Text.NoMark.append (noMark_literal (by decide)) hconstant

theorem Sql.Name.noMark_quoted (n : Name) : NoMark n.quoted :=
  ((noMark_literal (by decide)).append n.noMark_text).append (noMark_literal (by decide))

theorem Sql.Term.noMark_column {row : Alias} (hrow : NoMark row.text) (n : Name) : NoMark (Term.column row n).text :=
  (Text.NoMark.append hrow (noMark_literal (by decide))).append n.noMark_quoted

theorem Sql.Alias.noMark_sub (n : Nat) : NoMark (Alias.sub n).text :=
  Text.NoMark.append (noMark_literal (by decide)) (noMark_decimalText n)

end Clear

namespace Text

def marks (s : String) : Nat := s.toList.count '?'

theorem marks_append (s t : String) : marks (s ++ t) = marks s + marks t := by
  rw [marks, String.toList_append, List.count_append]
  rfl

theorem NoMark.marks_eq {s : String} (h : NoMark s) : marks s = 0 := List.count_eq_zero.mpr h

theorem marks_join_cons (s : String) (l : List String) : marks (String.join (s :: l)) = marks s + marks (String.join l) := by
  rw [marks, marks, marks, String.toList_join, String.toList_join, List.flatMap_cons, List.count_append]

/-- Joining adds no question mark if the separator has none. -/
theorem marks_intercalate {sep : String} (hsep : NoMark sep) (l : List String) :
    marks (sep.intercalate l) = marks (String.join l) := by
  induction l with
  | nil => rfl
  | cons s rest ih =>
    cases rest with
    | nil =>
      rw [marks_join_cons]
      rfl
    | cons t rest =>
      rw [String.intercalate_cons_cons, marks_append, marks_append, ih, hsep.marks_eq, marks_join_cons s]
      omega

end Text

open Text (marks marks_append)

namespace Sql.Condition

/-- Whether the placeholders of a condition stand for some values, in this order: each is converted to the operand in its
place, and the text has one question mark for each. -/
structure Binds (c : Condition) (values : List Value) : Prop where
  converts : List.Forall₂ (fun v p => operand v = .ok p) values c.params
  marks_text : marks c.text = c.params.length

structure BindsAll (parts : List Condition) (values : List Value) : Prop where
  converts : List.Forall₂ (fun v p => operand v = .ok p) values (paramsOf parts)
  marks_texts : marks (String.join (texts parts)) = (paramsOf parts).length

theorem BindsAll.nil : BindsAll [] [] := ⟨.nil, rfl⟩

theorem BindsAll.cons {c : Condition} {parts : List Condition} {vs ws : List Value} (h : c.Binds vs)
    (hrest : BindsAll parts ws) : BindsAll (c :: parts) (vs ++ ws) := by
  constructor
  · rw [paramsOf]
    exact List.rel_append h.converts hrest.converts
  · rw [texts, paramsOf, Text.marks_join_cons, h.marks_text, hrest.marks_texts, List.length_append]

theorem binds_always : Binds .always [] := ⟨.nil, (noMark_literal (by decide) : NoMark "1 = 1").marks_eq⟩

theorem binds_never : Binds .never [] := ⟨.nil, (noMark_literal (by decide) : NoMark "1 = 0").marks_eq⟩

theorem BindsAll.joined {parts : List Condition} {values : List Value} (h : BindsAll parts values) {sep : String}
    (hsep : NoMark sep) : marks ("(" ++ sep.intercalate (texts parts) ++ ")") = (paramsOf parts).length := by
  have hopen : NoMark "(" := noMark_literal (by decide)
  have hclose : NoMark ")" := noMark_literal (by decide)
  rw [marks_append, marks_append, hopen.marks_eq, hclose.marks_eq, Text.marks_intercalate hsep, h.marks_texts]
  omega

theorem BindsAll.all {parts : List Condition} {values : List Value} (h : BindsAll parts values) :
    Binds (.all parts) values := by
  refine ⟨by rw [params]; exact h.converts, ?_⟩
  rw [text, params]
  exact h.joined (noMark_literal (by decide))

theorem BindsAll.any {parts : List Condition} {values : List Value} (h : BindsAll parts values) :
    Binds (.any parts) values := by
  refine ⟨by rw [params]; exact h.converts, ?_⟩
  rw [text, params]
  exact h.joined (noMark_literal (by decide))

/-- A conjunction binds the operands of its parts in their order. -/
theorem BindsAll.conjunction {parts : List Condition} {values : List Value} (h : BindsAll parts values) :
    Binds (conjunction parts) values := by
  unfold Condition.conjunction
  split
  · rename_i part
    obtain ⟨hconverts, hmarks⟩ := h
    rw [paramsOf, paramsOf, List.append_nil] at hconverts hmarks
    rw [texts, texts, Text.marks_join_cons] at hmarks
    exact ⟨hconverts, hmarks⟩
  · exact h.all

theorem Binds.not {c : Condition} {values : List Value} (h : c.Binds values) : Binds (.not c) values := by
  have hopen : NoMark "NOT (" := noMark_literal (by decide)
  have hclose : NoMark ")" := noMark_literal (by decide)
  refine ⟨by rw [params]; exact h.converts, ?_⟩
  rw [text, params, marks_append, marks_append, hopen.marks_eq, hclose.marks_eq, h.marks_text]
  omega

/-- A sub-select binds the operands of its inner condition. -/
theorem Binds.within {c : Condition} {values : List Value} (h : c.Binds values) {negated : Bool} {term : Term}
    {column table : Name} {row : Alias} (hterm : NoMark term.text) (hrow : NoMark row.text) :
    Binds (.within negated term column table row c) values := by
  have hopen : NoMark (if negated then " NOT IN (SELECT " else " IN (SELECT ") := by
    split <;> exact noMark_literal (by decide)
  have hfrom : NoMark " FROM " := noMark_literal (by decide)
  have has : NoMark " AS " := noMark_literal (by decide)
  have hwhere : NoMark " WHERE " := noMark_literal (by decide)
  have hclose : NoMark ")" := noMark_literal (by decide)
  refine ⟨by rw [params]; exact h.converts, ?_⟩
  rw [text, params]
  simp only [marks_append, hterm.marks_eq, hopen.marks_eq, (Term.noMark_column hrow column).marks_eq, hfrom.marks_eq,
    table.noMark_quoted.marks_eq, has.marks_eq, hrow.marks_eq, hwhere.marks_eq, hclose.marks_eq, h.marks_text]
  omega

theorem binds_isNull {term : Term} (hterm : NoMark term.text) (negated : Bool) : Binds (.isNull negated term) [] := by
  have hend : NoMark (if negated then " IS NOT NULL" else " IS NULL") := by
    split <;> exact noMark_literal (by decide)
  refine ⟨.nil, ?_⟩
  rw [text]
  exact (hterm.append hend).marks_eq

/-- A comparison has one question mark. -/
theorem marks_comparison {term : String} (hterm : NoMark term) (k : Comparison) : marks (k.text term) = 1 := by
  have hone : ∀ front s : String, NoMark front → marks s = 1 → marks (front ++ s) = 1 := by
    intro front s hfront hs
    rw [marks_append, hfront.marks_eq, hs]
  cases k with
  | ilike =>
    have hlower : NoMark "LOWER(" := noMark_literal (by decide)
    exact hone _ ") LIKE LOWER(?)" (hlower.append hterm) (by decide)
  | _ => exact hone _ _ hterm (by decide)

theorem binds_compare {term : Term} (hterm : NoMark term.text) (k : Comparison) {v p : Value} (h : operand v = .ok p) :
    Binds (.compare k term p) [v] := by
  refine ⟨.cons h .nil, ?_⟩
  rw [text, params]
  exact marks_comparison hterm k

/-- As many question marks stand in a list of placeholders as it has operands. -/
theorem marks_placeholders (operands : List Value) : marks (placeholders operands) = operands.length := by
  have hone : marks "?" = 1 := by decide
  rw [placeholders, Text.marks_intercalate (noMark_literal (by decide))]
  induction operands with
  | nil => rfl
  | cons v rest ih =>
    rw [List.map_cons, Text.marks_join_cons, ih, hone, List.length_cons]
    omega

/-- A membership binds its choices. -/
theorem binds_among {term : Term} (hterm : NoMark term.text) (negated : Bool) {vs ps : List Value}
    (h : List.Forall₂ (fun v p => operand v = .ok p) vs ps) : Binds (.among negated term ps) vs := by
  have hopen : NoMark (if negated then " NOT IN (" else " IN (") := by
    split <;> exact noMark_literal (by decide)
  have hclose : NoMark ")" := noMark_literal (by decide)
  refine ⟨by rw [params]; exact h, ?_⟩
  rw [text, params]
  simp only [marks_append, hterm.marks_eq, hopen.marks_eq, hclose.marks_eq, marks_placeholders]
  omega

end Sql.Condition

/-! Every step of compiling a filter binds what it reads. -/

namespace Filter

/-- Each item of a list is bound as its own operand. -/
theorem converts_operands {items ps : List Value} (h : Sql.operands items = .ok ps) :
    List.Forall₂ (fun v p => operand v = .ok p) items ps := by
  induction items generalizing ps with
  | nil =>
    cases h
    exact .nil
  | cons item rest ih =>
    rw [Sql.operands] at h
    obtain ⟨p, hp, h⟩ := Except.bind_ok h
    obtain ⟨ps', hps, h⟩ := Except.bind_ok h
    cases h
    exact .cons hp (ih hps)

theorem converts_choices {v p : Value} (h : operand v = .ok p) :
    List.Forall₂ (fun v p => operand v = .ok p) (choices v) (Sql.members p) := by
  cases v with
  | scalar a =>
    have hp := h
    rw [operand] at hp
    obtain ⟨b, _, rfl⟩ := Except.map_ok hp
    exact .cons h .nil
  | map entries =>
    have hp := h
    rw [operand] at hp
    cases hp
    exact .cons h .nil
  | list items | tuple items | set items =>
    rw [operand] at h
    obtain ⟨ps, hps, rfl⟩ := Except.map_ok h
    exact converts_operands hps

/-- Nothing but nothing is converted to nothing. -/
theorem operand_eq_null {v : Value} : operand v = .ok .null ↔ v = .null := by
  constructor
  · intro h
    cases v with
    | scalar a =>
      rw [operand] at h
      obtain ⟨b, hb, he⟩ := Except.map_ok h
      cases he
      cases a with
      | null => rfl
      | decimal d =>
        obtain ⟨x, _, he⟩ := Except.map_ok hb
        cases he
      | _ => cases hb
    | map entries =>
      rw [operand] at h
      cases h
    | list items | tuple items | set items =>
      rw [operand] at h
      obtain ⟨ps, _, he⟩ := Except.map_ok h
      cases he
  · rintro rfl
    rfl

/-- A comparison has its value as its only operand, unless it is a test for null. -/
theorem operatorOperands_comparison {k : Comparison} {v : Value} (h : v = .null → k ≠ .eq ∧ k ≠ .ne) :
    operatorOperands (.comparison k) v = [v] := by
  unfold operatorOperands
  split
  · cases ‹Operator.comparison k = .comparison .eq›
    exact ((h rfl).1 rfl).elim
  · cases ‹Operator.comparison k = .comparison .ne›
    exact ((h rfl).2 rfl).elim
  · rfl
  · cases ‹Operator.comparison k = .isIn›
  · cases ‹Operator.comparison k = .notIn›

section Steps

variable {t : Term} (ht : NoMark t.text) {v : Value} {c : Condition}

include ht

/-- The condition of an operator binds the operands of the operator. -/
theorem binds_operatorCondition {op : Operator} (h : operatorCondition t op v = .ok c) :
    c.Binds (operatorOperands op v) := by
  obtain ⟨p, hp, hmakes⟩ := operatorCondition_makes h
  have hchoices := converts_choices hp
  cases hmakes with
  | isNull hnull =>
    cases operand_eq_null.mp (hnull ▸ hp)
    exact Condition.binds_isNull ht false
  | notNull hnull =>
    cases operand_eq_null.mp (hnull ▸ hp)
    exact Condition.binds_isNull ht true
  | @compare k hne =>
    rw [operatorOperands_comparison fun hv => hne (Except.ok.inj (hp.symm.trans (operand_eq_null.mpr hv)))]
    exact Condition.binds_compare ht k hp
  | amongNone hnone =>
    rw [hnone, List.forall₂_nil_right_iff] at hchoices
    rw [operatorOperands, hchoices]
    exact Condition.binds_never
  | among =>
    rw [operatorOperands]
    exact Condition.binds_among ht false hchoices
  | notAmongNone hnone =>
    rw [hnone, List.forall₂_nil_right_iff] at hchoices
    rw [operatorOperands, hchoices]
    exact Condition.binds_always
  | notAmong =>
    rw [operatorOperands]
    exact Condition.binds_among ht true hchoices

/-- The conditions of several operators bind all their operands in order. -/
theorem binds_operatorConditions {whole : Value} {entries : List (Value × Value)} {cs : List Condition}
    (h : operatorConditions t whole entries = .ok cs) : Condition.BindsAll cs (comparedOperands (.map entries)) := by
  induction entries generalizing cs with
  | nil =>
    cases h
    exact .nil
  | cons e rest ih =>
    obtain ⟨key, v⟩ := e
    obtain ⟨c, cs', hc, hcs, rfl⟩ := Except.mapM_cons_ok h
    have hrest := ih hcs
    simp only at hc
    rw [comparedOperands, List.flatMap_cons]
    cases hk : Operator.ofKey? key with
    | none =>
      rw [hk] at hc
      cases hc
    | some op =>
      rw [hk] at hc
      exact Condition.BindsAll.cons (binds_operatorCondition ht hc) hrest

/-- The condition of a comparison binds the operands of the comparison. -/
theorem binds_comparisonCondition (h : comparisonCondition t v = .ok c) : c.Binds (comparedOperands v) := by
  unfold comparisonCondition at h
  split at h
  · cases h
    exact Condition.binds_always
  · obtain ⟨cs, hcs, rfl⟩ := Except.map_ok h
    exact (binds_operatorConditions ht hcs).conjunction
  · exact binds_operatorCondition ht h
  · exact binds_operatorCondition ht h
  · exact binds_operatorCondition ht h
  · have hb := binds_operatorCondition ht h
    unfold comparedOperands
    split <;> simp_all

end Steps

theorem noMark_of_columnTerm {row : Alias} (hrow : NoMark row.text) {name : Label} {t : Term} {n n' : Nat}
    (h : Gives (columnTerm row name) n t n') : NoMark t.text := by
  obtain ⟨c, _, rfl⟩ := columnTerm_gives h
  exact Term.noMark_column hrow c

theorem noMark_of_ofFormula {f : Formula} {row : Alias} (hf : NoMark f.sql) (hrow : NoMark row.text) {t : Term}
    (h : Term.ofFormula f row = .ok t) : NoMark t.text := by
  obtain ⟨text, htext, rfl⟩ := Except.map_ok h
  exact Formula.noMark_render hf hrow htext

theorem noMark_of_freshAlias {row : Alias} {n n' : Nat} (h : Gives freshAlias n row n') : NoMark row.text := by
  cases h
  exact Alias.noMark_sub n

def relatedOperands (v : Value) : List Value := if isIdComparison v then comparedOperands v else operands v

section Relation

variable {target : Entity} {row : Alias} (hrow : NoMark row.text) {v : Value} {nested : Alias → Compile Condition}
  (hn : ∀ sub m d m', NoMark sub.text → Gives (nested sub) m d m' → d.Binds (operands v)) {c : Condition} {n n' : Nat}

include hrow hn

omit hrow in
/-- What is said of a key binds the operands of the filter on the related row. -/
theorem binds_keyCondition {t : Term} (ht : NoMark t.text) (h : Gives (keyCondition target t v nested) n c n') :
    c.Binds (relatedOperands v) := by
  unfold keyCondition at h
  unfold relatedOperands
  by_cases hv : isIdComparison v
  · rw [if_pos hv] at h ⊢
    exact binds_comparisonCondition ht (Gives.lift_iff.mp h).1
  · rw [if_neg hv] at h ⊢
    simp only [Gives.bind_iff, Gives.pure_iff] at h
    obtain ⟨sub, _, hsub, d, _, hd, table, _, _, rfl, _⟩ := h
    have hsub := noMark_of_freshAlias hsub
    exact (hn sub _ d _ hsub hd).within ht hsub

omit hrow in
/-- What is said of a related row binds the operands of the filter on it. -/
theorem binds_targetCondition {sub : Alias} {back : Name} (hsub : NoMark sub.text)
    (h : Gives (targetCondition sub back v nested) n c n') : c.Binds (relatedOperands v) := by
  unfold targetCondition at h
  by_cases hnull : v.isNull
  · obtain rfl := Value.isNull_eq_true.mp hnull
    obtain ⟨rfl, _⟩ := Gives.pure_iff.mp h
    exact Condition.binds_isNull (Term.noMark_column hsub back) true
  · rw [if_neg hnull] at h
    unfold relatedOperands
    by_cases hv : isIdComparison v
    · rw [if_pos hv] at h ⊢
      exact binds_comparisonCondition (Term.noMark_column hsub .id) (Gives.lift_iff.mp h).1
    · rw [if_neg hv] at h ⊢
      exact hn sub _ c _ hsub h

/-- A key on a relation binds its operands if the nested filter does, for every row. -/
theorem binds_relationCondition {link : Link} (h : Gives (relationCondition target row link v nested) n c n') :
    c.Binds (relatedOperands v) := by
  have hid := Term.noMark_column hrow .id
  cases link with
  | manyToOne key | oneToOne key =>
    rw [relationCondition_held target row key (by simp)] at h
    obtain ⟨t, _, ht, h⟩ := Gives.bind_iff.mp h
    exact binds_keyCondition hn (noMark_of_columnTerm hrow ht) h
  | manyToMany table sourceKey targetKey =>
    rw [relationCondition_through] at h
    simp only [Gives.bind_iff, Gives.pure_iff] at h
    obtain ⟨join, _, hjoin, source, _, _, t, _, ht, d, _, hd, name, _, _, rfl, _⟩ := h
    have hjoin := noMark_of_freshAlias hjoin
    exact (binds_keyCondition hn (noMark_of_columnTerm hjoin ht) hd).within hid hjoin
  | oneToMany key | oneToOneInverse key =>
    rw [relationCondition_back target row key (by simp)] at h
    simp only [Gives.bind_iff, Gives.pure_iff] at h
    obtain ⟨sub, _, hsub, back, _, _, d, _, hd, name, _, _, rfl, _⟩ := h
    have hsub := noMark_of_freshAlias hsub
    exact (binds_targetCondition hn hsub hd).within hid hsub

end Relation

/-- What is let through as a comparison is one of ids, or says nothing at all. -/
theorem relatedOperands_of_comparison {t : Term} {v : Value} {c : Condition} (h : comparisonCondition t v = .ok c) :
    relatedOperands v = comparedOperands v := by
  unfold relatedOperands
  by_cases hv : isIdComparison v
  · rw [if_pos hv]
  rw [if_neg hv]
  cases v with
  | map entries =>
    cases entries with
    | nil => rfl
    | cons e rest =>
      refine absurd ?_ hv
      obtain ⟨cs, hcs, _⟩ := Except.map_ok h
      have hall : ∀ e' ∈ e :: rest, (Operator.ofKey? e'.1).isSome := by
        intro e' he'
        obtain ⟨c', _, hc'⟩ := (Except.mem_of_mapM_ok hcs).2 e' he'
        simp only at hc'
        cases ho : Operator.ofKey? e'.1 with
        | some op => rfl
        | none =>
          rw [ho] at hc'
          cases hc'
      exact List.all_eq_true.mpr hall
  | _ => exact absurd rfl hv

def pick {α : Type} (negated grouped named : α) : Key → α
  | .negation => negated
  | .group _ => grouped
  | _ => named

/-- A key has the name of a combinator just if it is one. -/
theorem pick_of_name {α : Type} {e : Entity} {whole key : Value} {k : Key} (hk : Key.of e whole key = .ok k)
    (negated grouped named : α) :
    (match key.asText? with
      | some "$not" => negated
      | some "$and" | some "$or" => grouped
      | _ => named) = pick negated grouped named k := by
  unfold Key.of at hk
  cases hl : key.label? with
  | none =>
    rw [hl] at hk
    cases hk
  | some label =>
    -- The combinators are told by their text on both sides and in the same order; any other name is left to the entity.
    have htext : key.asText? = some label.text := by
      rw [Value.asText?, hl]
      rfl
    simp only [hl] at hk
    rw [htext]
    split at hk
    · cases hk
      rw [‹label.text = "$not"›]
      rfl
    split at hk
    · cases hk
      rw [‹label.text = "$and"›]
      rfl
    split at hk
    · cases hk
      rw [‹label.text = "$or"›]
      rfl
    have hnamed : (match some label.text with
        | some "$not" => negated
        | some "$and" | some "$or" => grouped
        | _ => named) = named := by
      split
      · simp_all
      · simp_all
      · simp_all
      · rfl
    rw [hnamed]
    split at hk
    · cases hk
    split at hk
    · cases hk
      rfl
    split at hk
    · cases hk
      rfl
    split at hk
    · cases hk
      rfl
    · cases hk

theorem entryOperands_cons {e : Entity} {whole key value : Value} {k : Key} (hk : Key.of e whole key = .ok k)
    (rest : List (Value × Value)) :
    entryOperands ((key, value) :: rest) =
      pick (operands value) (groupOperands value) (relatedOperands value) k ++ entryOperands rest := by
  rw [← pick_of_name hk]
  rfl

theorem mem_formulas_of_key {e : Entity} {whole key : Value} {f : Formula} (hk : Key.of e whole key = .ok (.formula f)) :
    f ∈ e.formulas := by
  unfold Key.of at hk
  split at hk
  · cases hk
  simp only at hk
  repeat
    split at hk
    · cases hk
  split at hk
  · cases hk
    exact List.mem_of_find?_eq_some ‹_›
  · cases hk

open Condition

variable (s : Schema)

mutual

/-- An accepted filter binds its operands. -/
theorem binds_ofFilter (hs : s.Unmarked) : (filter : Value) → ∀ (entity : String) (row : Alias) (c : Condition) (n n' : Nat),
    NoMark row.text → Gives (ofFilter s entity row filter) n c n' → c.Binds (operands filter)
  | .map [] => by
    intro entity row c n n' hrow h
    rw [ofFilter] at h
    obtain ⟨rfl, _⟩ := Gives.pure_iff.mp h
    exact binds_always
  | .map (entry :: rest) => by
    intro entity row c n n' hrow h
    obtain ⟨e, cs, he, hcs, rfl⟩ := ofFilter_map_gives h
    rw [operands]
    exact (binds_ofEntries hs (entry :: rest) e row _ cs _ _ (List.mem_of_find?_eq_some he) hrow hcs).conjunction
  | .scalar _ | .list _ | .tuple _ | .set _ => by
    intro entity row c n n' hrow h
    rw [ofFilter.eq_def] at h
    rw [always_of_gives h]
    exact binds_always

/-- The entries of a map bind their operands one after the other. -/
theorem binds_ofEntries (hs : s.Unmarked) : (entries : List (Value × Value)) → ∀ (e : Entity) (row : Alias) (whole : Value)
    (cs : List Condition) (n n' : Nat), e ∈ s.entities → NoMark row.text →
    Gives (ofEntries s e row whole entries) n cs n' → BindsAll cs (entryOperands entries)
  | [] => by
    intro e row whole cs n n' he hrow h
    rw [ofEntries] at h
    obtain ⟨rfl, _⟩ := Gives.pure_iff.mp h
    exact .nil
  | (key, value) :: rest => by
    intro e row whole cs n n' he hrow h
    obtain ⟨k, part, m, parts, hk, hpart, hparts, rfl⟩ := ofEntries_cons_gives h
    rw [entryOperands_cons hk]
    refine BindsAll.cons ?_ (binds_ofEntries hs rest e row whole parts _ _ he hrow hparts)
    cases k with
    | negation =>
      obtain ⟨d, hd, rfl⟩ := hpart
      exact (binds_ofFilter hs value _ row d _ _ hrow hd).not
    | group disjunctive =>
      obtain ⟨items, ds, hv, hds, rfl⟩ := hpart
      exact binds_ofGroup hs value items hv e.name row ds _ _ disjunctive hrow hds
    | relation r =>
      obtain ⟨target, _, hc⟩ := hpart
      exact binds_relationCondition hrow (fun sub m d m' hsub hd => binds_ofFilter hs value _ sub d m m' hsub hd) hc
    | column name =>
      obtain ⟨t, _, ht, hc, rfl⟩ := hpart
      show part.Binds (relatedOperands value)
      rw [relatedOperands_of_comparison hc]
      exact binds_comparisonCondition (noMark_of_columnTerm hrow ht) hc
    | formula f =>
      obtain ⟨t, ht, hc, rfl⟩ := hpart
      have hf : NoMark f.sql := hs e he f (mem_formulas_of_key hk)
      show part.Binds (relatedOperands value)
      rw [relatedOperands_of_comparison hc]
      exact binds_comparisonCondition (noMark_of_ofFormula hf hrow ht) hc

/-- The members of a group bind their operands one after the other. -/
theorem binds_ofMembers (hs : s.Unmarked) : (filters : List Value) → ∀ (entity : String) (row : Alias) (cs : List Condition)
    (n n' : Nat), NoMark row.text → Gives (ofMembers s entity row filters) n cs n' → BindsAll cs (memberOperands filters)
  | [] => by
    intro entity row cs n n' hrow h
    rw [ofMembers] at h
    obtain ⟨rfl, _⟩ := Gives.pure_iff.mp h
    exact .nil
  | filter :: rest => by
    intro entity row cs n n' hrow h
    obtain ⟨part, m, parts, hpart, hparts, rfl⟩ := ofMembers_cons_gives h
    rw [memberOperands]
    exact .cons (binds_ofFilter hs filter entity row part _ _ hrow hpart)
      (binds_ofMembers hs rest entity row parts _ _ hrow hparts)

theorem binds_ofGroup (hs : s.Unmarked) : (value : Value) → ∀ items, value = .list items ∨ value = .tuple items →
    ∀ (entity : String) (row : Alias) (cs : List Condition) (n n' : Nat) (disjunctive : Bool), NoMark row.text →
    Gives (ofMembers s entity row items) n cs n' →
    Binds (if items.isEmpty then (if disjunctive then .never else .always)
      else if disjunctive then .any cs else .all cs) (groupOperands value)
  | .list own | .tuple own => by
    intro items hv entity row cs n n' disjunctive hrow h
    have hi : items = own := by
      rcases hv with hv | hv <;> cases hv
      rfl
    subst hi
    have hall := binds_ofMembers hs items entity row cs n n' hrow h
    rw [groupOperands]
    split
    · rename_i hempty
      rw [List.isEmpty_iff.mp hempty, memberOperands]
      cases disjunctive
      · exact binds_always
      · exact binds_never
    · cases disjunctive
      · exact hall.all
      · exact hall.any
  | .map _ | .set _ | .scalar _ => by
    intro items hv
    rcases hv with hv | hv <;> cases hv

end

end Filter

end EntityViews
