import EntityViews.Proofs.Absence
import EntityViews.Proofs.Brackets
import EntityViews.Proofs.Operands
import EntityViews.Sql.Query

/-!
How a filter combines comparisons, told from the filter alone. Main statement: read by precedence, the text that an accepted
filter compiles to says just this combination, and so does the text of a query for all filters that were added to it.
-/

namespace EntityViews

open Sql

namespace Filter

def reference (row : Alias) (column : String) : String := row.text ++ "." ++ ("\"" ++ column ++ "\"")

def tested (term : String) : Operator → Value → Proposition
  | .comparison .eq, .null => .ofText (term ++ " IS NULL")
  | .comparison .ne, .null => .ofText (term ++ " IS NOT NULL")
  | .comparison k, _ => .ofText (k.text term)
  | .isIn, v =>
    if (choices v).isEmpty then .disjunction [] else .ofText (term ++ " IN (" ++ placeholders (choices v) ++ ")")
  | .notIn, v =>
    if (choices v).isEmpty then .conjunction [] else .ofText (term ++ " NOT IN (" ++ placeholders (choices v) ++ ")")

def comparedTree (term : String) : Value → Proposition
  | .map entries => .conjunction (entries.map fun e =>
    match Operator.ofKey? e.1 with
    | some op => tested term op e.2
    | none => .conjunction [])
  | .list items => tested term .isIn (.list items)
  | .tuple items => tested term .isIn (.tuple items)
  | .set items => tested term .isIn (.set items)
  | v => tested term (.comparison .eq) v

def amongRows (negated : Bool) (term column table : String) (n : Nat) (p : Proposition) : Proposition :=
  .within negated (itemsOf term) (itemsOf (reference (.sub n) column)) (itemsOf ("\"" ++ table ++ "\""))
    (itemsOf (Alias.sub n).text) p

def IsKeyTree (term target : String) (value : Value) (nested : Alias → Proposition → Prop) (p : Proposition) : Prop :=
  if isIdComparison value then p = comparedTree term value
  else ∃ n q, nested (.sub n) q ∧ p = amongRows false term "id" target n q

/-- What a value says of a row by a relation: one membership test, unless the row holds the key that is compared. -/
def IsLinkTree (row : Alias) (target : String) (link : Link) (value : Value) (nested : Alias → Proposition → Prop)
    (p : Proposition) : Prop :=
  match link with
  | .manyToOne key | .oneToOne key => IsKeyTree (reference row key) target value nested p
  | .manyToMany table sourceKey targetKey =>
    ∃ n q, IsKeyTree (reference (.sub n) targetKey) target value nested q ∧
      p = amongRows false (reference row "id") sourceKey table n q
  | .oneToMany key | .oneToOneInverse key =>
    ∃ n q, (if value.isNull then q = .ofText (reference (.sub n) key ++ " IS NOT NULL")
        else if isIdComparison value then q = comparedTree (reference (.sub n) "id") value
        else nested (.sub n) q) ∧
      p = amongRows value.isNull (reference row "id") key target n q

mutual

/-- Whether a proposition combines comparisons as a filter on the rows of an entity does: maps as conjunctions of their
members, and what is no map as the conjunction of none. The numbers of the rows in sub-selects are left open. -/
def IsTree (s : Schema) (entity : String) (row : Alias) : Value → Proposition → Prop
  | .map entries, p => ∃ ps, AreTrees s entity row entries ps ∧ p = .conjunction ps
  | _, p => p = .conjunction []

def AreTrees (s : Schema) (entity : String) (row : Alias) : List (Value × Value) → List Proposition → Prop
  | [], ps => ps = []
  | (key, value) :: rest, ps => ∃ p qs, ps = p :: qs ∧
    (match s.key? entity key with
    | some .negation => ∃ q, IsTree s entity row value q ∧ p = .not q
    | some (.group disjunctive) => ∃ qs, AreGroupTrees s entity row value qs ∧
      p = if disjunctive then .disjunction qs else .conjunction qs
    | some (.relation r) => IsLinkTree row r.target r.link value (fun sub q => IsTree s r.target sub value q) p
    | some (.column name) => p = comparedTree (reference row name.plain) value
    | some (.formula f) => ∃ text, f.render row.text = .ok text ∧ p = comparedTree text value
    | none => False) ∧ AreTrees s entity row rest qs

def AreGroupTrees (s : Schema) (entity : String) (row : Alias) : Value → List Proposition → Prop
  | .list items, ps | .tuple items, ps => AreMemberTrees s entity row items ps
  | _, _ => False

def AreMemberTrees (s : Schema) (entity : String) (row : Alias) : List Value → List Proposition → Prop
  | [], ps => ps = []
  | filter :: rest, ps => ∃ p qs, ps = p :: qs ∧ IsTree s entity row filter p ∧ AreMemberTrees s entity row rest qs

end

end Filter

namespace Sql.Condition

def Tells (c : Condition) (p : Proposition) : Prop := c.Written ∧ c.proposition = p

def AllTell (cs : List Condition) (ps : List Proposition) : Prop := AllWritten cs ∧ propositions cs = ps

theorem AllTell.nil : AllTell [] [] := ⟨trivial, rfl⟩

theorem AllTell.cons {c : Condition} {cs : List Condition} {p : Proposition} {ps : List Proposition} (h : c.Tells p)
    (hrest : AllTell cs ps) : AllTell (c :: cs) (p :: ps) := by
  refine ⟨⟨h.1, hrest.1⟩, ?_⟩
  rw [propositions, h.2, hrest.2]

theorem AllTell.ne_nil {cs : List Condition} {ps : List Proposition} (h : AllTell cs ps) (hne : ps ≠ []) : cs ≠ [] := by
  obtain ⟨_, rfl⟩ := h
  rintro rfl
  exact hne rfl

/-- A conjunction of conditions says the conjunction of what they say. -/
theorem AllTell.conjunction {cs : List Condition} {ps : List Proposition} (h : AllTell cs ps) (hne : ps ≠ []) :
    (Condition.conjunction cs).Tells (.conjunction ps) := by
  have hcs := h.ne_nil hne
  obtain ⟨hwritten, rfl⟩ := h
  unfold Condition.conjunction
  split
  · exact ⟨hwritten.1, rfl⟩
  · refine ⟨⟨hcs, hwritten⟩, ?_⟩
    rw [proposition]

/-- A group of conditions; an empty one is a condition of its own. -/
theorem AllTell.group {cs : List Condition} {ps : List Proposition} (h : AllTell cs ps) {empty : Bool}
    (hempty : empty = ps.isEmpty) (disjunctive : Bool) :
    (if empty then (if disjunctive then Condition.never else .always)
      else if disjunctive then .any cs else .all cs).Tells
      (if disjunctive then .disjunction ps else .conjunction ps) := by
  subst hempty
  cases ps with
  | nil => cases disjunctive <;> exact ⟨trivial, rfl⟩
  | cons p ps =>
    have hcs := h.ne_nil (List.cons_ne_nil p ps)
    obtain ⟨hwritten, htold⟩ := h
    rw [List.isEmpty_cons, if_neg Bool.false_ne_true]
    cases disjunctive with
    | false => exact ⟨⟨hcs, hwritten⟩, by rw [if_neg Bool.false_ne_true, if_neg Bool.false_ne_true, proposition, htold]⟩
    | true => exact ⟨⟨hcs, hwritten⟩, by rw [if_pos rfl, if_pos rfl, proposition, htold]⟩

theorem Tells.not {c : Condition} {p : Proposition} (h : c.Tells p) : (Condition.not c).Tells (.not p) := by
  obtain ⟨hwritten, rfl⟩ := h
  exact ⟨hwritten, by rw [proposition]⟩

theorem Tells.within {c : Condition} {p : Proposition} (h : c.Tells p) {t : Term} (ht : t.Written) {term : String}
    (hterm : t.text = term) {column table : Name} {columnText tableText : String} (hcolumn : column.text = columnText)
    (htable : table.text = tableText) (negated : Bool) (n : Nat) :
    (Condition.within negated t column table (.sub n) c).Tells
      (Filter.amongRows negated term columnText tableText n p) := by
  obtain ⟨hwritten, rfl⟩ := h
  subst hterm hcolumn htable
  refine ⟨⟨ht, ⟨n, rfl⟩, hwritten⟩, ?_⟩
  rw [proposition]
  rfl

end Sql.Condition

namespace Filter

open Condition

/-! Every step of compiling a filter tells what the filter says. -/

/-- A comparison with a value is told by its text; only a test for nothing is told otherwise. -/
theorem tested_comparison (term : String) {k : Comparison} {v : Value} (h : v = .null → k ≠ .eq ∧ k ≠ .ne) :
    tested term (.comparison k) v = .ofText (k.text term) := by
  unfold tested
  split
  · cases ‹Operator.comparison k = .comparison .eq›
    exact ((h rfl).1 rfl).elim
  · cases ‹Operator.comparison k = .comparison .ne›
    exact ((h rfl).2 rfl).elim
  · cases ‹Operator.comparison k = .comparison _›
    rfl
  · cases ‹Operator.comparison k = .isIn›
  · cases ‹Operator.comparison k = .notIn›

section Steps

variable {t : Term} (ht : t.Written) {v : Value} {c : Condition}

include ht

/-- The condition of an operator says what the operator tests. -/
theorem operatorCondition_tells {op : Operator} (h : operatorCondition t op v = .ok c) : c.Tells (tested t.text op v) := by
  obtain ⟨p, hp, hmakes⟩ := operatorCondition_makes h
  have hlength : (choices v).length = (Sql.members p).length := (converts_choices hp).length_eq
  have hempty : (choices v).isEmpty = (Sql.members p).isEmpty := by
    rw [Bool.eq_iff_iff, List.isEmpty_iff_length_eq_zero, List.isEmpty_iff_length_eq_zero, hlength]
  have hmarks : placeholders (Sql.members p) = placeholders (choices v) := by
    rw [placeholders, placeholders, List.map_const', List.map_const', hlength]
  cases hmakes with
  | isNull hnull | notNull hnull =>
    cases operand_eq_null.mp (hnull ▸ hp)
    exact ⟨ht, rfl⟩
  | @compare k hne =>
    refine ⟨ht, ?_⟩
    rw [tested_comparison _ fun hv => hne (Except.ok.inj (hp.symm.trans (operand_eq_null.mpr hv)))]
    rfl
  | amongNone hnone | notAmongNone hnone =>
    rw [tested, hempty, if_pos (List.isEmpty_iff.mpr hnone)]
    exact ⟨trivial, rfl⟩
  | among hsome | notAmong hsome =>
    rw [tested, hempty, if_neg (mt List.isEmpty_iff.mp hsome)]
    refine ⟨ht, ?_⟩
    rw [proposition, text, hmarks]
    rfl

/-- The conditions of several operators say what each of them tests. -/
theorem operatorConditions_tell {whole : Value} {entries : List (Value × Value)} {cs : List Condition}
    (h : operatorConditions t whole entries = .ok cs) :
    AllTell cs (entries.map fun e =>
      match Operator.ofKey? e.1 with
      | some op => tested t.text op e.2
      | none => .conjunction []) := by
  induction entries generalizing cs with
  | nil =>
    cases h
    exact .nil
  | cons e rest ih =>
    obtain ⟨key, v⟩ := e
    obtain ⟨c, cs', hc, hcs, rfl⟩ := Except.mapM_cons_ok h
    simp only at hc
    rw [List.map_cons]
    cases hk : Operator.ofKey? key with
    | none =>
      rw [hk] at hc
      cases hc
    | some op =>
      rw [hk] at hc
      exact .cons (by simpa only [hk] using operatorCondition_tells ht hc) (ih hcs)

/-- The condition of a comparison says what the value asks of the term. -/
theorem comparisonCondition_tells (h : comparisonCondition t v = .ok c) : c.Tells (comparedTree t.text v) := by
  unfold comparisonCondition at h
  split at h
  · cases h
    exact ⟨trivial, rfl⟩
  · rename_i entries hne
    obtain ⟨cs, hcs, rfl⟩ := Except.map_ok h
    refine (operatorConditions_tell ht hcs).conjunction ?_
    intro hnil
    rw [List.map_eq_nil_iff.mp hnil] at hne
    exact hne rfl
  · exact operatorCondition_tells ht h
  · exact operatorCondition_tells ht h
  · exact operatorCondition_tells ht h
  · have htells := operatorCondition_tells ht h
    unfold comparedTree
    split <;> simp_all

end Steps

theorem columnTerm_tells {row : Alias} (hrow : row.IsPlain) {name : Label} {t : Term} {n n' : Nat}
    (h : Gives (columnTerm row name) n t n') : t.Written ∧ t.text = reference row name.plain := by
  obtain ⟨c, hc, rfl⟩ := columnTerm_gives h
  refine ⟨hrow.column c, ?_⟩
  rw [Term.text, Name.quoted, hc]
  rfl

section Relation

variable {target : Entity} {v : Value} {nested : Alias → Compile Condition} {tree : Alias → Proposition → Prop}
  (hn : ∀ n m d m', Gives (nested (.sub n)) m d m' → ∃ p, d.Tells p ∧ tree (.sub n) p) {c : Condition} {n n' : Nat}

include hn

/-- The key to a row, in whichever row it is held, is compared or is among the ids of a sub-select. -/
theorem keyCondition_tells {t : Term} (ht : t.Written) (h : Gives (keyCondition target t v nested) n c n') :
    ∃ p, c.Tells p ∧ IsKeyTree t.text target.name v tree p := by
  unfold keyCondition at h
  unfold IsKeyTree
  by_cases hv : isIdComparison v
  · rw [if_pos hv] at h
    simp only [if_pos hv]
    exact ⟨_, comparisonCondition_tells ht (Gives.lift_iff.mp h).1, rfl⟩
  · rw [if_neg hv] at h
    simp only [if_neg hv]
    simp only [Gives.bind_iff, Gives.lift_iff, Gives.pure_iff, freshAlias_gives_iff] at h
    obtain ⟨_, _, ⟨rfl, _⟩, d, _, hd, table, _, ⟨htable, _⟩, rfl, _⟩ := h
    obtain ⟨q, htells, hq⟩ := hn _ _ d _ hd
    have hid : Name.id.text = "id" := rfl
    exact ⟨_, htells.within ht rfl hid (Name.text_of_ofText? htable) false _, _, _, hq, rfl⟩

/-- A key on a relation tells what it says if the nested filter does, for every row of a sub-select. -/
theorem relationCondition_tells {row : Alias} (hrow : row.IsPlain) {link : Link}
    (h : Gives (relationCondition target row link v nested) n c n') :
    ∃ p, c.Tells p ∧ IsLinkTree row target.name link v tree p := by
  have hid := hrow.column .id
  cases link with
  | manyToOne key | oneToOne key =>
    rw [relationCondition_held target row key (by simp)] at h
    obtain ⟨t, _, ht, h⟩ := Gives.bind_iff.mp h
    obtain ⟨hwritten, htext⟩ := columnTerm_tells hrow ht
    obtain ⟨p, htells, hp⟩ := keyCondition_tells hn hwritten h
    rw [htext] at hp
    exact ⟨p, htells, hp⟩
  | manyToMany table sourceKey targetKey =>
    rw [relationCondition_through] at h
    simp only [Gives.bind_iff, Gives.lift_iff, Gives.pure_iff, freshAlias_gives_iff] at h
    obtain ⟨_, _, ⟨rfl, rfl⟩, source, _, ⟨hsource, rfl⟩, t, _, ht, d, _, hd, name, _, ⟨hname, _⟩, rfl, _⟩ := h
    obtain ⟨hwritten, htext⟩ := columnTerm_tells (Alias.isPlain_sub _) ht
    obtain ⟨q, htells, hq⟩ := keyCondition_tells hn hwritten hd
    rw [htext] at hq
    have hsource := Name.text_of_ofText? hsource
    have hname := Name.text_of_ofText? hname
    exact ⟨_, htells.within hid rfl hsource hname false _, _, q, hq, rfl⟩
  | oneToMany key | oneToOneInverse key =>
    rw [relationCondition_back target row key (by simp)] at h
    simp only [Gives.bind_iff, Gives.lift_iff, Gives.pure_iff, freshAlias_gives_iff] at h
    obtain ⟨_, _, ⟨rfl, rfl⟩, back, _, ⟨hback, rfl⟩, d, _, hd, name, _, ⟨hname, _⟩, rfl, _⟩ := h
    have hback := Name.text_of_ofText? hback
    have hname := Name.text_of_ofText? hname
    have hsub := Alias.isPlain_sub n
    have hcondition : ∃ q, d.Tells q ∧ if v.isNull then q = .ofText (reference (.sub n) key ++ " IS NOT NULL")
        else if isIdComparison v then q = comparedTree (reference (.sub n) "id") v else tree (.sub n) q := by
      -- With nothing as the value any row will do, provided that it holds a key at all.
      unfold targetCondition at hd
      by_cases hv : v.isNull
      · simp only [if_pos hv] at hd ⊢
        obtain ⟨rfl, _⟩ := Gives.pure_iff.mp hd
        refine ⟨_, ⟨hsub.column back, ?_⟩, rfl⟩
        rw [proposition, text, Term.text, Name.quoted, hback]
        rfl
      · simp only [if_neg hv] at hd ⊢
        by_cases hi : isIdComparison v
        · simp only [if_pos hi] at hd ⊢
          exact ⟨_, comparisonCondition_tells (hsub.column .id) (Gives.lift_iff.mp hd).1, rfl⟩
        · simp only [if_neg hi] at hd ⊢
          exact hn _ _ d _ hd
    obtain ⟨q, htells, hq⟩ := hcondition
    exact ⟨_, htells.within hid rfl hback hname v.isNull n, n, q, hq, rfl⟩

end Relation

variable {s : Schema}

theorem ofFormula_tells (hs : s.Bracketed) {e : Entity} (he : e ∈ s.entities) {f : Formula} (hf : f ∈ e.formulas)
    {row : Alias} (hrow : row.IsPlain) {t : Term} (h : Term.ofFormula f row = .ok t) :
    t.Written ∧ f.render row.text = .ok t.text := by
  obtain ⟨text, htext, rfl⟩ := Except.map_ok h
  obtain ⟨inner, hinner⟩ := hs e he f hf row hrow text htext
  exact ⟨⟨_, hinner, .brackets inner⟩, htext⟩

mutual

/-- An accepted filter tells what it says. -/
theorem ofFilter_tells (hs : s.Bracketed) : (filter : Value) → ∀ (entity : String) (row : Alias) (c : Condition)
    (n n' : Nat), row.IsPlain → Gives (ofFilter s entity row filter) n c n' → ∃ p, c.Tells p ∧ IsTree s entity row filter p
  | .map [] => by
    intro entity row c n n' hrow h
    rw [ofFilter] at h
    obtain ⟨rfl, _⟩ := Gives.pure_iff.mp h
    exact ⟨_, ⟨trivial, rfl⟩, [], rfl, rfl⟩
  | .map (entry :: rest) => by
    intro entity row c n n' hrow h
    obtain ⟨e, cs, he, hcs, rfl⟩ := ofFilter_map_gives h
    obtain ⟨ps, htell, hps, hlength⟩ := ofEntries_tell hs (entry :: rest) entity e row _ cs _ _ he hrow hcs
    refine ⟨_, htell.conjunction ?_, ps, hps, rfl⟩
    rintro rfl
    cases hlength
  | .scalar _ | .list _ | .tuple _ | .set _ => by
    intro entity row c n n' hrow h
    rw [ofFilter.eq_def] at h
    rw [always_of_gives h]
    exact ⟨_, ⟨trivial, rfl⟩, rfl⟩

/-- The conditions of the entries of a map say what each entry does. -/
theorem ofEntries_tell (hs : s.Bracketed) : (entries : List (Value × Value)) → ∀ (entity : String) (e : Entity)
    (row : Alias) (whole : Value) (cs : List Condition) (n n' : Nat), s.entity? entity = some e → row.IsPlain →
    Gives (ofEntries s e row whole entries) n cs n' →
    ∃ ps, AllTell cs ps ∧ AreTrees s entity row entries ps ∧ ps.length = entries.length
  | [] => by
    intro entity e row whole cs n n' he hrow h
    rw [ofEntries] at h
    obtain ⟨rfl, _⟩ := Gives.pure_iff.mp h
    exact ⟨[], .nil, rfl, rfl⟩
  | (key, value) :: rest => by
    intro entity e row whole cs n n' he hrow h
    obtain ⟨k, part, m, parts, hk, hpart, hparts, rfl⟩ := ofEntries_cons_gives h
    have hname : e.name = entity := Schema.name_of_entity? he
    have hmem : e ∈ s.entities := List.mem_of_find?_eq_some he
    obtain ⟨ps, htell, hps, hlength⟩ := ofEntries_tell hs rest entity e row whole parts _ _ he hrow hparts
    simp only [AreTrees, key?_of_gives he hk]
    -- What kind of key it is decides the shape of its tree; the trees of the other entries follow it.
    cases k with
    | negation =>
      obtain ⟨d, hd, rfl⟩ := hpart
      rw [hname] at hd
      obtain ⟨q, htells, hq⟩ := ofFilter_tells hs value entity row d _ _ hrow hd
      exact ⟨_, .cons htells.not htell, ⟨_, _, rfl, ⟨q, hq, rfl⟩, hps⟩, congrArg Nat.succ hlength⟩
    | group disjunctive =>
      obtain ⟨items, ds, hv, hds, rfl⟩ := hpart
      rw [hname] at hds
      obtain ⟨qs, htellGroup, hqs, hlengthGroup⟩ := ofGroup_tells hs value items hv entity row ds _ _ hrow hds
      have hempty : items.isEmpty = qs.isEmpty := by
        rw [Bool.eq_iff_iff, List.isEmpty_iff_length_eq_zero, List.isEmpty_iff_length_eq_zero, hlengthGroup]
      exact ⟨_, .cons (htellGroup.group hempty disjunctive) htell, ⟨_, ps, rfl, ⟨qs, hqs, rfl⟩, hps⟩,
        congrArg Nat.succ hlength⟩
    | relation r =>
      obtain ⟨target, ht, hc⟩ := hpart
      have htarget : target.name = r.target := Schema.name_of_entity? ht
      rw [htarget] at hc
      have hnested : ∀ n m d m', Gives (ofFilter s r.target (.sub n) value) m d m' →
          ∃ p, d.Tells p ∧ IsTree s r.target (.sub n) value p :=
        fun n m d m' => ofFilter_tells hs value r.target _ d m m' (Alias.isPlain_sub n)
      obtain ⟨p, htells, hp⟩ : ∃ p, part.Tells p ∧
          IsLinkTree row target.name r.link value (fun sub q => IsTree s r.target sub value q) p :=
        relationCondition_tells hnested hrow hc
      rw [htarget] at hp
      exact ⟨_, .cons htells htell, ⟨p, ps, rfl, hp, hps⟩, congrArg Nat.succ hlength⟩
    | column name =>
      obtain ⟨t, m', ht, hc, rfl⟩ := hpart
      obtain ⟨hwritten, htext⟩ := columnTerm_tells hrow ht
      have htells := comparisonCondition_tells hwritten hc
      rw [htext] at htells
      exact ⟨_, .cons htells htell, ⟨_, ps, rfl, rfl, hps⟩, congrArg Nat.succ hlength⟩
    | formula f =>
      obtain ⟨t, ht, hc, rfl⟩ := hpart
      obtain ⟨hwritten, htext⟩ := ofFormula_tells hs hmem (mem_formulas_of_key hk) hrow ht
      have htells := comparisonCondition_tells hwritten hc
      exact ⟨_, .cons htells htell, ⟨_, ps, rfl, ⟨_, htext, rfl⟩, hps⟩, congrArg Nat.succ hlength⟩

/-- The conditions of the members of a group say what each member does. -/
theorem ofMembers_tell (hs : s.Bracketed) : (filters : List Value) → ∀ (entity : String) (row : Alias)
    (cs : List Condition) (n n' : Nat), row.IsPlain → Gives (ofMembers s entity row filters) n cs n' →
    ∃ ps, AllTell cs ps ∧ AreMemberTrees s entity row filters ps ∧ ps.length = filters.length
  | [] => by
    intro entity row cs n n' hrow h
    rw [ofMembers] at h
    obtain ⟨rfl, _⟩ := Gives.pure_iff.mp h
    exact ⟨[], .nil, rfl, rfl⟩
  | filter :: rest => by
    intro entity row cs n n' hrow h
    obtain ⟨part, m, parts, hpart, hparts, rfl⟩ := ofMembers_cons_gives h
    obtain ⟨p, htells, hp⟩ := ofFilter_tells hs filter entity row part _ _ hrow hpart
    obtain ⟨ps, htell, hps, hlength⟩ := ofMembers_tell hs rest entity row parts _ _ hrow hparts
    exact ⟨_, .cons htells htell, ⟨p, ps, rfl, hp, hps⟩, congrArg Nat.succ hlength⟩

theorem ofGroup_tells (hs : s.Bracketed) : (value : Value) → ∀ items, value = .list items ∨ value = .tuple items →
    ∀ (entity : String) (row : Alias) (cs : List Condition) (n n' : Nat), row.IsPlain →
    Gives (ofMembers s entity row items) n cs n' →
    ∃ ps, AllTell cs ps ∧ AreGroupTrees s entity row value ps ∧ ps.length = items.length
  | .list own | .tuple own => by
    intro items hv entity row cs n n' hrow h
    have hi : items = own := by
      rcases hv with hv | hv <;> cases hv
      rfl
    subst hi
    exact ofMembers_tell hs items entity row cs n n' hrow h
  | .map _ | .set _ | .scalar _ => by
    intro items hv
    rcases hv with hv | hv <;> cases hv

end

end Filter

namespace Sql.Condition

open EntityViews.Filter

/-- What is told of a condition is what its text says, and the text is not taken apart by what it is joined with. -/
theorem Tells.read {c : Condition} {p : Proposition} (h : c.Tells p) :
    ∃ is, items c.text = some is ∧ Lacks "AND" is ∧ Lacks "OR" is ∧ Sql.read c.text = some p := by
  obtain ⟨hwritten, rfl⟩ := h
  obtain ⟨is, hunit⟩ := isUnit_text c hwritten
  exact ⟨is, hunit.items, hunit.lacksAnd, hunit.lacksOr, hunit.read⟩

theorem texts_eq_map (cs : List Condition) : texts cs = cs.map text := by
  induction cs with
  | nil => rfl
  | cons c cs ih => rw [texts, ih, List.map_cons]

/-- Clauses that are told of are joined to what says their conjunction. -/
theorem AllTell.read_clauses {cs : List Condition} {ps : List Proposition} (h : AllTell cs ps) (hne : ps ≠ []) :
    ∃ joined, Select.whereText (cs.map .condition) = "WHERE " ++ joined ∧ Sql.read joined = some (.conjunction ps) := by
  have hcs := h.ne_nil hne
  obtain ⟨hwritten, rfl⟩ := h
  refine ⟨" AND ".intercalate (texts cs), ?_, ?_⟩
  · have hempty : (cs.map Clause.condition).isEmpty ≠ true := by
      rwa [ne_eq, List.isEmpty_iff, List.map_eq_nil_iff]
    rw [Select.whereText, if_neg hempty, List.map_map, texts_eq_map]
    rfl
  · rw [Proposition.conjunction_of_ne_nil hne]
    exact (units_texts cs hwritten).read_and (texts_ne_nil hcs)

end Sql.Condition

namespace Sql.Query

open EntityViews.Filter Condition

variable {s : Schema} (hs : s.Bracketed)

include hs

/-- A filter that is present adds one clause, which says what the filter does. -/
theorem filtered_tells {q q' : Query} {filter : Value} {n n' : Nat} (hrow : q.rowAlias.IsPlain)
    (h : Gives (Query.filtered s q filter) n q' n') :
    if filter.isPresent then
      ∃ c p, c.Tells p ∧ IsTree s q.entity.name q.rowAlias filter p ∧ q' = q.add (.condition c)
    else q' = q := by
  unfold Query.filtered at h
  split
  · rw [if_pos ‹_›] at h
    simp only [Gives.bind_iff, Gives.pure_iff] at h
    obtain ⟨c, _, hc, rfl, _⟩ := h
    obtain ⟨p, htells, hp⟩ := ofFilter_tells hs filter _ _ c _ _ hrow hc
    exact ⟨c, p, htells, hp, rfl⟩
  · rw [if_neg ‹_›] at h
    exact (Gives.pure_iff.mp h).1

/-- Filters that are added one after the other add what they say, each in a clause of its own. -/
theorem foldlM_filtered_tell {filters : List Value} {q q' : Query} {n n' : Nat} (hrow : q.rowAlias.IsPlain)
    (h : Gives (filters.foldlM (Query.filtered s) q) n q' n') :
    ∃ cs ps, AllTell cs ps ∧
      List.Forall₂ (IsTree s q.entity.name q.rowAlias) (filters.filter Value.isPresent) ps ∧
      q'.clauses = q.clauses ++ cs.map .condition := by
  induction filters generalizing q n with
  | nil =>
    obtain ⟨rfl, _⟩ := Gives.foldlM_nil_iff.mp h
    exact ⟨[], [], .nil, .nil, by simp⟩
  | cons filter rest ih =>
    obtain ⟨middle, m, hstep, hrest⟩ := Gives.foldlM_cons_iff.mp h
    have htold := filtered_tells hs hrow hstep
    rw [List.filter_cons]
    split at htold
    · obtain ⟨c, p, htells, hp, rfl⟩ := htold
      obtain ⟨cs, ps, htell, hps, hclauses⟩ := ih (q := q.add (.condition c)) hrow hrest
      rw [if_pos ‹_›]
      refine ⟨c :: cs, p :: ps, .cons htells htell, .cons hp hps, ?_⟩
      rw [hclauses, Query.add, List.map_cons, List.append_assoc]
      rfl
    · subst htold
      rw [if_neg ‹_›]
      exact ih hrow hrest

end Sql.Query

namespace Sql.Condition

open EntityViews.Filter

/-- Read by precedence, the text that an accepted filter compiles to combines comparisons just as the filter does, and shows
neither AND nor OR outside brackets; so the clauses of all filters that were added to a query say their conjunction. -/
theorem read_ofFilter (s : Schema) (row : Alias) (hs : s.Bracketed) (hrow : row.IsPlain) :
    (∀ entity filter c n n', Gives (ofFilter s entity row filter) n c n' →
      ∃ is p, items c.text = some is ∧ Lacks "AND" is ∧ Lacks "OR" is ∧ Sql.read c.text = some p ∧
        IsTree s entity row filter p) ∧
    ∀ (q : Query) (filters : List Value) n q' n', q.rowAlias = row → q.clauses = [] →
      Gives (filters.foldlM (Query.filtered s) q) n q' n' →
      ∃ ps, List.Forall₂ (IsTree s q.entity.name row) (filters.filter Value.isPresent) ps ∧
        (if ps = [] then Select.whereText q'.clauses = ""
          else ∃ joined, Select.whereText q'.clauses = "WHERE " ++ joined ∧ Sql.read joined = some (.conjunction ps)) := by
  constructor
  · intro entity filter c n n' hc
    obtain ⟨p, htells, hp⟩ := ofFilter_tells hs filter entity row c n n' hrow hc
    obtain ⟨is, his, hand, hor, hread⟩ := htells.read
    exact ⟨is, p, his, hand, hor, hread, hp⟩
  · rintro q filters n q' n' rfl hempty hq
    obtain ⟨cs, ps, htell, hps, hclauses⟩ := Query.foldlM_filtered_tell hs hrow hq
    rw [hempty, List.nil_append] at hclauses
    refine ⟨ps, hps, ?_⟩
    rw [hclauses]
    by_cases hnone : ps = []
    · have hcs : cs = [] := by
        cases cs with
        | nil => rfl
        | cons c cs => cases htell.2.trans hnone
      rw [if_pos hnone, hcs]
      rfl
    · rw [if_neg hnone]
      exact htell.read_clauses hnone

def germanOrPrivate : Value := single (.text "$or") (.list [single (.text "languageId") (.int 2),
  single (.text "$not") (single (.text "collection") (single (.text "isPublic") (.bool true)))])

theorem tokens_t0 : tokens (Alias.row "t0").text.toList = some [.word ['t', '0']] := by
  show tokens (String.ofList ['t', '0']).toList = _
  rw [String.toList_ofList]
  rfl

theorem isPlain_t0 : (Alias.row "t0").IsPlain := ⟨_, tokens_t0, by decide⟩

/-- For the texts of the learning schema it is one disjunction of two conditions, the second a negated membership test. -/
theorem read_germanOrPrivate : ∃ c n' is p q, Gives (ofFilter Learning.schema "Text" (.row "t0") germanOrPrivate) 1 c n' ∧
    items c.text = some is ∧ Lacks "AND" is ∧ Lacks "OR" is ∧ Sql.read c.text = some (.any [p, .not q]) := by
  obtain ⟨c, n', hc⟩ : ∃ c n', Gives (ofFilter Learning.schema "Text" (.row "t0") germanOrPrivate) 1 c n' := ⟨_, _, rfl⟩
  obtain ⟨is, _, his, hand, hor, hread, ps, ⟨_, _, rfl, ⟨qs, hqs, rfl⟩, rfl⟩, rfl⟩ :=
    (read_ofFilter Learning.schema (.row "t0") bracketed_learning isPlain_t0).1 _ _ c _ _ hc
  -- The members of the group, in turn.
  obtain ⟨p, _, rfl, _, _, _, rfl, ⟨_, ⟨_, _, rfl, ⟨q, _, rfl⟩, rfl⟩, rfl⟩, rfl⟩ := hqs
  exact ⟨c, n', is, p, q, hc, his, hand, hor, hread⟩

/-- A key that the filtered row holds is compared itself, without a sub-select; and the name of a row may look like a
connective. -/
theorem read_key :
    (∃ c n' r p, Gives (ofFilter Learning.schema "Text" (.row "t0") (single (.text "collection") (.int 3))) 1 c n' ∧
      Learning.schema.key? "Text" (.text "collection") = some (.relation r) ∧ Sql.read c.text = some p ∧
      ∀ negated term column table row condition, p ≠ .within negated term column table row condition) ∧
    ∃ c n' is, Gives (ofFilter Learning.schema "Text" (.row "AND") (single (.text "title") (.text "Die Wand"))) 1 c n' ∧
      items c.text = some is ∧ ¬Lacks "AND" is := by
  constructor
  · have hc : Gives (ofFilter Learning.schema "Text" (.row "t0") (single (.text "collection") (.int 3))) 1
        (.compare .eq (.column (.row "t0") (.plain "collectionId" rfl)) (.int 3)) 1 := rfl
    obtain ⟨is, hunit⟩ := isUnit_text (.compare .eq (.column (.row "t0") (.plain "collectionId" rfl)) (.int 3))
      (isPlain_t0.column _)
    exact ⟨_, _, _, _, hc, rfl, hunit.read, by rw [proposition]; nofun⟩
  · have hc : Gives (ofFilter Learning.schema "Text" (.row "AND") (single (.text "title") (.text "Die Wand"))) 1
        (.compare .eq (.column (.row "AND") (.plain "title" rfl)) (.text "Die Wand")) 1 := rfl
    have hrow : tokens (Alias.row "AND").text.toList = some [.word ['A', 'N', 'D']] := by
      show tokens (String.ofList ['A', 'N', 'D']).toList = _
      rw [String.toList_ofList]
      rfl
    have hequals : items " = ?" = some [.token (.sign '='), .token (.sign '?')] := items_literal rfl
    have hitems := items_append (.inr (notWord_of_all rfl)) (items_column hrow (.plain "title" rfl)) hequals
    refine ⟨_, _, _, hc, hitems, ?_⟩
    intro hlacks
    cases hlacks _ List.mem_cons_self

end Sql.Condition

end EntityViews
