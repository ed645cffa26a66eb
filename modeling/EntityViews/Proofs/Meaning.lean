import EntityViews.Proofs.Truth
import EntityViews.Proofs.Computations

/-!
The meaning of filters: the truth of a filter on a row, told without names for rows. Main statement: the condition that a
filter compiles to has this truth, whatever numbers its sub-selects took.
-/

namespace EntityViews

open Sql

def Schema.key? (s : Schema) (entity : String) (key : Value) : Option Key :=
  (s.entity? entity).bind fun e => (Key.of e .null key).toOption

namespace Contents

variable (db : Contents)

def operated (a : Value) (op : Operator) (v : Value) : Truth :=
  match operand v with
  | .error _ => .unknown
  | .ok b =>
    match op with
    | .comparison c =>
      match c, b with
      | .eq, .null => .ofBool a.isNull
      | .ne, .null => .ofBool !a.isNull
      | c, b => db.compare c a b
    | .isIn => db.member a (Sql.members b)
    | .notIn => (db.member a (Sql.members b)).not

/-- A value against a literal, a collection of them, or a map of operators, all of which have to agree. -/
def compared (a : Value) : Value → Truth
  | .map entries => .all (entries.map fun e =>
    match Operator.ofKey? e.1 with
    | some op => db.operated a op e.2
    | none => .unknown)
  | .list items => db.operated a .isIn (.list items)
  | .tuple items => db.operated a .isIn (.tuple items)
  | .set items => db.operated a .isIn (.set items)
  | v => db.operated a (.comparison .eq) v

def related (target : String) (link : Link) (value : Value) (nested : Row → Truth) : List Value :=
  match link with
  | .manyToOne _ | .oneToOne _ => db.column target "id" nested
  | .manyToMany table sourceKey targetKey => db.column table sourceKey fun j =>
    if isIdComparison value then db.compared (j targetKey) value
    else db.member (j targetKey) (db.column target "id" nested)
  | .oneToMany key | .oneToOneInverse key => db.column target key fun t =>
    if isIdComparison value then db.compared (t "id") value else nested t

def linked (row : Row) (target : String) (link : Link) (value : Value) (nested : Row → Truth) : Truth :=
  match link with
  | .manyToOne key | .oneToOne key =>
    if isIdComparison value then db.compared (row key) value
    else db.member (row key) (db.related target link value nested)
  | .manyToMany _ _ _ => db.member (row "id") (db.related target link value nested)
  | .oneToMany key | .oneToOneInverse key =>
    match value with
    | .null => (db.member (row "id") (db.column target key fun t => .ofBool !(t key).isNull)).not
    | value => db.member (row "id") (db.related target link value nested)

theorem isNull_of_nested {value : Value} (hi : isIdComparison value = false) : value.isNull = false := by
  cases value with
  | scalar a => cases hi
  | list | tuple | set | map => rfl

/-- When the row does not hold the key, its id has to be among the keys that lead to it. -/
theorem linked_eq_member {row : Row} {target : String} {link : Link} {value : Value} {nested : Row → Truth}
    (hk : link.sourceKey? = none) (hv : value.isNull = false) :
    db.linked row target link value nested = db.member (row "id") (db.related target link value nested) := by
  cases link with
  | manyToOne key | oneToOne key => cases hk
  | manyToMany table sourceKey targetKey => rfl
  | oneToMany key | oneToOneInverse key =>
    cases value with
    | scalar a =>
      cases a with
      | null => cases hv
      | _ => rfl
    | _ => rfl

end Contents

namespace Filter

mutual

/-- The truth of a filter on a row of an entity. -/
def truth (db : Contents) (s : Schema) (entity : String) (row : Row) : Value → Truth
  | .map entries => .all (entryTruths db s entity row entries)
  | _ => .holds

def entryTruths (db : Contents) (s : Schema) (entity : String) (row : Row) : List (Value × Value) → List Truth
  | [] => []
  | (key, value) :: rest =>
    (match s.key? entity key with
    | some .negation => (truth db s entity row value).not
    | some (.group disjunctive) => groupTruth db s entity row disjunctive value
    | some (.relation r) => db.linked row r.target r.link value fun other => truth db s r.target other value
    | some (.column name) => db.compared (row name.plain) value
    | some (.formula f) => db.compared (db.computes f row) value
    | none => .unknown) :: entryTruths db s entity row rest

def groupTruth (db : Contents) (s : Schema) (entity : String) (row : Row) (disjunctive : Bool) : Value → Truth
  | .list items | .tuple items =>
    if disjunctive then .any (memberTruths db s entity row items) else .all (memberTruths db s entity row items)
  | _ => .unknown

def memberTruths (db : Contents) (s : Schema) (entity : String) (row : Row) : List Value → List Truth
  | [] => []
  | filter :: rest => truth db s entity row filter :: memberTruths db s entity row rest

end

end Filter

theorem Schema.name_of_entity? {s : Schema} {name : String} {e : Entity} (h : s.entity? name = some e) :
    e.name = name := by
  have hp := List.find?_some h
  simpa using hp

namespace Sql

/-- A checked name is the text that was checked. -/
theorem Name.text_of_ofText? {role text : String} {n : Name} (h : Name.ofText? role text = .ok n) : n.text = text := by
  unfold Name.ofText? at h
  split at h
  · cases h
  · split at h
    · cases h
      rfl
    · cases h

theorem Name.text_of_ofLabel? {label : Label} {n : Name} (h : Name.ofLabel? label = .ok n) : n.text = label.plain := by
  cases label with
  | word s => exact Name.text_of_ofText? h
  | kind k =>
    cases h
    rfl

/-- The filter that a key belongs to is of no account unless the key is refused. -/
theorem Key.of_eq_ok {e : Entity} {whole other key : Value} {k : Key} (h : Key.of e whole key = .ok k) :
    Key.of e other key = .ok k := by
  -- The whole filter is mentioned in faults only.
  unfold Key.of at h ⊢
  cases hl : key.label? with
  | none =>
    rw [hl] at h
    cases h
  | some label =>
    simp only [hl] at h ⊢
    split at h
    · rwa [if_pos ‹_›]
    rw [if_neg ‹_›]
    split at h
    · rwa [if_pos ‹_›]
    rw [if_neg ‹_›]
    split at h
    · rwa [if_pos ‹_›]
    rw [if_neg ‹_›]
    split at h
    · cases h
    rw [if_neg ‹_›]
    split at h
    · exact h
    split at h
    · rwa [if_pos ‹_›]
    rw [if_neg ‹_›]
    split at h
    · exact h
    · cases h

/-- The term of a formula is its template filled with the row. -/
theorem Term.eq_of_ofFormula {f : Formula} {row : Alias} {t : Term} (h : Term.ofFormula f row = .ok t) :
    ∃ text, t = .formula f row text := by
  unfold Term.ofFormula at h
  cases hr : f.render row.text with
  | error e =>
    rw [hr] at h
    cases h
  | ok text =>
    rw [hr] at h
    cases h
    exact ⟨text, rfl⟩

/-- An entity is found by its name, and no number is taken for it. -/
theorem entityNamed_gives {s : Schema} {name : String} {e : Entity} {n n' : Nat} :
    Gives (entityNamed s name) n e n' ↔ s.entity? name = some e ∧ n' = n := by
  unfold entityNamed
  cases s.entity? name with
  | none =>
    simp only [Gives.throw_iff]
    constructor
    · exact False.elim
    · rintro ⟨h, _⟩
      cases h
  | some known =>
    rw [Gives.pure_iff, Option.some.injEq, eq_comm]

theorem columnTerm_gives {row : Alias} {name : Label} {t : Term} {n n' : Nat} (h : Gives (columnTerm row name) n t n') :
    ∃ c : Name, c.text = name.plain ∧ t = .column row c := by
  simp only [columnTerm, Gives.bind_iff, Gives.lift_iff, Gives.pure_iff] at h
  obtain ⟨c, _, ⟨hc, rfl⟩, rfl, rfl⟩ := h
  exact ⟨c, Name.text_of_ofLabel? hc, rfl⟩

inductive Operator.Makes (t : Term) (p : Value) : Operator → Condition → Prop
  | isNull : p = .null → Makes t p (.comparison .eq) (.isNull false t)
  | notNull : p = .null → Makes t p (.comparison .ne) (.isNull true t)
  | compare {k : Comparison} : (p = .null → k ≠ .eq ∧ k ≠ .ne) → Makes t p (.comparison k) (.compare k t p)
  | amongNone : members p = [] → Makes t p .isIn .never
  | among : members p ≠ [] → Makes t p .isIn (.among false t (members p))
  | notAmongNone : members p = [] → Makes t p .notIn .always
  | notAmong : members p ≠ [] → Makes t p .notIn (.among true t (members p))

/-- An operator makes its condition of the operand that it is given. -/
theorem operatorCondition_makes {t : Term} {op : Operator} {v : Value} {c : Condition}
    (h : operatorCondition t op v = .ok c) : ∃ p, operand v = .ok p ∧ op.Makes t p c := by
  unfold operatorCondition at h
  obtain ⟨p, hp, h⟩ := Except.bind_ok h
  refine ⟨p, hp, ?_⟩
  split at h
  · cases h
    exact .isNull rfl
  · cases h
    exact .notNull rfl
  · rename_i heq hne
    cases h
    exact .compare fun hnull => ⟨heq hnull, hne hnull⟩
  · cases h
    split
    · exact .amongNone (List.isEmpty_iff.mp ‹_›)
    · exact .among (mt List.isEmpty_iff.mpr ‹_›)
  · cases h
    split
    · exact .notAmongNone (List.isEmpty_iff.mp ‹_›)
    · exact .notAmong (mt List.isEmpty_iff.mpr ‹_›)

/-! The conditions of relations, with the condition on the key to a related row told apart. -/

section Links

variable (target : Entity)

def keyCondition (term : Term) (v : Value) (nested : Alias → Compile Condition) : Compile Condition :=
  -- A filter on the related row selects the ids that the key has to be among.
  if isIdComparison v then comparisonCondition term v
  else do
    let sub ← freshAlias
    let condition ← nested sub
    return .within false term .id (← Name.make? target.name) sub condition

def targetCondition (sub : Alias) (back : Name) (v : Value) (nested : Alias → Compile Condition) : Compile Condition :=
  -- There are to be any such rows unless the value is nothing.
  if v.isNull then return .isNull true (.column sub back)
  else if isIdComparison v then comparisonCondition (.column sub .id) v
  else nested sub

theorem relationCondition_held (row : Alias) (key : String) {link : Link}
    (hlink : link = .manyToOne key ∨ link = .oneToOne key) (v : Value) (nested : Alias → Compile Condition) :
    relationCondition target row link v nested =
      columnTerm row (.word key) >>= fun term => keyCondition target term v nested := by
  rcases hlink with rfl | rfl <;> rfl

theorem relationCondition_through (row : Alias) (table sourceKey targetKey : String) (v : Value)
    (nested : Alias → Compile Condition) :
    relationCondition target row (.manyToMany table sourceKey targetKey) v nested = do
      let join ← freshAlias
      let source ← Name.make? sourceKey
      let term ← columnTerm join (.word targetKey)
      let condition ← keyCondition target term v nested
      return .within false (.column row .id) source (← Name.make? table) join condition := by
  unfold relationCondition keyCondition
  by_cases hv : isIdComparison v
  · simp only [hv, if_true]
  · simp only [hv, Bool.false_eq_true, if_false, bind_assoc]

/-- A relation whose target holds the key compiles to a sub-select over this key. -/
theorem relationCondition_back (row : Alias) (key : String) {link : Link}
    (hlink : link = .oneToMany key ∨ link = .oneToOneInverse key) (v : Value) (nested : Alias → Compile Condition) :
    relationCondition target row link v nested = do
      let sub ← freshAlias
      let back ← Name.make? key
      let condition ← targetCondition sub back v nested
      return .within v.isNull (.column row .id) back (← Name.make? target.name) sub condition := by
  have hback : relationCondition target row link v nested = relationCondition target row (.oneToMany key) v nested := by
    rcases hlink with rfl | rfl <;> rfl
  rw [hback]
  unfold relationCondition targetCondition
  refine bind_congr fun sub => bind_congr fun back => ?_
  split
  · rfl
  · rename_i hv
    have hnull : v.isNull = false := Bool.eq_false_iff.mpr (mt Value.isNull_eq_true.mp hv)
    by_cases hi : isIdComparison v
    · simp only [hi, if_true, hnull, Bool.false_eq_true, if_false]
    · simp only [hi, Bool.false_eq_true, if_false, hnull]

end Links

variable (db : Contents)

/-- The condition of an operator is true as the operator says of the value. -/
theorem truth_operatorCondition {t : Term} {op : Operator} {v : Value} {c : Condition}
    (h : operatorCondition t op v = .ok c) (env : Env) : db.truth env c = db.operated (db.value env t) op v := by
  obtain ⟨p, hp, hmakes⟩ := operatorCondition_makes h
  unfold Contents.operated
  simp only [hp]
  cases hmakes with
  | isNull hnull =>
    rw [Contents.truth, Bool.bne_false, hnull]
  | notNull hnull =>
    rw [Contents.truth, Bool.bne_true, hnull]
  | compare hne =>
    rw [Contents.truth]
    dsimp only
    split
    · exact absurd rfl (hne rfl).1
    · exact absurd rfl (hne rfl).2
    · rfl
  | amongNone hnone | notAmongNone hnone =>
    rw [Contents.truth, hnone]
    rfl
  | among => rw [Contents.truth, if_neg Bool.false_ne_true]
  | notAmong => rw [Contents.truth, if_pos rfl]

/-- The conditions of several operators are true as each of them says. -/
theorem truths_operatorConditions {t : Term} {whole : Value} {entries : List (Value × Value)} {cs : List Condition}
    (h : operatorConditions t whole entries = .ok cs) (env : Env) :
    cs.map (db.truth env) = entries.map fun e =>
      match Operator.ofKey? e.1 with
      | some op => db.operated (db.value env t) op e.2
      | none => .unknown := by
  induction entries generalizing cs with
  | nil =>
    cases h
    rfl
  | cons e rest ih =>
    obtain ⟨key, v⟩ := e
    rw [operatorConditions, List.mapM_cons] at h
    cases hk : Operator.ofKey? key with
    | none =>
      simp only [hk] at h
      cases h
    | some op =>
      simp only [hk] at h
      cases hc : operatorCondition t op v with
      | error e =>
        rw [hc] at h
        cases h
      | ok c =>
        rw [hc] at h
        cases hcs : operatorConditions t whole rest with
        | error e =>
          unfold operatorConditions at hcs
          simp only [hcs, bind, Except.bind] at h
          cases h
        | ok cs' =>
          have hrest := ih hcs
          unfold operatorConditions at hcs
          simp only [hcs, bind, Except.bind, pure, Except.pure, Except.ok.injEq] at h
          subst h
          rw [List.map_cons, List.map_cons, hrest, truth_operatorCondition db hc]
          simp only [hk]

/-- The condition of a comparison is true as the comparison says of the value. -/
theorem truth_comparisonCondition {t : Term} {v : Value} {c : Condition} (h : comparisonCondition t v = .ok c)
    (env : Env) : db.truth env c = db.compared (db.value env t) v := by
  unfold comparisonCondition at h
  split at h
  · cases h
    rfl
  · rename_i entries _
    cases hcs : operatorConditions t (.map entries) entries with
    | error e =>
      rw [hcs] at h
      cases h
    | ok cs =>
      rw [hcs] at h
      cases h
      rw [Contents.truth_conjunction, truths_operatorConditions db hcs]
      rfl
  · exact truth_operatorCondition db h env
  · exact truth_operatorCondition db h env
  · exact truth_operatorCondition db h env
  · rw [truth_operatorCondition db h env]
    unfold Contents.compared
    split <;> simp_all

theorem Env.bind_self (env : Env) (row : Alias) (r : Row) : env.bind row r row.text = r := if_pos rfl

theorem truth_within {term : Term} {column table : Name} {sub : Alias} {c : Condition} {keep : Row → Truth} {env : Env}
    (h : ∀ r, db.truth (env.bind sub r) c = keep r) :
    db.truth env (.within false term column table sub c) =
      db.member (db.value env term) (db.column table.text column.text keep) := by
  rw [Contents.truth, if_neg Bool.false_ne_true]
  simp only [h]

section Relation

variable {target : Entity} {row : Alias} {v : Value} {nested : Alias → Compile Condition} {c : Condition} {n n' : Nat}
  (inner : Row → Truth) (hn : ∀ sub m d m', Gives (nested sub) m d m' → ∀ env, db.truth env d = inner (env sub.text))

def KeyGives (target : Entity) (term : Term) (v : Value) (nested : Alias → Compile Condition) (c : Condition) : Prop :=
  (isIdComparison v = true ∧ comparisonCondition term v = .ok c) ∨
  (isIdComparison v = false ∧ ∃ sub m d m' table, Gives (nested sub) m d m' ∧ Name.make? target.name = .ok table ∧
    c = .within false term .id table sub d)

theorem keyGives_of_gives {column : Name} (h : Gives (keyCondition target (.column row column) v nested) n c n') :
    KeyGives target (.column row column) v nested c := by
  unfold keyCondition at h
  by_cases hv : isIdComparison v
  · rw [if_pos hv] at h
    exact Or.inl ⟨hv, (Gives.lift_iff.mp h).1⟩
  · rw [if_neg hv] at h
    simp only [Gives.bind_iff, Gives.lift_iff, Gives.pure_iff] at h
    obtain ⟨sub, m, _, d, _, hd, table, _, ⟨ht, rfl⟩, rfl, rfl⟩ := h
    exact Or.inr ⟨Bool.eq_false_iff.mpr hv, sub, m, d, _, table, hd, ht, rfl⟩

include hn

/-- What is said of a key is a comparison of ids, or that a related row meets the filter. -/
theorem truth_of_keyGives {column : Name} (h : KeyGives target (.column row column) v nested c) (env : Env) :
    db.truth env c = if isIdComparison v then db.compared (env row.text column.text) v
      else db.member (env row.text column.text) (db.column target.name "id" inner) := by
  rcases h with ⟨hv, hc⟩ | ⟨hv, sub, m, d, m', table, hd, htable, rfl⟩
  · rw [if_pos hv, truth_comparisonCondition db hc]
    rfl
  · have hkeep : ∀ r, db.truth (env.bind sub r) d = inner r := by
      intro r
      rw [hn sub _ _ _ hd, Env.bind_self]
    rw [hv, truth_within db hkeep, Name.text_of_ofText? htable]
    rfl

/-- The rows that hold the key are told by their ids or by the nested filter, unless any of them will do. -/
theorem truth_targetCondition {sub : Alias} {back : Name} (hv : v.isNull = false)
    (h : Gives (targetCondition sub back v nested) n c n') (env : Env) (r : Row) :
    db.truth (env.bind sub r) c = if isIdComparison v then db.compared (r "id") v else inner r := by
  unfold targetCondition at h
  rw [hv, if_neg Bool.false_ne_true] at h
  by_cases hi : isIdComparison v
  · rw [if_pos hi] at h
    rw [if_pos hi, truth_comparisonCondition db (Gives.lift_iff.mp h).1, Contents.value, Env.bind_self]
    rfl
  · rw [if_neg hi] at h
    rw [if_neg hi, hn sub _ _ _ h, Env.bind_self]

/-- A key on a relation compiles to a condition of its truth if the nested filter does, for every row. -/
theorem truth_relationCondition {link : Link} (h : Gives (relationCondition target row link v nested) n c n')
    (env : Env) : db.truth env c = db.linked (env row.text) target.name link v inner := by
  cases link with
  | manyToOne key | oneToOne key =>
    rw [relationCondition_held target row key (by simp)] at h
    obtain ⟨t, _, ht, h⟩ := Gives.bind_iff.mp h
    obtain ⟨k, rfl, rfl⟩ := columnTerm_gives ht
    exact truth_of_keyGives db inner hn (keyGives_of_gives h) env
  | manyToMany table sourceKey targetKey =>
    rw [relationCondition_through] at h
    simp only [Gives.bind_iff, Gives.lift_iff, Gives.pure_iff] at h
    obtain ⟨join, _, _, source, _, ⟨hsource, rfl⟩, t, _, ht, d, _, hd, name, _, ⟨hname, rfl⟩, rfl, rfl⟩ := h
    obtain ⟨k, rfl, rfl⟩ := columnTerm_gives ht
    -- The key to the target is read off the row of the joining table that the sub-select binds.
    have hkeep : ∀ j, db.truth (env.bind join j) d = if isIdComparison v then db.compared (j k.text) v
        else db.member (j k.text) (db.column target.name "id" inner) := by
      intro j
      rw [truth_of_keyGives db inner hn (keyGives_of_gives hd), Env.bind_self]
    rw [truth_within db hkeep, Name.text_of_ofText? hname, Name.text_of_ofText? hsource]
    rfl
  | oneToMany key | oneToOneInverse key =>
    rw [relationCondition_back target row key (by simp)] at h
    simp only [Gives.bind_iff, Gives.lift_iff, Gives.pure_iff] at h
    obtain ⟨sub, _, _, back, _, ⟨hback, rfl⟩, d, _, hd, name, _, ⟨hname, rfl⟩, rfl, rfl⟩ := h
    cases hv : v.isNull with
    | true =>
      -- Whether a relation leads nowhere is told by the keys that are there; the other branch keeps those that are nothing.
      obtain rfl := Value.isNull_eq_true.mp hv
      obtain ⟨rfl, rfl⟩ := Gives.pure_iff.mp hd
      rw [Contents.linked, Contents.truth, if_pos rfl, Name.text_of_ofText? hname, Name.text_of_ofText? hback]
      simp only [Contents.truth, Contents.value, Env.bind_self, Name.text_of_ofText? hback, Bool.bne_true]
      rfl
    | false =>
      have hne : v ≠ .null := mt Value.isNull_eq_true.mpr (Bool.eq_false_iff.mp hv)
      rw [Contents.linked, truth_within db (truth_targetCondition db inner hn hv hd env), Name.text_of_ofText? hname,
        Name.text_of_ofText? hback]
      · rfl
      · exact hne

end Relation

theorem key?_of_gives {s : Schema} {entity : String} {e : Entity} {whole key : Value} {k : Key}
    (he : s.entity? entity = some e) (hk : Key.of e whole key = .ok k) : s.key? entity key = some k := by
  rw [Schema.key?, he, Option.bind_some, Key.of_eq_ok hk]
  rfl

end Sql

namespace Filter

open Condition

/-- What is no map is let through only if it stands for no filter. -/
theorem always_of_gives {p : Bool} {fault : Fault} {c : Condition} {n n' : Nat}
    (h : Gives (if p then throw fault else return .always : Compile Condition) n c n') : c = .always := by
  cases p with
  | true => exact (Gives.throw_iff.mp h).elim
  | false => exact (Gives.pure_iff.mp h).1

section Inversion

variable {s : Schema}

theorem ofFilter_map_gives {entity : String} {row : Alias} {entry : Value × Value} {rest : List (Value × Value)}
    {c : Condition} {n n' : Nat} (h : Gives (ofFilter s entity row (.map (entry :: rest))) n c n') :
    ∃ e cs, s.entity? entity = some e ∧
      Gives (ofEntries s e row (.map (entry :: rest)) (entry :: rest)) n cs n' ∧ c = Condition.conjunction cs := by
  simp only [ofFilter, Gives.bind_iff, Gives.pure_iff, entityNamed_gives] at h
  obtain ⟨e, _, ⟨he, rfl⟩, parts, m, hparts, rfl, rfl⟩ := h
  exact ⟨e, parts, he, hparts, rfl⟩

def EntryGives (s : Schema) (e : Entity) (row : Alias) (value : Value) (c : Condition) (n n' : Nat) : Key → Prop
  | .negation => ∃ d, Gives (ofFilter s e.name row value) n d n' ∧ c = .not d
  | .group disjunctive => ∃ items cs, (value = .list items ∨ value = .tuple items) ∧
      Gives (ofMembers s e.name row items) n cs n' ∧
      c = if items.isEmpty then (if disjunctive then .never else .always)
        else if disjunctive then .any cs else .all cs
  | .relation r => ∃ target, s.entity? r.target = some target ∧
      Gives (relationCondition target row r.link value fun sub => ofFilter s target.name sub value) n c n'
  | .column name => ∃ t m, Gives (columnTerm row name) n t m ∧ comparisonCondition t value = .ok c ∧ n' = m
  | .formula f => ∃ t, Term.ofFormula f row = .ok t ∧ comparisonCondition t value = .ok c ∧ n' = n

/-- Entries compile one after the other, each by the key that it has. -/
theorem ofEntries_cons_gives {e : Entity} {row : Alias} {whole key value : Value} {rest : List (Value × Value)}
    {cs : List Condition} {n n' : Nat} (h : Gives (ofEntries s e row whole ((key, value) :: rest)) n cs n') :
    ∃ k part m parts, Key.of e whole key = .ok k ∧ EntryGives s e row value part n m k ∧
      Gives (ofEntries s e row whole rest) m parts n' ∧ cs = part :: parts := by
  rw [ofEntries, Gives.bind_iff] at h
  obtain ⟨k, m₀, hkey, h⟩ := h
  obtain ⟨hk, rfl⟩ := Gives.lift_iff.mp hkey
  cases k with
  | negation =>
    simp only [Gives.bind_iff, Gives.pure_iff] at h
    obtain ⟨d, m, hd, _, _, ⟨rfl, rfl⟩, parts, _, hparts, rfl, rfl⟩ := h
    exact ⟨.negation, _, _, _, hk, ⟨d, hd, rfl⟩, hparts, rfl⟩
  | group disjunctive =>
    simp only at h
    -- A group without members is a constant, and that is what it would be as a group of no conditions.
    split at h
    · simp only [Gives.bind_iff, Gives.pure_iff] at h
      obtain ⟨_, _, ⟨rfl, rfl⟩, parts, _, hparts, rfl, rfl⟩ := h
      exact ⟨.group disjunctive, _, _, _, hk, ⟨[], [], Or.inl rfl, Gives.pure_iff.mpr ⟨rfl, rfl⟩, rfl⟩, hparts, rfl⟩
    · simp only [Gives.bind_iff, Gives.pure_iff] at h
      obtain ⟨_, _, ⟨rfl, rfl⟩, parts, _, hparts, rfl, rfl⟩ := h
      exact ⟨.group disjunctive, _, _, _, hk, ⟨[], [], Or.inr rfl, Gives.pure_iff.mpr ⟨rfl, rfl⟩, rfl⟩, hparts, rfl⟩
    · rename_i items hne
      have hi : items.isEmpty = false := by simpa using hne
      simp only [Gives.bind_iff, Gives.pure_iff] at h
      obtain ⟨ds, m, hds, _, _, ⟨rfl, rfl⟩, parts, _, hparts, rfl, rfl⟩ := h
      exact ⟨.group disjunctive, _, _, _, hk, ⟨items, ds, Or.inl rfl, hds, by rw [hi]; rfl⟩, hparts, rfl⟩
    · rename_i items hne
      have hi : items.isEmpty = false := by simpa using hne
      simp only [Gives.bind_iff, Gives.pure_iff] at h
      obtain ⟨ds, m, hds, _, _, ⟨rfl, rfl⟩, parts, _, hparts, rfl, rfl⟩ := h
      exact ⟨.group disjunctive, _, _, _, hk, ⟨items, ds, Or.inr rfl, hds, by rw [hi]; rfl⟩, hparts, rfl⟩
    · obtain ⟨_, _, hthrow, _⟩ := Gives.bind_iff.mp h
      exact (Gives.throw_iff.mp hthrow).elim
  | relation r =>
    simp only [Gives.bind_iff, Gives.pure_iff, entityNamed_gives] at h
    obtain ⟨target, _, ⟨ht, rfl⟩, part, m, hpart, parts, _, hparts, rfl, rfl⟩ := h
    exact ⟨.relation r, _, _, _, hk, ⟨target, ht, hpart⟩, hparts, rfl⟩
  | column name =>
    simp only [Gives.bind_iff, Gives.lift_iff, Gives.pure_iff] at h
    obtain ⟨t, m, ht, part, _, ⟨hpart, rfl⟩, parts, _, hparts, rfl, rfl⟩ := h
    exact ⟨.column name, _, _, _, hk, ⟨t, _, ht, hpart, rfl⟩, hparts, rfl⟩
  | formula f =>
    simp only [Gives.bind_iff, Gives.lift_iff, Gives.pure_iff] at h
    obtain ⟨t, _, ⟨ht, rfl⟩, part, _, ⟨hpart, rfl⟩, parts, _, hparts, rfl, rfl⟩ := h
    exact ⟨.formula f, _, _, _, hk, ⟨t, ht, hpart, rfl⟩, hparts, rfl⟩

theorem ofMembers_cons_gives {entity : String} {row : Alias} {filter : Value} {rest : List Value}
    {cs : List Condition} {n n' : Nat} (h : Gives (ofMembers s entity row (filter :: rest)) n cs n') :
    ∃ part m parts, Gives (ofFilter s entity row filter) n part m ∧ Gives (ofMembers s entity row rest) m parts n' ∧
      cs = part :: parts := by
  simp only [ofMembers, Gives.bind_iff, Gives.pure_iff] at h
  obtain ⟨part, m, hpart, parts, _, hparts, rfl, rfl⟩ := h
  exact ⟨part, m, parts, hpart, hparts, rfl⟩

end Inversion

variable (db : Contents) (s : Schema)

/-- A group is true as its members are joined, and an empty one by its kind. -/
theorem truth_group {items : List Value} {disjunctive : Bool} {cs : List Condition} (env : Env)
    (h : items.isEmpty → cs = []) :
    db.truth env (if items.isEmpty then (if disjunctive then .never else .always)
      else if disjunctive then .any cs else .all cs) =
      if disjunctive then .any (cs.map (db.truth env)) else .all (cs.map (db.truth env)) := by
  by_cases hi : items.isEmpty
  · rw [if_pos hi, h hi]
    cases disjunctive <;> rfl
  · rw [if_neg hi]
    cases disjunctive
    · simp only [Bool.false_eq_true, if_false, Contents.truth, Contents.truths_eq_map]
    · simp only [if_true, Contents.truth, Contents.truths_eq_map]

mutual

/-- A filter compiles to a condition of its truth. -/
theorem truth_ofFilter : (filter : Value) → ∀ (entity : String) (row : Alias) (c : Condition) (n n' : Nat),
    Gives (ofFilter s entity row filter) n c n' → ∀ env, db.truth env c = truth db s entity (env row.text) filter
  | .map [] => by
    intro entity row c n n' h env
    rw [ofFilter] at h
    obtain ⟨rfl, _⟩ := Gives.pure_iff.mp h
    rfl
  | .map (entry :: rest) => by
    intro entity row c n n' h env
    obtain ⟨e, cs, he, hcs, rfl⟩ := ofFilter_map_gives h
    rw [Contents.truth_conjunction, truths_ofEntries (entry :: rest) entity e row _ cs _ _ he hcs env, truth]
  | .scalar _ | .list _ | .tuple _ | .set _ => by
    intro entity row c n n' h env
    rw [ofFilter.eq_def] at h
    rw [always_of_gives h]
    rfl

/-- The entries of a map are true as the filter defines it for each. -/
theorem truths_ofEntries : (entries : List (Value × Value)) → ∀ (entity : String) (e : Entity) (row : Alias)
    (whole : Value) (cs : List Condition) (n n' : Nat), s.entity? entity = some e →
    Gives (ofEntries s e row whole entries) n cs n' →
    ∀ env, cs.map (db.truth env) = entryTruths db s entity (env row.text) entries
  | [] => by
    intro entity e row whole cs n n' he h env
    rw [ofEntries] at h
    obtain ⟨rfl, _⟩ := Gives.pure_iff.mp h
    rfl
  | (key, value) :: rest => by
    intro entity e row whole cs n n' he h env
    obtain ⟨k, part, m, parts, hk, hpart, hparts, rfl⟩ := ofEntries_cons_gives h
    have hname : e.name = entity := Schema.name_of_entity? he
    rw [List.map_cons, truths_ofEntries rest entity e row whole parts _ _ he hparts env, entryTruths,
      key?_of_gives he hk]
    congr 1
    cases k with
    | negation =>
      obtain ⟨d, hd, rfl⟩ := hpart
      rw [Contents.truth, truth_ofFilter value _ row d _ _ hd env, hname]
    | group disjunctive =>
      obtain ⟨items, ds, hv, hds, rfl⟩ := hpart
      have hgroup := truth_ofGroup value items hv e.name row ds _ _ disjunctive hds env
      rw [hname] at hgroup
      have hnone : items.isEmpty → ds = [] := by
        intro hi
        rw [List.isEmpty_iff.mp hi, ofMembers] at hds
        exact (Gives.pure_iff.mp hds).1
      rw [truth_group db env hnone, hgroup]
    | relation r =>
      obtain ⟨target, ht, hc⟩ := hpart
      have htarget : target.name = r.target := Schema.name_of_entity? ht
      rw [htarget] at hc
      -- In the sub-select the row of the target is the one that the nested filter is about.
      have hnested : ∀ sub m d m', Gives (ofFilter s r.target sub value) m d m' →
          ∀ env, db.truth env d = truth db s r.target (env sub.text) value :=
        fun sub m d m' => truth_ofFilter value r.target sub d m m'
      rw [truth_relationCondition db (fun other => truth db s r.target other value) hnested hc env, htarget]
    | column name =>
      obtain ⟨t, m', ht, hc, rfl⟩ := hpart
      obtain ⟨c, hcolumn, rfl⟩ := columnTerm_gives ht
      rw [truth_comparisonCondition db hc, Contents.value, hcolumn]
    | formula f =>
      obtain ⟨t, ht, hc, rfl⟩ := hpart
      obtain ⟨text, rfl⟩ := Term.eq_of_ofFormula ht
      rw [truth_comparisonCondition db hc, Contents.value]

/-- The members of a group are true as the filter defines it for each. -/
theorem truths_ofMembers : (filters : List Value) → ∀ (entity : String) (row : Alias) (cs : List Condition)
    (n n' : Nat), Gives (ofMembers s entity row filters) n cs n' →
    ∀ env, cs.map (db.truth env) = memberTruths db s entity (env row.text) filters
  | [] => by
    intro entity row cs n n' h env
    rw [ofMembers] at h
    obtain ⟨rfl, _⟩ := Gives.pure_iff.mp h
    rfl
  | filter :: rest => by
    intro entity row cs n n' h env
    obtain ⟨part, m, parts, hpart, hparts, rfl⟩ := ofMembers_cons_gives h
    rw [List.map_cons, truth_ofFilter filter entity row part _ _ hpart env,
      truths_ofMembers rest entity row parts _ _ hparts env, memberTruths]

theorem truth_ofGroup : (value : Value) → ∀ items, value = .list items ∨ value = .tuple items →
    ∀ (entity : String) (row : Alias) (cs : List Condition) (n n' : Nat) (disjunctive : Bool),
    Gives (ofMembers s entity row items) n cs n' →
    ∀ env, (if disjunctive then Truth.any (cs.map (db.truth env)) else .all (cs.map (db.truth env))) =
      groupTruth db s entity (env row.text) disjunctive value
  | .list own | .tuple own => by
    intro items hv entity row cs n n' disjunctive h env
    have hi : items = own := by
      rcases hv with hv | hv <;> cases hv
      rfl
    subst hi
    rw [truths_ofMembers items entity row cs n n' h env, groupTruth]
  | .map _ | .set _ | .scalar _ => by
    intro items hv
    rcases hv with hv | hv <;> cases hv

end

end Filter

end EntityViews
