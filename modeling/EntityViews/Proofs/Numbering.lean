import EntityViews.Proofs.Combination
import EntityViews.Proofs.Mentions

/-!
The numbers of sub-selects. A counter runs on over all filters that are compiled one after the other, those that fail included.
Main statement: no two sub-selects share a row, every mention of the row of a sub-select lies within it, and each filter
compiles as if it were the first, but for higher numbers.
-/

namespace EntityViews

open Sql

namespace Sql

/-! Conditions with higher numbers. -/

def Alias.raised (k : Nat) : Alias → Alias
  | row name => .row name
  | sub n => .sub (n + k)

def Term.raised (k : Nat) : Term → Term
  | column row name => .column (row.raised k) name
  | formula f row _ =>
    .formula f (row.raised k) (String.ofList (Template.fill (row.raised k).text.toList f.sql.toList))

namespace Condition

mutual

def raised (k : Nat) : Condition → Condition
  | always => .always
  | never => .never
  | compare comparison term operand => .compare comparison (term.raised k) operand
  | isNull negated term => .isNull negated (term.raised k)
  | among negated term operands => .among negated (term.raised k) operands
  | all parts => .all (raisedAll k parts)
  | any parts => .any (raisedAll k parts)
  | not part => .not (part.raised k)
  | within negated term column table row condition =>
    .within negated (term.raised k) column table (row.raised k) (condition.raised k)

def raisedAll (k : Nat) : List Condition → List Condition
  | [] => []
  | part :: rest => part.raised k :: raisedAll k rest

end

theorem raisedAll_eq_map (k : Nat) (parts : List Condition) : raisedAll k parts = parts.map (raised k) := by
  induction parts with
  | nil => rfl
  | cons part rest ih => rw [raisedAll, ih, List.map_cons]

/-- To raise the numbers of a conjunction is to raise those of its parts. -/
theorem raised_conjunction (k : Nat) (parts : List Condition) :
    (conjunction parts).raised k = conjunction (raisedAll k parts) := by
  match parts with
  | [] => rfl
  | [part] => rfl
  | first :: second :: rest =>
    rw [conjunction, raised, raisedAll, raisedAll, conjunction]
    · nofun
    · nofun

end Condition

/-! Compiling on from a higher number. -/

def Compile.Raises {α β : Type} (k : Nat) (f : α → β) (x : Compile α) (y : Compile β) : Prop :=
  ∀ n, y.run.run (n + k) = ((x.run.run n).1.map f, (x.run.run n).2 + k)

namespace Compile.Raises

variable {α β γ δ : Type} {k : Nat} {f : α → β} {g : γ → δ}

protected theorem pure (a : α) : Raises k f (pure a : Compile α) (pure (f a)) := fun _ => rfl

protected theorem throw (e : Fault) : Raises k f (throw e : Compile α) (throw e) := fun _ => rfl

theorem lift {x : Except Fault α} {y : Except Fault β} (h : y = x.map f) :
    Raises k f (liftM x : Compile α) (liftM y) := by
  subst h
  exact fun _ => rfl

/-- What takes no account of rows is the same work. -/
theorem same (x : Except Fault α) : Raises k id (liftM x : Compile α) (liftM x) := lift (by cases x <;> rfl)

/-- Steps that follow each other raise their numbers alike. -/
theorem bind {x : Compile α} {y : Compile β} {u : α → Compile γ} {v : β → Compile δ} (h : Raises k f x y)
    (hu : ∀ a, Raises k g (u a) (v (f a))) : Raises k g (x >>= u) (y >>= v) := by
  intro n
  rw [Gives.run_bind, Gives.run_bind, h n]
  cases x.run.run n with
  | mk outcome m =>
    cases outcome with
    | error e => rfl
    | ok a => exact hu a m

/-- After what takes no account of rows, the rest is compared on the same result. -/
theorem after {x : Except Fault α} {u : α → Compile γ} {v : α → Compile δ}
    (hu : ∀ a, x = .ok a → Raises k g (u a) (v a)) : Raises k g (liftM x >>= u) (liftM x >>= v) := by
  cases x with
  | error e => exact fun _ => rfl
  | ok a => exact hu a rfl

end Compile.Raises

theorem raises_freshAlias (k : Nat) : Compile.Raises k (Alias.raised k) freshAlias freshAlias := by
  intro n
  show ((.ok (.sub (n + k)), n + k + 1) : Except Fault Alias × Nat) = (.ok (.sub (n + k)), n + 1 + k)
  rw [Nat.add_right_comm]

/-- An operator on a raised term makes the raised condition. -/
theorem operatorCondition_raised (k : Nat) (t : Term) (op : Operator) (v : Value) :
    operatorCondition (t.raised k) op v = (operatorCondition t op v).map (Condition.raised k) := by
  unfold operatorCondition
  cases operand v with
  | error e => rfl
  | ok p =>
    simp only [bind, Except.bind]
    split
    · rfl
    · rfl
    · rfl
    · split <;> rfl
    · split <;> rfl

/-- Where each step is renamed, so is the list of results. -/
theorem mapM_eq_map {α β γ : Type} {f : α → Except Fault β} {g : α → Except Fault γ} {h : β → γ}
    (hfg : ∀ x, g x = (f x).map h) (xs : List α) : xs.mapM g = (xs.mapM f).map (List.map h) := by
  induction xs with
  | nil => rfl
  | cons x xs ih =>
    rw [List.mapM_cons, List.mapM_cons, ih, hfg]
    cases f x with
    | error e => rfl
    | ok y =>
      cases xs.mapM f with
      | error e => rfl
      | ok ys => rfl

theorem operatorConditions_raised (k : Nat) (t : Term) (whole : Value) (entries : List (Value × Value)) :
    operatorConditions (t.raised k) whole entries =
      (operatorConditions t whole entries).map (Condition.raisedAll k) := by
  have hall : Condition.raisedAll k = List.map (Condition.raised k) := funext (Condition.raisedAll_eq_map k)
  rw [hall]
  refine mapM_eq_map ?_ entries
  rintro ⟨key, v⟩
  dsimp only
  cases Operator.ofKey? key with
  | none => rfl
  | some op => exact operatorCondition_raised k t op v

/-- A comparison on a raised term makes the raised condition. -/
theorem comparisonCondition_raised (k : Nat) (t : Term) (v : Value) :
    comparisonCondition (t.raised k) v = (comparisonCondition t v).map (Condition.raised k) := by
  unfold comparisonCondition
  split
  · rfl
  · rename_i entries _
    rw [operatorConditions_raised]
    cases operatorConditions t (.map entries) entries with
    | error e => rfl
    | ok cs => exact congrArg Except.ok (Condition.raised_conjunction k cs).symm
  · exact operatorCondition_raised k t _ _
  · exact operatorCondition_raised k t _ _
  · exact operatorCondition_raised k t _ _
  · exact operatorCondition_raised k t _ _

open Compile

theorem raises_comparisonCondition (k : Nat) (t : Term) (v : Value) :
    Raises k (Condition.raised k) (liftM (comparisonCondition t v) : Compile Condition)
      (liftM (comparisonCondition (t.raised k) v)) := .lift (comparisonCondition_raised k t v)

theorem raises_columnTerm (k : Nat) (row : Alias) (name : Label) :
    Raises k (Term.raised k) (columnTerm row name) (columnTerm (row.raised k) name) :=
  (Raises.same (Name.ofLabel? name)).bind fun c => .pure (Term.column row c)

theorem ofFormula_raised {f : Formula} (h : Template.aliasOnly f.sql.toList = true) (k : Nat) (row : Alias) :
    Term.ofFormula f (row.raised k) = (Term.ofFormula f row).map (Term.raised k) := by
  rw [Term.ofFormula, Term.ofFormula, Formula.render_eq h, Formula.render_eq h]
  rfl

section Relation

variable {k : Nat} {target : Entity} {v : Value} {nested : Alias → Compile Condition}
  (hn : ∀ sub, Raises k (Condition.raised k) (nested sub) (nested (sub.raised k)))

include hn

theorem raises_keyCondition (t : Term) :
    Raises k (Condition.raised k) (keyCondition target t v nested) (keyCondition target (t.raised k) v nested) := by
  unfold keyCondition
  split
  · exact raises_comparisonCondition k t v
  · refine (raises_freshAlias k).bind fun sub => (hn sub).bind fun c => ?_
    exact (Raises.same (Name.make? target.name)).bind fun table => .pure (Condition.within false t .id table sub c)

/-- What is said of a related row is said of the raised row in the same way. -/
theorem raises_targetCondition (sub : Alias) (back : Name) :
    Raises k (Condition.raised k) (targetCondition sub back v nested) (targetCondition (sub.raised k) back v nested) := by
  unfold targetCondition
  split
  · exact .pure (Condition.isNull true (.column sub back))
  split
  · exact raises_comparisonCondition k (.column sub .id) v
  · exact hn sub

/-- From a higher count a relation compiles to the same condition with higher numbers. -/
theorem raises_relationCondition (row : Alias) (link : Link) :
    Raises k (Condition.raised k) (relationCondition target row link v nested)
      (relationCondition target (row.raised k) link v nested) := by
  cases link with
  | manyToOne key | oneToOne key =>
    rw [relationCondition_held target row key (by simp), relationCondition_held target (row.raised k) key (by simp)]
    exact (raises_columnTerm k row (.word key)).bind fun t => raises_keyCondition hn t
  | manyToMany table sourceKey targetKey =>
    rw [relationCondition_through, relationCondition_through]
    refine (raises_freshAlias k).bind fun join => (Raises.same (Name.make? sourceKey)).bind fun source => ?_
    refine (raises_columnTerm k join (.word targetKey)).bind fun t => (raises_keyCondition hn t).bind fun c => ?_
    exact (Raises.same (Name.make? table)).bind fun name => .pure (Condition.within false (.column row .id) source name join c)
  | oneToMany key | oneToOneInverse key =>
    rw [relationCondition_back target row key (by simp), relationCondition_back target (row.raised k) key (by simp)]
    refine (raises_freshAlias k).bind fun sub => (Raises.same (Name.make? key)).bind fun back => ?_
    refine (raises_targetCondition hn sub back).bind fun c => ?_
    exact (Raises.same (Name.make? target.name)).bind fun table =>
      .pure (Condition.within v.isNull (.column row .id) back table sub c)

end Relation

namespace Condition

variable {s : Schema} (k : Nat)

theorem raises_absent (refused : Bool) (fault : Fault) :
    Raises k (raised k) (if refused then throw fault else return .always) (if refused then throw fault else return .always) := by
  cases refused with
  | true => exact .throw fault
  | false => exact .pure always

mutual

/-- From a higher number on a filter compiles to the same, but for higher numbers. -/
theorem raises_ofFilter (hs : s.Inserts) : (filter : Value) → ∀ (entity : String) (row : Alias),
    Raises k (raised k) (ofFilter s entity row filter) (ofFilter s entity (row.raised k) filter)
  | .map [] => by
    intro entity row
    rw [ofFilter, ofFilter]
    exact .pure always
  | .map (entry :: rest) => by
    intro entity row
    rw [ofFilter, ofFilter]
    · unfold entityNamed
      cases he : s.entity? entity with
      | none => exact fun _ => rfl
      | some e =>
        have hmem : e ∈ s.entities := List.mem_of_find?_eq_some he
        refine (raises_ofEntries hs (entry :: rest) e row _ hmem).bind fun cs => ?_
        rw [← raised_conjunction]
        exact .pure (conjunction cs)
    · nofun
    · nofun
  | .scalar _ | .list _ | .tuple _ | .set _ => by
    intro entity row
    rw [ofFilter.eq_def, ofFilter.eq_def]
    exact raises_absent k _ _

/-- From a higher count the entries of a map compile to the same conditions with higher numbers. -/
theorem raises_ofEntries (hs : s.Inserts) : (entries : List (Value × Value)) → ∀ (e : Entity) (row : Alias) (whole : Value),
    e ∈ s.entities → Raises k (raisedAll k) (ofEntries s e row whole entries) (ofEntries s e (row.raised k) whole entries)
  | [] => by
    intro e row whole he
    rw [ofEntries, ofEntries]
    exact .pure []
  | (key, value) :: rest => by
    intro e row whole he
    rw [ofEntries, ofEntries]
    refine Raises.after fun kind hkind => ?_
    extract_lets next next'
    have hnext : ∀ c, Raises k (raisedAll k) (next c) (next' (c.raised k)) :=
      fun c => (raises_ofEntries hs rest e row whole he).bind fun cs => .pure (c :: cs)
    -- What comes next goes on from the counter that this entry left, raised on both sides alike.
    cases kind with
    | negation =>
      refine (raises_ofFilter hs value e.name row).bind fun c => ?_
      exact (Raises.pure (not c)).bind hnext
    | group disjunctive =>
      have hgroup : ∀ items, value = .list items ∨ value = .tuple items →
          Raises k (raisedAll k) (do
            let parts ← ofMembers s e.name row items
            let part ← pure (if disjunctive then any parts else all parts)
            next part) (do
            let parts ← ofMembers s e.name (row.raised k) items
            let part ← pure (if disjunctive then any parts else all parts)
            next' part) := by
        intro items hv
        refine (raises_ofGroup hs value items hv e.name row).bind fun cs => ?_
        cases disjunctive with
        | false => exact (Raises.pure (all cs)).bind hnext
        | true => exact (Raises.pure (any cs)).bind hnext
      have hempty : Raises k (raisedAll k) (do
            let part ← pure (if disjunctive then never else always)
            next part) (do
            let part ← pure (if disjunctive then never else always)
            next' part) := by
        cases disjunctive with
        | false => exact (Raises.pure (f := raised k) always).bind hnext
        | true => exact (Raises.pure (f := raised k) never).bind hnext
      cases value with
      | list items =>
        cases items with
        | nil => exact hempty
        | cons item items => exact hgroup _ (.inl rfl)
      | tuple items =>
        cases items with
        | nil => exact hempty
        | cons item items => exact hgroup _ (.inr rfl)
      | _ => exact fun _ => rfl
    | relation r =>
      refine Raises.bind (f := id) ?_ fun target => ?_
      · unfold entityNamed
        cases s.entity? r.target with
        | none => exact .throw _
        | some target => exact .pure target
      · exact (raises_relationCondition (fun sub => raises_ofFilter hs value target.name sub) row r.link).bind hnext
    | column name =>
      exact (raises_columnTerm k row name).bind fun t => (raises_comparisonCondition k t value).bind hnext
    | formula f =>
      have halias : Template.aliasOnly f.sql.toList = true := (hs e he f (Filter.mem_formulas_of_key hkind)).1
      exact (Raises.lift (ofFormula_raised halias k row)).bind fun t => (raises_comparisonCondition k t value).bind hnext

/-- From a higher count the members of a group compile to the same conditions with higher numbers. -/
theorem raises_ofMembers (hs : s.Inserts) : (filters : List Value) → ∀ (entity : String) (row : Alias),
    Raises k (raisedAll k) (ofMembers s entity row filters) (ofMembers s entity (row.raised k) filters)
  | [] => by
    intro entity row
    rw [ofMembers, ofMembers]
    exact .pure []
  | filter :: rest => by
    intro entity row
    rw [ofMembers, ofMembers]
    refine (raises_ofFilter hs filter entity row).bind fun c => ?_
    exact (raises_ofMembers hs rest entity row).bind fun cs => .pure (c :: cs)

theorem raises_ofGroup (hs : s.Inserts) : (value : Value) → ∀ items, value = .list items ∨ value = .tuple items →
    ∀ (entity : String) (row : Alias),
    Raises k (raisedAll k) (ofMembers s entity row items) (ofMembers s entity (row.raised k) items)
  | .list own | .tuple own => by
    intro items hv entity row
    have hi : items = own := by
      rcases hv with hv | hv <;> cases hv
      rfl
    subst hi
    exact raises_ofMembers hs items entity row
  | .map _ | .set _ | .scalar _ => by
    intro items hv
    rcases hv with hv | hv <;> cases hv

end

end Condition

end Sql

end EntityViews
