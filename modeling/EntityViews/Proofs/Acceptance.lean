import EntityViews.Proofs.Absence
import EntityViews.Proofs.Templates

/-!
Which filters are accepted. Main statement: a filter compiles if and only if it is well-formed, which is told by the schema
alone; and all that can be wrong with a filter is told as a fault of the filter.
-/

namespace EntityViews

open Sql

def Scalar.isJson : Scalar → Bool
  | .null | .bool _ | .int _ | .float _ | .text _ => true
  | _ => false

def Value.isText : Value → Bool
  | .text _ => true
  | _ => false

mutual

def Value.isJson : Value → Bool
  | .scalar s => s.isJson
  | .list items => Value.areJson items
  | .map entries => Value.entriesAreJson entries
  | .tuple _ | .set _ => false

def Value.areJson : List Value → Bool
  | [] => true
  | item :: rest => item.isJson && Value.areJson rest

def Value.entriesAreJson : List (Value × Value) → Bool
  | [] => true
  | (key, value) :: rest => key.isText && value.isJson && Value.entriesAreJson rest

end

def Link.identifiers : Link → List String
  | .manyToOne key | .oneToOne key | .oneToMany key | .oneToOneInverse key => [key]
  | .manyToMany table sourceKey targetKey => [table, sourceKey, targetKey]

/-- Whether the names of an entity can be written in statements and cannot be taken for operators, and its formulas hold the
row as their only placeholder. -/
structure Entity.WellNamed (e : Entity) : Prop where
  name : isName e.name.toList = true
  columns : ∀ c ∈ e.columns, isName c.name.toList = true ∧ c.name.toList.head? ≠ some '$'
  relations : ∀ r ∈ e.relations, (∀ name ∈ r.link.identifiers, isName name.toList = true) ∧ r.name.toList.head? ≠ some '$'
  formulas : ∀ f ∈ e.formulas, Template.aliasOnly f.sql.toList = true ∧ f.name.toList.head? ≠ some '$'

def Schema.WellNamed (s : Schema) : Prop := ∀ e ∈ s.entities, e.WellNamed

namespace Filter

def Compares : Value → Prop
  | .map entries => ∀ entry ∈ entries, (Operator.ofKey? entry.1).isSome = true
  | _ => True

def ComparesIds : Value → Prop
  | .map entries => entries ≠ [] ∧ ∀ entry ∈ entries, (Operator.ofKey? entry.1).isSome = true
  | _ => True

mutual

/-- Whether a filter on an entity is well-formed: absent, or a map of keys that are. -/
def WellFormed (s : Schema) (entity : String) : Value → Prop
  | .map [] => True
  | .map (entry :: rest) => ∃ e, s.entity? entity = some e ∧ WellFormedEntries s e (entry :: rest)
  | v => v.isPresent = false

def WellFormedEntries (s : Schema) (e : Entity) : List (Value × Value) → Prop
  -- Combinators are told first, then relations, then columns and formulas.
  | [] => True
  | (key, value) :: rest =>
    (match key with
    | .text name =>
      if name = "$not" then WellFormed s e.name value
      else if name = "$and" ∨ name = "$or" then WellFormedList s e.name value
      else match e.relation? name with
        | some r => (∃ target, s.entity? r.target = some target) ∧ (ComparesIds value ∨ WellFormed s r.target value)
        | none => (name = "id" ∨ (e.column? name).isSome = true ∨ (e.formula? name).isSome = true) ∧ Compares value
    | _ => False) ∧ WellFormedEntries s e rest

def WellFormedList (s : Schema) (entity : String) : Value → Prop
  | .list items => WellFormedMembers s entity items
  | _ => False

def WellFormedMembers (s : Schema) (entity : String) : List Value → Prop
  | [] => True
  | filter :: rest => WellFormed s entity filter ∧ WellFormedMembers s entity rest

end

end Filter

/-! Outcomes by a condition that decides them. -/

def Verdict {α : Type} (P : Prop) : Except Fault α → Prop
  | .ok _ => P
  | .error e => ¬P ∧ ∃ problem filter, e = .filter problem filter

namespace Verdict

variable {α β : Type} {P Q : Prop}

theorem congr {x : Except Fault α} (h : Verdict P x) (hPQ : P ↔ Q) : Verdict Q x := propext hPQ ▸ h

theorem map {x : Except Fault α} {f : α → β} (h : Verdict P x) : Verdict P (x.map f) := by
  cases x <;> exact h

/-- Two steps decide what both of them ask for. -/
theorem bind {x : Except Fault α} {f : α → Except Fault β} (hx : Verdict P x) (hf : ∀ a, x = .ok a → Verdict Q (f a)) :
    Verdict (P ∧ Q) (x >>= f) := by
  cases x with
  | error e => exact ⟨fun h => hx.1 h.1, hx.2⟩
  | ok a => exact (hf a rfl).congr (and_iff_right hx).symm

/-- Steps along a list decide what all its members have to meet. -/
theorem mapM {f : α → Except Fault β} {R : α → Prop} {xs : List α} (h : ∀ a ∈ xs, Verdict (R a) (f a)) :
    Verdict (∀ a ∈ xs, R a) (xs.mapM f) := by
  induction xs with
  | nil => exact List.forall_mem_nil _
  | cons a rest ih =>
    obtain ⟨ha, hrest⟩ := List.forall_mem_cons.mp h
    rw [List.mapM_cons, List.forall_mem_cons]
    refine ha.bind fun b _ => ?_
    have hcons : ∀ bs, rest.mapM f = .ok bs → Verdict True (pure (b :: bs)) := fun _ _ => trivial
    exact ((ih hrest).bind hcons).congr (and_iff_left trivial)

end Verdict

def Decides {α : Type} (P : Prop) (x : Compile α) : Prop := ∀ n, Verdict P (x.run.run n).1

namespace Decides

variable {α β : Type} {P Q : Prop}

theorem congr {x : Compile α} (h : Decides P x) (hPQ : P ↔ Q) : Decides Q x := fun n => (h n).congr hPQ

protected theorem pure (a : α) : Decides True (pure a : Compile α) := fun _ => trivial

theorem refuse (problem : FilterProblem) (filter : Value) : Decides False (throw (.filter problem filter) : Compile α) :=
  fun _ => ⟨id, problem, filter, rfl⟩

theorem lift {x : Except Fault α} (h : Verdict P x) : Decides P (liftM x : Compile α) := fun _ => h

theorem of_ok {x : Except Fault α} (h : ∃ a, x = .ok a) : Decides True (liftM x : Compile α) := by
  obtain ⟨a, rfl⟩ := h
  exact lift trivial

theorem bind {x : Compile α} {f : α → Compile β} (hx : Decides P x) (hf : ∀ a n m, Gives x n a m → Decides Q (f a)) :
    Decides (P ∧ Q) (x >>= f) := by
  intro n
  have hn := hx n
  rw [Gives.run_bind]
  cases hrun : x.run.run n with
  | mk outcome m =>
    rw [hrun] at hn
    cases outcome with
    | error e => exact ⟨fun h => hn.1 h.1, hn.2⟩
    | ok a => exact (hf a n m hrun m).congr (and_iff_right hn).symm

/-- After what succeeds in any case, the rest decides. -/
theorem after {x : Compile α} {f : α → Compile β} (hx : Decides True x) (hf : ∀ a n m, Gives x n a m → Decides Q (f a)) :
    Decides Q (x >>= f) := (hx.bind hf).congr (and_iff_right trivial)

/-- What succeeds in any case may come last. -/
theorem ending {x : Compile α} {f : α → Compile β} (hx : Decides P x) (hf : ∀ a, Decides True (f a)) :
    Decides P (x >>= f) := (hx.bind fun a _ _ _ => hf a).congr (and_iff_left trivial)

theorem lift_bind {x : Except Fault α} {a : α} {f : α → Compile β} (h : x = .ok a) (hf : Decides Q (f a)) :
    Decides Q (liftM x >>= f) := by
  subst h
  exact hf

theorem refuse_bind {x : Except Fault α} {problem : FilterProblem} {filter : Value} {f : α → Compile β}
    (h : x = .error (.filter problem filter)) : Decides False (liftM x >>= f) := by
  subst h
  exact fun _ => ⟨id, problem, filter, rfl⟩

/-- Where compiling is decided by a condition, it gives a result if and only if the condition is met. -/
theorem gives_iff {x : Compile α} (h : Decides P x) (n : Nat) : (∃ a n', Gives x n a n') ↔ P := by
  have hn := h n
  constructor
  · rintro ⟨a, m, hgives⟩
    rw [show x.run.run n = (.ok a, m) from hgives] at hn
    exact hn
  · intro hP
    cases hrun : x.run.run n with
    | mk outcome m =>
      rw [hrun] at hn
      cases outcome with
      | ok a => exact ⟨a, m, hrun⟩
      | error e => exact absurd hP hn.1

/-- Where the condition is not met, compiling ends with a fault of a filter. -/
theorem refused {x : Compile α} (h : Decides P x) (hP : ¬P) (n : Nat) :
    ∃ problem filter n', x.run.run n = (.error (.filter problem filter), n') := by
  have hn := h n
  cases hrun : x.run.run n with
  | mk outcome m =>
    rw [hrun] at hn
    cases outcome with
    | ok a => exact absurd hn hP
    | error e =>
      obtain ⟨_, problem, filter, rfl⟩ := hn
      exact ⟨problem, filter, m, rfl⟩

end Decides

namespace Sql

open EntityViews.Filter

mutual

/-- Every JSON value can be bound. -/
theorem operand_ok : (v : Value) → v.isJson = true → ∃ o, operand v = .ok o
  | .scalar a => by
    intro h
    cases a with
    | null | bool | int | float | text => exact ⟨_, rfl⟩
    | decimal | date | datetime | level | columnKind => cases h
  | .list items => by
    intro h
    obtain ⟨os, hos⟩ := operands_ok items h
    exact ⟨.list os, by rw [operand, hos]; rfl⟩
  | .map entries => fun _ => ⟨_, rfl⟩
  | .tuple _ | .set _ => nofun

theorem operands_ok : (items : List Value) → Value.areJson items = true → ∃ os, operands items = .ok os
  | [] => fun _ => ⟨[], rfl⟩
  | item :: rest => by
    intro h
    rw [Value.areJson, Bool.and_eq_true] at h
    obtain ⟨o, ho⟩ := operand_ok item h.1
    obtain ⟨os, hos⟩ := operands_ok rest h.2
    exact ⟨o :: os, by rw [operands, ho, hos]; rfl⟩

end

theorem isJson_of_mem {entries : List (Value × Value)} (h : Value.entriesAreJson entries = true) :
    ∀ entry ∈ entries, entry.2.isJson = true := by
  induction entries with
  | nil => exact List.forall_mem_nil _
  | cons entry rest ih =>
    rw [Value.entriesAreJson, Bool.and_eq_true, Bool.and_eq_true] at h
    exact List.forall_mem_cons.mpr ⟨h.1.2, ih h.2⟩

variable {term : Term} {v : Value}

theorem operatorCondition_ok (op : Operator) (h : v.isJson = true) : ∃ c, operatorCondition term op v = .ok c := by
  obtain ⟨o, ho⟩ := operand_ok v h
  unfold operatorCondition
  rw [ho]
  simp only [bind, Except.bind]
  split <;> exact ⟨_, rfl⟩

/-- Operators compile if all of them are known. -/
theorem verdict_operatorConditions {whole : Value} {entries : List (Value × Value)}
    (h : Value.entriesAreJson entries = true) :
    Verdict (∀ entry ∈ entries, (Operator.ofKey? entry.1).isSome = true) (operatorConditions term whole entries) := by
  refine Verdict.mapM ?_
  rintro ⟨key, value⟩ hentry
  dsimp only
  cases hop : Operator.ofKey? key with
  | none => exact ⟨nofun, _, _, rfl⟩
  | some op =>
    obtain ⟨c, hc⟩ : ∃ c, operatorCondition term op value = .ok c := operatorCondition_ok op (isJson_of_mem h _ hentry)
    dsimp only
    rw [hc]
    rfl

/-- A comparison compiles if it compares with operators only. -/
theorem verdict_comparisonCondition (h : v.isJson = true) : Verdict (Compares v) (comparisonCondition term v) := by
  have hliteral : ∀ op, Verdict True (operatorCondition term op v) := by
    intro op
    obtain ⟨c, hc⟩ : ∃ c, operatorCondition term op v = .ok c := operatorCondition_ok op h
    rw [hc]
    trivial
  match v with
  | .map [] => exact List.forall_mem_nil _
  | .map (entry :: rest) => exact (verdict_operatorConditions h).map
  | .list items => exact hliteral .isIn
  | .scalar a => exact hliteral (.comparison .eq)
  | .tuple _ | .set _ => cases h

theorem isIdComparison_iff : isIdComparison v = true ↔ ComparesIds v := by
  cases v with
  | map entries => simp [isIdComparison, ComparesIds]
  | scalar | list | tuple | set => simp [isIdComparison, ComparesIds]

theorem Compares.of_ids (h : ComparesIds v) : Compares v := by
  cases v with
  | map entries => exact h.2
  | scalar | list | tuple | set => trivial

theorem Name.make_ok {text : String} (h : isName text.toList = true) : ∃ n, Name.make? text = .ok n := by
  have hne : text ≠ "" := by
    rintro rfl
    cases h
  exact ⟨.plain text h, by rw [make?, ofText?, if_neg hne, dif_pos h]⟩

theorem decides_columnTerm {row : Alias} {name : String} (h : isName name.toList = true) :
    Decides True (columnTerm row (.word name)) := (Decides.of_ok (Name.make_ok h)).ending fun _ => .pure _

theorem decides_freshAlias : Decides True freshAlias := fun _ => trivial

/-- A comparison of ids compiles in any case. -/
theorem decides_comparison (h : v.isJson = true) (hids : ComparesIds v) :
    Decides True (liftM (comparisonCondition term v) : Compile Condition) :=
  (Decides.lift (verdict_comparisonCondition h)).congr (iff_true_intro (Compares.of_ids hids))

theorem decides_ids {α : Type} {P : Prop} {comparing nesting : Compile α} (hids : ComparesIds v → Decides True comparing)
    (hn : Decides P nesting) : Decides (ComparesIds v ∨ P) (if isIdComparison v = true then comparing else nesting) := by
  by_cases h : isIdComparison v = true
  · rw [if_pos h]
    exact (hids (isIdComparison_iff.mp h)).congr (iff_of_true trivial (.inl (isIdComparison_iff.mp h)))
  · rw [if_neg h]
    exact hn.congr (or_iff_right (mt isIdComparison_iff.mpr h)).symm

section Links

variable {P : Prop} {target : Entity} {nested : Alias → Compile Condition} (h : v.isJson = true)
  (hn : ∀ sub, Decides P (nested sub))
include h hn

theorem decides_keyCondition (hmake : Decides True (liftM (Name.make? target.name) : Compile Name)) (term : Term) :
    Decides (ComparesIds v ∨ P) (keyCondition target term v nested) := by
  unfold keyCondition
  refine decides_ids (decides_comparison h) ?_
  exact decides_freshAlias.after fun sub _ _ _ => (hn sub).ending fun _ => hmake.ending fun _ => .pure _

theorem decides_targetCondition (sub : Alias) (back : Name) :
    Decides (ComparesIds v ∨ P) (targetCondition sub back v nested) := by
  unfold targetCondition
  split
  · obtain rfl := Value.isNull_eq_true.mp ‹_›
    exact (Decides.pure _).congr (iff_of_true trivial (.inl trivial))
  · exact decides_ids (decides_comparison h) (hn sub)

/-- A key on a relation is decided by its value as a comparison of ids or as a filter on the related rows. -/
theorem decides_relationCondition {row : Alias} {link : Link} (htarget : isName target.name.toList = true)
    (hlink : ∀ name ∈ link.identifiers, isName name.toList = true) :
    Decides (ComparesIds v ∨ P) (relationCondition target row link v nested) := by
  have hmake : Decides True (liftM (Name.make? target.name) : Compile Name) := .of_ok (Name.make_ok htarget)
  cases link with
  | manyToOne key | oneToOne key =>
    rw [relationCondition_held target row key (by simp)]
    exact (decides_columnTerm (hlink key List.mem_cons_self)).after fun term _ _ _ => decides_keyCondition h hn hmake term
  | manyToMany table sourceKey targetKey =>
    obtain ⟨htable, hsource, hkey, _⟩ : isName table.toList = true ∧ isName sourceKey.toList = true ∧
        isName targetKey.toList = true ∧ True := by simpa [Link.identifiers] using hlink
    have hjoin : Decides True (liftM (Name.make? table) : Compile Name) := .of_ok (Name.make_ok htable)
    rw [relationCondition_through]
    refine decides_freshAlias.after fun join _ _ _ => (Decides.of_ok (Name.make_ok hsource)).after fun source _ _ _ => ?_
    refine (decides_columnTerm hkey).after fun term _ _ _ => (decides_keyCondition h hn hmake term).ending fun _ => ?_
    exact hjoin.ending fun _ => .pure _
  | oneToMany key | oneToOneInverse key =>
    rw [relationCondition_back target row key (by simp)]
    refine decides_freshAlias.after fun sub _ _ _ =>
      (Decides.of_ok (Name.make_ok (hlink key List.mem_cons_self))).after fun back _ _ _ => ?_
    exact (decides_targetCondition h hn sub back).ending fun _ => hmake.ending fun _ => .pure _

end Links

theorem decides_entityNamed (s : Schema) (name : String) :
    Decides (∃ e, s.entity? name = some e) (entityNamed s name) := by
  unfold entityNamed
  cases h : s.entity? name with
  | none => exact (Decides.refuse _ _).congr (iff_of_false id nofun)
  | some e => exact (Decides.pure e).congr (iff_of_true trivial ⟨e, rfl⟩)

section Keys

variable {e : Entity} (he : e.WellNamed) {name : String}

/-- The columns that a filter on an entity may name, the id among them. -/
theorem hasColumn_iff : e.hasColumn name = true ↔ name = "id" ∨ (e.column? name).isSome = true := by
  rw [Entity.hasColumn, Bool.or_eq_true, beq_iff_eq]

include he

/-- A name that begins like an operator is no name of the entity. -/
theorem unnamed_of_dollar (h : name.toList.head? = some '$') :
    e.relation? name = none ∧ ¬(name = "id" ∨ (e.column? name).isSome = true ∨ (e.formula? name).isSome = true) := by
  refine ⟨?_, ?_⟩
  · refine Option.eq_none_iff_forall_ne_some.mpr ?_
    intro r hr
    have hname : r.name = name := by simpa using List.find?_some hr
    exact (he.relations r (List.mem_of_find?_eq_some hr)).2 (hname ▸ h)
  · rintro (rfl | hcolumn | hformula)
    · cases h
    · obtain ⟨c, hc⟩ := Option.isSome_iff_exists.mp hcolumn
      have hname : c.name = name := by simpa using List.find?_some hc
      exact (he.columns c (List.mem_of_find?_eq_some hc)).2 (hname ▸ h)
    · obtain ⟨f, hf⟩ := Option.isSome_iff_exists.mp hformula
      have hname : f.name = name := by simpa using List.find?_some hf
      exact (he.formulas f (List.mem_of_find?_eq_some hf)).2 (hname ▸ h)

/-- What a key is that is no combinator. -/
theorem keyOf_name (whole : Value) (hnot : name ≠ "$not") (hand : name ≠ "$and") (hor : name ≠ "$or") :
    (∃ r ∈ e.relations, e.relation? name = some r ∧ Key.of e whole (.text name) = .ok (.relation r)) ∨
      e.relation? name = none ∧
        ((isName name.toList = true ∧ (name = "id" ∨ (e.column? name).isSome = true) ∧
            Key.of e whole (.text name) = .ok (.column (.word name))) ∨
          (∃ f ∈ e.formulas, e.formula? name = some f ∧ Key.of e whole (.text name) = .ok (.formula f)) ∨
          ¬(name = "id" ∨ (e.column? name).isSome = true ∨ (e.formula? name).isSome = true) ∧
            ∃ problem, Key.of e whole (.text name) = .error (.filter problem whole)) := by
  generalize hof : Key.of e whole (.text name) = outcome
  dsimp only [Key.of, Value.label?, Value.text, Label.text] at hof
  rw [if_neg hnot, if_neg hand, if_neg hor] at hof
  by_cases hdollar : name.toList.head? = some '$'
  · obtain ⟨hrelation, hnone⟩ := unnamed_of_dollar he hdollar
    rw [if_pos hdollar] at hof
    exact .inr ⟨hrelation, .inr (.inr ⟨hnone, _, hof.symm⟩)⟩
  · rw [if_neg hdollar] at hof
    -- Relations come first, then columns, then formulas.
    cases hr : e.relation? name with
    | some r =>
      rw [hr] at hof
      exact .inl ⟨r, List.mem_of_find?_eq_some hr, rfl, hof.symm⟩
    | none =>
      rw [hr] at hof
      refine .inr ⟨rfl, ?_⟩
      by_cases hcolumn : e.hasColumn name = true
      · rw [if_pos hcolumn] at hof
        refine .inl ⟨?_, hasColumn_iff.mp hcolumn, hof.symm⟩
        rcases hasColumn_iff.mp hcolumn with rfl | hdescribed
        · rfl
        · obtain ⟨c, hc⟩ := Option.isSome_iff_exists.mp hdescribed
          have hname : c.name = name := by simpa using List.find?_some hc
          exact hname ▸ (he.columns c (List.mem_of_find?_eq_some hc)).1
      · rw [if_neg hcolumn] at hof
        cases hf : e.formula? name with
        | some f =>
          rw [hf] at hof
          exact .inr (.inl ⟨f, List.mem_of_find?_eq_some hf, rfl, hof.symm⟩)
        | none =>
          rw [hf] at hof
          refine .inr (.inr ⟨?_, _, hof.symm⟩)
          rw [← or_assoc, ← hasColumn_iff]
          rintro (h | h)
          · exact hcolumn h
          · cases h

end Keys

namespace Condition

theorem decides_absent {problem : FilterProblem} {filter : Value} {present : Bool} : Decides (present = false)
    (if present then throw (.filter problem filter) else return .always : Compile Condition) := by
  cases present with
  | true => exact (Decides.refuse _ _).congr (iff_of_false id nofun)
  | false => exact (Decides.pure _).congr (iff_of_true trivial rfl)

mutual

/-- A filter compiles exactly if it is well-formed. -/
theorem decides_ofFilter {s : Schema} (hs : s.WellNamed) : (filter : Value) → filter.isJson = true →
    ∀ (entity : String) (row : Alias), Decides (WellFormed s entity filter) (ofFilter s entity row filter)
  | .map [] => by
    intro _ entity row
    rw [ofFilter, WellFormed]
    exact .pure _
  | .map (entry :: rest) => by
    intro hjson entity row
    rw [ofFilter, WellFormed]
    · refine ((decides_entityNamed s entity).bind ?_).congr (and_iff_right_of_imp fun ⟨e, he, _⟩ => ⟨e, he⟩)
      intro e _ _ hgives
      obtain ⟨he, _⟩ := entityNamed_gives.mp hgives
      have hentries := decides_ofEntries hs (entry :: rest) hjson e (List.mem_of_find?_eq_some he) row
      refine ((hentries _).ending fun _ => .pure _).congr ?_
      constructor
      · exact fun h => ⟨e, he, h⟩
      · rintro ⟨e', he', h⟩
        exact Option.some.inj (he.symm.trans he') ▸ h
    · nofun
  | .scalar _ | .list _ => by
    intro _ entity row
    rw [ofFilter.eq_def, WellFormed.eq_def]
    exact decides_absent
  | .tuple _ | .set _ => nofun

/-- The entries of a map compile if they are well-formed filters on the entity. -/
theorem decides_ofEntries {s : Schema} (hs : s.WellNamed) : (entries : List (Value × Value)) →
    Value.entriesAreJson entries = true → ∀ e ∈ s.entities, ∀ (row : Alias) (whole : Value),
      Decides (WellFormedEntries s e entries) (ofEntries s e row whole entries)
  | [] => by
    intro _ e _ row whole
    rw [ofEntries, WellFormedEntries]
    exact .pure _
  | (key, value) :: rest => by
    intro hjson e he row whole
    rw [Value.entriesAreJson, Bool.and_eq_true, Bool.and_eq_true] at hjson
    obtain ⟨⟨htext, hvalue⟩, hothers⟩ := hjson
    obtain ⟨name, rfl⟩ : ∃ name, key = .text name := by
      unfold Value.isText at htext
      split at htext
      · exact ⟨_, rfl⟩
      · cases htext
    -- Whatever comes of this entry, the others are decided by the recursion.
    have hrest : ∀ part : Condition, Decides (WellFormedEntries s e rest)
        (ofEntries s e row whole rest >>= fun parts => pure (part :: parts)) :=
      fun part => (decides_ofEntries hs rest hothers e he row whole).ending fun _ => .pure _
    have hentry : ∀ part : Condition, Decides (WellFormedEntries s e rest)
        (pure part >>= fun part => ofEntries s e row whole rest >>= fun parts => pure (part :: parts)) :=
      fun part => (Decides.pure part).after fun _ _ _ _ => hrest _
    rw [ofEntries, WellFormedEntries]
    dsimp only
    by_cases hnot : name = "$not"
    · subst hnot
      rw [if_pos rfl]
      exact .lift_bind rfl ((decides_ofFilter hs value hvalue e.name row).bind fun _ _ _ _ => hentry _)
    rw [if_neg hnot]
    by_cases hgroup : name = "$and" ∨ name = "$or"
    · rw [if_pos hgroup]
      obtain ⟨disjunctive, hkey⟩ : ∃ disjunctive, Key.of e whole (.text name) = .ok (.group disjunctive) := by
        rcases hgroup with rfl | rfl <;> exact ⟨_, rfl⟩
      refine .lift_bind hkey ?_
      have hlist := decides_ofList hs value hvalue e.name row
      cases value with
      | list items =>
        cases items with
        | nil => exact (hentry _).congr (and_iff_right trivial).symm
        | cons item items => exact (hlist _ rfl).bind fun _ _ _ _ => hentry _
      | tuple | set => cases hvalue
      -- No list: the combinator itself is refused.
      | scalar | map => exact (Decides.refuse _ _).bind fun _ _ _ _ => hrest _
    rw [if_neg hgroup]
    obtain ⟨hand, hor⟩ := not_or.mp hgroup
    -- A relation hides columns and formulas of its name, as it does when the key is told.
    obtain ⟨r, hr, hrelation, hkey⟩ | ⟨hrelation, hnamed⟩ := keyOf_name (hs e he) whole hnot hand hor
    · rw [hrelation]
      refine .lift_bind hkey ?_
      refine ((decides_entityNamed s r.target).bind fun target _ _ htarget => ?_).congr and_assoc.symm
      obtain ⟨htarget, _⟩ := entityNamed_gives.mp htarget
      have hname : target.name = r.target := Schema.name_of_entity? htarget
      have hmem := List.mem_of_find?_eq_some htarget
      have hnested : ∀ sub, Decides (WellFormed s r.target value) (ofFilter s target.name sub value) :=
        fun sub => hname ▸ decides_ofFilter hs value hvalue target.name sub
      exact (decides_relationCondition hvalue hnested (hs target hmem).name ((hs e he).relations r hr).1).bind
        fun _ _ _ _ => hrest _
    · rw [hrelation]
      have hcompares : ∀ term, Decides (Compares value ∧ WellFormedEntries s e rest)
          (liftM (comparisonCondition term value) >>= fun part =>
            ofEntries s e row whole rest >>= fun parts => pure (part :: parts)) :=
        fun term => (Decides.lift (verdict_comparisonCondition hvalue)).bind fun _ _ _ _ => hrest _
      obtain ⟨hwritten, hcolumn, hkey⟩ | ⟨f, hf, hformula, hkey⟩ | ⟨hnone, problem, hkey⟩ := hnamed
      · refine .lift_bind hkey (((decides_columnTerm hwritten).after fun term _ _ _ => hcompares term).congr ?_)
        exact and_congr_left' (and_iff_right (hcolumn.imp_right .inl)).symm
      · have hsome : (e.formula? name).isSome = true := Option.isSome_iff_exists.mpr ⟨f, hformula⟩
        refine .lift_bind hkey (((Decides.of_ok ?_).after fun term _ _ _ => hcompares term).congr ?_)
        · obtain ⟨text, htext⟩ := Formula.render_ok ((hs e he).formulas f hf).1 row.text
          exact ⟨.formula f row text, by rw [Term.ofFormula, htext]; rfl⟩
        · exact and_congr_left' (and_iff_right (.inr (.inr hsome))).symm
      · exact (Decides.refuse_bind hkey).congr (iff_of_false id fun h => hnone h.1.1)

/-- The members of a group compile if all of them are well-formed filters on the entity. -/
theorem decides_ofMembers {s : Schema} (hs : s.WellNamed) : (filters : List Value) → Value.areJson filters = true →
    ∀ (entity : String) (row : Alias), Decides (WellFormedMembers s entity filters) (ofMembers s entity row filters)
  | [] => by
    intro _ entity row
    rw [ofMembers, WellFormedMembers]
    exact .pure _
  | filter :: rest => by
    intro hjson entity row
    rw [Value.areJson, Bool.and_eq_true] at hjson
    rw [ofMembers, WellFormedMembers]
    exact (decides_ofFilter hs filter hjson.1 entity row).bind fun _ _ _ _ =>
      (decides_ofMembers hs rest hjson.2 entity row).ending fun _ => .pure _

theorem decides_ofList {s : Schema} (hs : s.WellNamed) : (value : Value) → value.isJson = true →
    ∀ (entity : String) (row : Alias) (items : List Value), value = .list items →
      Decides (WellFormedMembers s entity items) (ofMembers s entity row items)
  | .list own => by
    intro hjson entity row items he
    exact Value.list.inj he ▸ decides_ofMembers hs own hjson entity row
  | .scalar _ | .tuple _ | .set _ | .map _ => nofun

end

/-- In a schema of good names a filter compiles if and only if it is well-formed, and every other one is refused as a
filter. -/
theorem ofFilter_accepts_iff {s : Schema} (hs : s.WellNamed) {filter : Value} (hjson : filter.isJson = true)
    (entity : String) (row : Alias) (n : Nat) :
    ((∃ c n', Gives (ofFilter s entity row filter) n c n') ↔ WellFormed s entity filter) ∧
      (¬ WellFormed s entity filter → ∃ problem whole n',
        (ofFilter s entity row filter).run.run n = (.error (.filter problem whole), n')) := by
  have hdecides := decides_ofFilter hs filter hjson entity row
  exact ⟨hdecides.gives_iff n, fun h => hdecides.refused h n⟩

/-- No formula of the learning schema has a placeholder besides its row. -/
theorem aliasOnly_learning :
    ∀ e ∈ Learning.schema.entities, ∀ f ∈ e.formulas, Template.aliasOnly f.sql.toList = true := by
  apply Learning.forall_formulas
  simp only [Learning.language, Learning.user, Learning.collection, Learning.text, Learning.vocab, Learning.meaning,
    Learning.counting, List.forall_mem_append, List.forall_mem_cons, String.toList_append]
  -- The texts are read as lists of characters, which are quick to go through.
  repeat rw [String.toList_ofList]
  decide +kernel

/-- The descriptions of the learning schema have good names. -/
theorem wellNamed_learning : Learning.schema.WellNamed := by
  have hnames : ∀ e ∈ Learning.schema.entities, isName e.name.toList = true := by decide +kernel
  have hcolumns : ∀ e ∈ Learning.schema.entities, ∀ c ∈ e.columns,
      isName c.name.toList = true ∧ c.name.toList.head? ≠ some '$' := by decide +kernel
  have hrelations : ∀ e ∈ Learning.schema.entities, ∀ r ∈ e.relations,
      (∀ name ∈ r.link.identifiers, isName name.toList = true) ∧ r.name.toList.head? ≠ some '$' := by decide +kernel
  have hformulas : ∀ e ∈ Learning.schema.entities, ∀ f ∈ e.formulas, f.name.toList.head? ≠ some '$' := by decide +kernel
  intro e he
  exact ⟨hnames e he, hcolumns e he, hrelations e he, fun f hf => ⟨aliasOnly_learning e he f hf, hformulas e he f hf⟩⟩

def readInPrivate : Value := .map [
  (.text "$not", single (.text "collection") (single (.text "isPublic") (.bool true))),
  (.text "pastViewersCount", single (.text "$gt") (.int 3))]

def mixedKeys : Value := single (.text "collection") (.map [(.text "$eq", .int 1), (.text "isPublic", .bool true)])

/-- The former filter is accepted; the latter is refused, since it is neither a comparison nor a filter on collections. -/
theorem ofFilter_accepts_readInPrivate :
    (∃ c n', Gives (ofFilter Learning.schema "Text" (.row "t0") readInPrivate) 1 c n') ∧
      ∃ problem whole n', (ofFilter Learning.schema "Text" (.row "t0") mixedKeys).run.run 1 =
        (.error (.filter problem whole), n') := by
  have htext : Learning.schema.entity? "Text" = some Learning.text := rfl
  have hcollection : Learning.schema.entity? "Collection" = some Learning.collection := rfl
  constructor
  · refine (ofFilter_accepts_iff wellNamed_learning rfl "Text" (.row "t0") 1).1.mpr ?_
    have hnested : WellFormed Learning.schema "Collection" (single (.text "isPublic") (.bool true)) :=
      ⟨Learning.collection, hcollection, ⟨.inr (.inl rfl), trivial⟩, trivial⟩
    have hnot : WellFormed Learning.schema "Text" (single (.text "collection") (single (.text "isPublic") (.bool true))) :=
      ⟨Learning.text, htext, ⟨⟨_, hcollection⟩, .inr hnested⟩, trivial⟩
    exact ⟨Learning.text, htext, hnot, ⟨.inr (.inr rfl), List.forall_mem_singleton.mpr rfl⟩, trivial⟩
  · refine (ofFilter_accepts_iff wellNamed_learning rfl "Text" (.row "t0") 1).2 ?_
    rintro ⟨e, he, h, _⟩
    obtain rfl := Option.some.inj (htext.symm.trans he)
    obtain ⟨_, ⟨_, hoperators⟩ | ⟨e, he, h, _⟩⟩ := h
    · have hcolumn : (Operator.ofKey? (.text "isPublic")).isSome = true :=
        hoperators (_, _) (List.mem_cons_of_mem _ List.mem_cons_self)
      cases hcolumn
    · obtain rfl := Option.some.inj (hcollection.symm.trans he)
      obtain ⟨hid | hcolumn | hformula, _⟩ := h
      · exact absurd hid (by decide)
      · cases hcolumn
      · cases hformula

end Condition

end Sql

end EntityViews
