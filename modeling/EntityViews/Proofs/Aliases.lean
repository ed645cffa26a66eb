import EntityViews.Proofs.Numbering
import Mathlib.Data.List.Nodup

/-!
The rows of sub-selects in filters that are compiled one after the other, those that fail included. Main statement: no two
sub-selects share a row, every mention of the row of a sub-select lies within it, and each filter compiles as if it were the
first, but for higher numbers.
-/

namespace EntityViews

open Sql

namespace Sql

/-! Texts with higher numbers. -/

def written (k : Nat) (parts : List (String ⊕ Nat)) : String :=
  String.join (parts.map (Sum.elim id fun n => (Alias.sub (n + k)).text))

/-- Whether a text is another one with the numbers of rows of sub-selects higher by `k`. -/
def Renumbered (k : Nat) (s t : String) : Prop := ∃ parts, s = written 0 parts ∧ t = written k parts

namespace Renumbered

variable {k : Nat} {s t s' t' : String}

theorem written_append (k : Nat) (as bs : List (String ⊕ Nat)) : written k (as ++ bs) = written k as ++ written k bs := by
  rw [written, written, written, List.map_append, String.join_append]

theorem fixed (s : String) : Renumbered k s s := ⟨[.inl s], by simp [written], by simp [written]⟩

theorem append (h : Renumbered k s t) (h' : Renumbered k s' t') : Renumbered k (s ++ s') (t ++ t') := by
  obtain ⟨parts, rfl, rfl⟩ := h
  obtain ⟨parts', rfl, rfl⟩ := h'
  exact ⟨parts ++ parts', (written_append 0 _ _).symm, (written_append k _ _).symm⟩

/-- Texts with numbers raised, put side by side, are the texts put side by side with numbers raised. -/
theorem intercalate (sep : String) {ss ts : List String} (h : List.Forall₂ (Renumbered k) ss ts) :
    Renumbered k (sep.intercalate ss) (sep.intercalate ts) := by
  induction h with
  | nil => exact fixed _
  | cons h hrest ih =>
    cases hrest with
    | nil => rwa [String.intercalate_singleton, String.intercalate_singleton]
    | cons h' hrest =>
      rw [String.intercalate_cons_cons, String.intercalate_cons_cons]
      exact (h.append (fixed sep)).append ih

theorem row (k : Nat) (row : Alias) : Renumbered k (row.raised 0).text (row.raised k).text := by
  cases row with
  | row name => exact fixed name
  | sub n => exact ⟨[.inr n], by simp [written, Alias.raised], by simp [written, Alias.raised]⟩

/-- A template filled with a raised row is the filled template with the row raised. -/
theorem fill (k : Nat) (row : Alias) (cs : List Char) :
    Renumbered k (String.ofList (Template.fill (row.raised 0).text.toList cs))
      (String.ofList (Template.fill (row.raised k).text.toList cs)) := by
  have hcons : ∀ (c : Char) (a b : List Char), Renumbered k (String.ofList a) (String.ofList b) →
      Renumbered k (String.ofList (c :: a)) (String.ofList (c :: b)) := by
    intro c a b h
    have hsplit : ∀ l : List Char, String.ofList (c :: l) = String.ofList [c] ++ String.ofList l := fun l => by
      rw [← String.ofList_append, List.singleton_append]
    rw [hsplit a, hsplit b]
    exact (fixed _).append h
  fun_induction Template.fill (row.raised k).text.toList cs with
  | case1 => exact fixed _
  | case2 rest ih | case3 rest ih => exact hcons _ _ _ ih
  | case4 rest ih =>
    rw [Template.fill, String.ofList_append, String.ofList_append, String.ofList_toList, String.ofList_toList]
    exact (Renumbered.row k row).append ih
  | case5 c rest hopen hclose halias ih =>
    rw [Template.fill]
    · exact hcons _ _ _ ih
    · exact hopen
    · exact hclose
    · exact halias

theorem term (k : Nat) (t : Term) : Renumbered k (t.raised 0).text (t.raised k).text := by
  cases t with
  | column row name => exact ((Renumbered.row k row).append (fixed _)).append (fixed _)
  | formula f row text => exact fill k row f.sql.toList

end Renumbered

namespace Condition

variable (k : Nat)

mutual

/-- The texts of one condition with higher numbers differ in these numbers only. -/
theorem renumbered_text : (c : Condition) → Renumbered k (c.raised 0).text (c.raised k).text
  | always | never => .fixed _
  | compare comparison term operand => by
    rw [raised, raised, text, text]
    have hterm := Renumbered.term k term
    cases comparison with
    | ilike => exact ((Renumbered.fixed _).append hterm).append (.fixed _)
    | _ => exact hterm.append (.fixed _)
  | isNull negated term => by
    rw [raised, raised, text, text]
    exact (Renumbered.term k term).append (.fixed _)
  | among negated term operands => by
    rw [raised, raised, text, text]
    exact (((Renumbered.term k term).append (.fixed _)).append (.fixed _)).append (.fixed _)
  | all parts => by
    rw [raised, raised, text, text]
    exact ((Renumbered.fixed _).append (.intercalate _ (renumbered_texts parts))).append (.fixed _)
  | any parts => by
    rw [raised, raised, text, text]
    exact ((Renumbered.fixed _).append (.intercalate _ (renumbered_texts parts))).append (.fixed _)
  | not part => by
    rw [raised, raised, text, text]
    exact ((Renumbered.fixed _).append (renumbered_text part)).append (.fixed _)
  | within negated term column table row condition => by
    rw [raised, raised, text, text]
    -- The row of the sub-select stands twice, in front of its column and behind its table.
    have hcolumn := Renumbered.term k (.column row column)
    have hselect := ((Renumbered.term k term).append (.fixed (if negated then " NOT IN (SELECT " else " IN (SELECT "))).append
      hcolumn
    have hfrom := ((hselect.append (.fixed " FROM ")).append (.fixed table.quoted)).append (.fixed " AS ")
    exact (((hfrom.append (.row k row)).append (.fixed " WHERE ")).append (renumbered_text condition)).append (.fixed ")")

theorem renumbered_texts : (parts : List Condition) →
    List.Forall₂ (Renumbered k) (texts (raisedAll 0 parts)) (texts (raisedAll k parts))
  | [] => .nil
  | part :: rest => .cons (renumbered_text part) (renumbered_texts rest)

/-- Raising numbers leaves the operands alone. -/
theorem params_raised : (c : Condition) → (c.raised k).params = c.params
  | always | never | isNull _ _ | compare _ _ _ | among _ _ _ => rfl
  | all parts | any parts => by
    rw [raised, params, params]
    exact paramsOf_raised parts
  | not part => by
    rw [raised, params, params]
    exact params_raised part
  | within _ _ _ _ _ condition => by
    rw [raised, params, params]
    exact params_raised condition

theorem paramsOf_raised : (parts : List Condition) → paramsOf (raisedAll k parts) = paramsOf parts
  | [] => rfl
  | part :: rest => by rw [raisedAll, paramsOf, paramsOf, params_raised part, paramsOf_raised rest]

end

/-! Rows that a condition introduces, and rows that it mentions. -/

mutual

/-- The rows of the sub-selects in a condition, in the order of its text. -/
def introduced : Condition → List Alias
  | always | never | compare _ _ _ | isNull _ _ | among _ _ _ => []
  | all parts | any parts => introducedBy parts
  | not part => part.introduced
  | within _ _ _ _ row condition => row :: condition.introduced

def introducedBy : List Condition → List Alias
  | [] => []
  | part :: rest => part.introduced ++ introducedBy rest

end

end Condition

def Term.Refers (name : String) : Term → Prop
  | column row _ => name = row.text
  | formula _ row text => name = row.text ∨ ∃ n, Mentions text n ∧ name = (Alias.sub n).text

namespace Condition

mutual

/-- Whether a condition mentions a row outside all sub-selects that introduce it. -/
def Free (name : String) : Condition → Prop
  | always | never => False
  | compare _ term _ | isNull _ term | among _ term _ => term.Refers name
  | all parts | any parts => FreeIn name parts
  | not part => part.Free name
  | within _ term _ _ row condition => term.Refers name ∨ condition.Free name ∧ name ≠ row.text

def FreeIn (name : String) : List Condition → Prop
  | [] => False
  | part :: rest => part.Free name ∨ FreeIn name rest

end

end Condition

def Spans (n n' : Nat) (rows : List Alias) : Prop := ∃ l, n' = n + l ∧ rows = (List.range' n l).map .sub

namespace Spans

variable {n m n' : Nat} {rows rows' : List Alias}

theorem nil (n : Nat) : Spans n n [] := ⟨0, rfl, rfl⟩

theorem cons (h : Spans (n + 1) n' rows) : Spans n n' (.sub n :: rows) := by
  obtain ⟨l, rfl, rfl⟩ := h
  exact ⟨l + 1, by omega, rfl⟩

theorem append (h : Spans n m rows) (h' : Spans m n' rows') : Spans n n' (rows ++ rows') := by
  obtain ⟨l, rfl, rfl⟩ := h
  obtain ⟨l', rfl, rfl⟩ := h'
  exact ⟨l + l', by omega, by rw [← List.map_append, List.range'_append_1]⟩

end Spans

/-- Whether a condition mentions one row outside its sub-selects, and introduces the rows of the numbers that were taken. -/
structure Condition.Scoped (row : Alias) (n n' : Nat) (c : Condition) : Prop where
  introduced : Spans n n' c.introduced
  free : ∀ name, c.Free name → name = row.text

structure Condition.AllScoped (row : Alias) (n n' : Nat) (cs : List Condition) : Prop where
  introduced : Spans n n' (introducedBy cs)
  free : ∀ name, FreeIn name cs → name = row.text

def Alias.MentionsItself (row : Alias) : Prop := ∀ n, Mentions row.text n → (Alias.sub n).text = row.text

theorem Alias.mentionsItself_sub (n : Nat) : (Alias.sub n).MentionsItself := by
  intro m h
  rw [eq_of_mentions_sub h]

def Term.On (row : Alias) (t : Term) : Prop := ∀ name, t.Refers name → name = row.text

namespace Condition

theorem AllScoped.nil (row : Alias) (n : Nat) : AllScoped row n n [] := ⟨.nil n, nofun⟩

theorem AllScoped.cons {row : Alias} {n m n' : Nat} {c : Condition} {cs : List Condition} (h : c.Scoped row n m)
    (hrest : AllScoped row m n' cs) : AllScoped row n n' (c :: cs) := by
  refine ⟨h.introduced.append hrest.introduced, ?_⟩
  rintro name (hname | hname)
  · exact h.free name hname
  · exact hrest.free name hname

theorem AllScoped.all {row : Alias} {n n' : Nat} {cs : List Condition} (h : AllScoped row n n' cs) :
    (Condition.all cs).Scoped row n n' := ⟨h.introduced, h.free⟩

theorem AllScoped.any {row : Alias} {n n' : Nat} {cs : List Condition} (h : AllScoped row n n' cs) :
    (Condition.any cs).Scoped row n n' := ⟨h.introduced, h.free⟩

/-- A conjunction is scoped as its parts are. -/
theorem AllScoped.conjunction {row : Alias} {n n' : Nat} {cs : List Condition} (h : AllScoped row n n' cs) :
    (Condition.conjunction cs).Scoped row n n' := by
  unfold Condition.conjunction
  split
  · obtain ⟨hintroduced, hfree⟩ := h
    rw [introducedBy, introducedBy, List.append_nil] at hintroduced
    exact ⟨hintroduced, fun name hname => hfree name (.inl hname)⟩
  · exact h.all

theorem Scoped.not {row : Alias} {n n' : Nat} {c : Condition} (h : c.Scoped row n n') :
    (Condition.not c).Scoped row n n' := ⟨h.introduced, h.free⟩

theorem scoped_always (row : Alias) (n : Nat) : Scoped row n n .always := ⟨.nil n, nofun⟩

theorem scoped_never (row : Alias) (n : Nat) : Scoped row n n .never := ⟨.nil n, nofun⟩

/-- A group of conditions; an empty one is a condition of its own. -/
theorem AllScoped.group {row : Alias} {n n' : Nat} {cs : List Condition} (h : AllScoped row n n' cs) {empty : Bool}
    (hempty : empty = true → n' = n) (disjunctive : Bool) :
    (if empty then (if disjunctive then Condition.never else .always)
      else if disjunctive then .any cs else .all cs).Scoped row n n' := by
  cases empty with
  | true =>
    rw [hempty rfl]
    cases disjunctive with
    | false => exact scoped_always row n
    | true => exact scoped_never row n
  | false =>
    cases disjunctive with
    | false => exact h.all
    | true => exact h.any

/-- What is said of the row of a sub-select stays within it. -/
theorem Scoped.within {n n' : Nat} {c : Condition} (h : c.Scoped (.sub n) (n + 1) n') {row : Alias} {t : Term}
    (ht : t.On row) (negated : Bool) (column table : Name) :
    (Condition.within negated t column table (.sub n) c).Scoped row n n' := by
  refine ⟨h.introduced.cons, ?_⟩
  rintro name (hname | ⟨hname, hother⟩)
  · exact ht name hname
  · exact absurd (h.free name hname) hother

end Condition

open Condition

theorem Term.on_column (row : Alias) (name : Name) : (Term.column row name).On row := fun _ h => h

theorem on_columnTerm {row : Alias} {name : Label} {t : Term} {n n' : Nat} (h : Gives (columnTerm row name) n t n') :
    t.On row ∧ n' = n := by
  simp only [columnTerm, Gives.bind_iff, Gives.lift_iff, Gives.pure_iff] at h
  obtain ⟨c, _, ⟨_, rfl⟩, rfl, rfl⟩ := h
  exact ⟨Term.on_column row c, rfl⟩

theorem on_ofFormula {f : Formula} (hf : f.Inserts) {row : Alias} (hrow : row.MentionsItself) {t : Term}
    (h : Term.ofFormula f row = .ok t) : t.On row := by
  obtain ⟨text, htext, rfl⟩ := Except.map_ok h
  rintro name (rfl | ⟨n, hn, rfl⟩)
  · rfl
  · exact hrow n (hf.2 row.text text n htext hn)

section Steps

variable {row : Alias} {t : Term} (ht : t.On row) {v : Value} {c : Condition} (n : Nat)

include ht

theorem scoped_operatorCondition {op : Operator} (h : operatorCondition t op v = .ok c) : c.Scoped row n n := by
  obtain ⟨p, _, hmakes⟩ := operatorCondition_makes h
  cases hmakes with
  | isNull | notNull | compare | among | notAmong => exact ⟨.nil n, ht⟩
  | amongNone => exact scoped_never row n
  | notAmongNone => exact scoped_always row n

/-- Operators take no numbers and mention the row of their term only. -/
theorem scoped_operatorConditions {whole : Value} {entries : List (Value × Value)} {cs : List Condition}
    (h : operatorConditions t whole entries = .ok cs) : AllScoped row n n cs := by
  induction entries generalizing cs with
  | nil =>
    cases h
    exact .nil row n
  | cons e rest ih =>
    obtain ⟨key, v⟩ := e
    obtain ⟨c, cs', hc, hcs, rfl⟩ := Except.mapM_cons_ok h
    simp only at hc
    split at hc
    · exact .cons (scoped_operatorCondition ht n hc) (ih hcs)
    · cases hc

/-- A comparison takes no numbers and mentions the row of its term only. -/
theorem scoped_comparisonCondition (h : comparisonCondition t v = .ok c) : c.Scoped row n n := by
  unfold comparisonCondition at h
  split at h
  · cases h
    exact scoped_always row n
  · obtain ⟨cs, hcs, rfl⟩ := Except.map_ok h
    exact (scoped_operatorConditions ht n hcs).conjunction
  · exact scoped_operatorCondition ht n h
  · exact scoped_operatorCondition ht n h
  · exact scoped_operatorCondition ht n h
  · exact scoped_operatorCondition ht n h

end Steps

section Relation

variable {target : Entity} {row : Alias} {v : Value} {nested : Alias → Compile Condition}
  (hn : ∀ i m d m', Gives (nested (.sub i)) m d m' → d.Scoped (.sub i) m m') {c : Condition} {n n' : Nat}

include hn

/-- What is said of a key mentions the row that holds it, and takes one number for the related row if it needs one. -/
theorem scoped_keyCondition {t : Term} (ht : t.On row) (h : Gives (keyCondition target t v nested) n c n') :
    c.Scoped row n n' := by
  unfold keyCondition at h
  split at h
  · obtain ⟨hc, rfl⟩ := Gives.lift_iff.mp h
    exact scoped_comparisonCondition ht _ hc
  · simp only [Gives.bind_iff, Gives.lift_iff, Gives.pure_iff, freshAlias_gives_iff] at h
    obtain ⟨_, _, ⟨rfl, rfl⟩, d, _, hd, table, _, ⟨_, rfl⟩, rfl, rfl⟩ := h
    exact (hn _ _ d _ hd).within ht false .id table

/-- What is said of a related row mentions this row only. -/
theorem scoped_targetCondition {back : Name} {i : Nat} (h : Gives (targetCondition (.sub i) back v nested) n c n') :
    c.Scoped (.sub i) n n' := by
  unfold targetCondition at h
  split at h
  · obtain ⟨rfl, rfl⟩ := Gives.pure_iff.mp h
    exact ⟨.nil _, Term.on_column _ back⟩
  split at h
  · obtain ⟨hc, rfl⟩ := Gives.lift_iff.mp h
    exact scoped_comparisonCondition (Term.on_column _ .id) _ hc
  · exact hn _ _ c _ h

/-- A relation mentions the filtered row outside its sub-selects and takes the numbers of the rows in them. -/
theorem scoped_relationCondition {link : Link} (h : Gives (relationCondition target row link v nested) n c n') :
    c.Scoped row n n' := by
  have hid := Term.on_column row .id
  cases link with
  | manyToOne key | oneToOne key =>
    rw [relationCondition_held target row key (by simp)] at h
    obtain ⟨t, _, ht, hkey⟩ := Gives.bind_iff.mp h
    obtain ⟨hterm, rfl⟩ := on_columnTerm ht
    exact scoped_keyCondition hn hterm hkey
  | manyToMany table sourceKey targetKey =>
    rw [relationCondition_through] at h
    simp only [Gives.bind_iff, Gives.lift_iff, Gives.pure_iff, freshAlias_gives_iff] at h
    obtain ⟨_, _, ⟨rfl, rfl⟩, source, _, ⟨_, rfl⟩, t, _, ht, d, _, hd, name, _, ⟨_, rfl⟩, rfl, rfl⟩ := h
    obtain ⟨hterm, rfl⟩ := on_columnTerm ht
    exact (scoped_keyCondition hn hterm hd).within hid false source name
  | oneToMany key | oneToOneInverse key =>
    rw [relationCondition_back target row key (by simp)] at h
    simp only [Gives.bind_iff, Gives.lift_iff, Gives.pure_iff, freshAlias_gives_iff] at h
    obtain ⟨_, _, ⟨rfl, rfl⟩, back, _, ⟨_, rfl⟩, d, _, hd, name, _, ⟨_, rfl⟩, rfl, rfl⟩ := h
    exact (scoped_targetCondition hn hd).within hid v.isNull back name

end Relation

namespace Condition

open EntityViews.Filter

theorem scoped_absent {refused : Bool} {fault : Fault} {row : Alias} {c : Condition} {n n' : Nat}
    (h : Gives (if refused then throw fault else return .always : Compile Condition) n c n') : c.Scoped row n n' := by
  cases refused with
  | true => exact (Gives.throw_iff.mp h).elim
  | false =>
    obtain ⟨rfl, rfl⟩ := Gives.pure_iff.mp h
    exact scoped_always row _

variable {s : Schema}

mutual

/-- An accepted filter introduces the rows of the numbers that it took, and mentions but one outside of its sub-selects. -/
theorem scoped_ofFilter (hs : s.Inserts) : (filter : Value) → ∀ (entity : String) (row : Alias) (c : Condition) (n n' : Nat),
    row.MentionsItself → Gives (ofFilter s entity row filter) n c n' → c.Scoped row n n'
  | .map [] => by
    intro entity row c n n' hrow h
    rw [ofFilter] at h
    obtain ⟨rfl, rfl⟩ := Gives.pure_iff.mp h
    exact scoped_always row _
  | .map (entry :: rest) => by
    intro entity row c n n' hrow h
    obtain ⟨e, cs, he, hcs, rfl⟩ := ofFilter_map_gives h
    exact (scoped_ofEntries hs (entry :: rest) e row _ cs _ _ (List.mem_of_find?_eq_some he) hrow hcs).conjunction
  | .scalar _ | .list _ | .tuple _ | .set _ => by
    intro entity row c n n' hrow h
    rw [ofFilter.eq_def] at h
    exact scoped_absent h

/-- The entries of a map are scoped, one after the other. -/
theorem scoped_ofEntries (hs : s.Inserts) : (entries : List (Value × Value)) → ∀ (e : Entity) (row : Alias) (whole : Value)
    (cs : List Condition) (n n' : Nat), e ∈ s.entities → row.MentionsItself →
    Gives (ofEntries s e row whole entries) n cs n' → AllScoped row n n' cs
  | [] => by
    intro e row whole cs n n' he hrow h
    rw [ofEntries] at h
    obtain ⟨rfl, rfl⟩ := Gives.pure_iff.mp h
    exact .nil row _
  | (key, value) :: rest => by
    intro e row whole cs n n' he hrow h
    obtain ⟨k, part, m, parts, hk, hpart, hparts, rfl⟩ := ofEntries_cons_gives h
    refine AllScoped.cons ?_ (scoped_ofEntries hs rest e row whole parts _ _ he hrow hparts)
    cases k with
    | negation =>
      obtain ⟨d, hd, rfl⟩ := hpart
      exact (scoped_ofFilter hs value _ row d _ _ hrow hd).not
    | group disjunctive =>
      obtain ⟨items, ds, hv, hds, rfl⟩ := hpart
      refine (scoped_ofGroup hs value items hv e.name row ds _ _ hrow hds).group ?_ disjunctive
      intro hempty
      rw [List.isEmpty_iff.mp hempty, ofMembers] at hds
      exact (Gives.pure_iff.mp hds).2
    | relation r =>
      obtain ⟨target, _, hc⟩ := hpart
      exact scoped_relationCondition
        (fun i m d m' hd => scoped_ofFilter hs value _ (.sub i) d m m' (Alias.mentionsItself_sub i) hd) hc
    | column name =>
      obtain ⟨t, _, ht, hc, rfl⟩ := hpart
      obtain ⟨hterm, rfl⟩ := on_columnTerm ht
      exact scoped_comparisonCondition hterm _ hc
    | formula f =>
      obtain ⟨t, ht, hc, rfl⟩ := hpart
      have hf : f.Inserts := hs e he f (mem_formulas_of_key hk)
      exact scoped_comparisonCondition (on_ofFormula hf hrow ht) _ hc

/-- The members of a group are scoped, one after the other. -/
theorem scoped_ofMembers (hs : s.Inserts) : (filters : List Value) → ∀ (entity : String) (row : Alias) (cs : List Condition)
    (n n' : Nat), row.MentionsItself → Gives (ofMembers s entity row filters) n cs n' → AllScoped row n n' cs
  | [] => by
    intro entity row cs n n' hrow h
    rw [ofMembers] at h
    obtain ⟨rfl, rfl⟩ := Gives.pure_iff.mp h
    exact .nil row _
  | filter :: rest => by
    intro entity row cs n n' hrow h
    obtain ⟨part, m, parts, hpart, hparts, rfl⟩ := ofMembers_cons_gives h
    exact .cons (scoped_ofFilter hs filter entity row part _ _ hrow hpart)
      (scoped_ofMembers hs rest entity row parts _ _ hrow hparts)

theorem scoped_ofGroup (hs : s.Inserts) : (value : Value) → ∀ items, value = .list items ∨ value = .tuple items →
    ∀ (entity : String) (row : Alias) (cs : List Condition) (n n' : Nat), row.MentionsItself →
    Gives (ofMembers s entity row items) n cs n' → AllScoped row n n' cs
  | .list own | .tuple own => by
    intro items hv entity row cs n n' hrow h
    have hi : items = own := by
      rcases hv with hv | hv <;> cases hv
      rfl
    subst hi
    exact scoped_ofMembers hs items entity row cs n n' hrow h
  | .map _ | .set _ | .scalar _ => by
    intro items hv
    rcases hv with hv | hv <;> cases hv

end

end Condition

/-! Filters that are compiled one after the other. -/

structure Call where
  entity : String
  row : String
  filter : Value

namespace Call

def run (s : Schema) (call : Call) : StateM Nat (Except Fault Condition) :=
  (Condition.ofFilter s call.entity (.row call.row) call.filter).run

def first (s : Schema) (call : Call) : Except Fault Condition := (call.run s 1).1

end Call

def compileAll (s : Schema) (calls : List Call) : StateM Nat (List (Except Fault Condition)) := calls.mapM (Call.run s)

def introducedIn (results : List (Except Fault Condition)) : List Alias := results.flatMap fun result =>
  match result with
  | .ok c => c.introduced
  | .error _ => []

/-- Whether two ways to compile end alike, but for higher numbers in the second one. -/
inductive SameButNumbers (k : Nat) : Except Fault Condition → Except Fault Condition → Prop
  | error (e : Fault) : SameButNumbers k (.error e) (.error e)
  | ok {c d : Condition} (condition : d = c.raised k) (params : d.params = c.params) (text : Renumbered k c.text d.text) :
    SameButNumbers k (.ok c) (.ok d)

section Sequence

variable {s : Schema} (hs : s.Inserts)

include hs

theorem Call.run_raised (call : Call) (n k : Nat) :
    call.run s (n + k) = ((call.run s n).1.map (Condition.raised k), (call.run s n).2 + k) :=
  Condition.raises_ofFilter k hs call.filter call.entity (.row call.row) n

/-- The counter never goes back, not even when compiling fails. -/
theorem Call.le_run (call : Call) (n : Nat) : n ≤ (call.run s n).2 := by
  have hraised := call.run_raised hs 0 n
  rw [Nat.zero_add] at hraised
  rw [hraised]
  exact Nat.le_add_left _ _

/-- A call at any count gives what it gives at first, with higher numbers. -/
theorem Call.sameButNumbers (call : Call) (k : Nat) : SameButNumbers k (call.first s) (call.run s (1 + k)).1 := by
  have hraised := congrArg Prod.fst (call.run_raised hs 1 k)
  have hsame := congrArg Prod.fst (call.run_raised hs 1 0)
  rw [hraised]
  unfold Call.first
  cases hrun : (call.run s 1).1 with
  | error e => exact .error e
  | ok c =>
    refine .ok rfl (Condition.params_raised k c) ?_
    -- The formulas in it are filled already.
    have hfilled : c = c.raised 0 := by
      rw [hrun] at hsame
      exact Except.ok.inj hsame
    have htext := Condition.renumbered_text k c
    rwa [← hfilled] at htext

theorem Call.scoped {call : Call} (hrow : ∀ n, ¬Mentions call.row n) {n : Nat} {c : Condition}
    (h : (call.run s n).1 = .ok c) : c.Scoped (.row call.row) n (call.run s n).2 := by
  refine Condition.scoped_ofFilter hs call.filter call.entity (.row call.row) c n _ (fun m hm => absurd hm (hrow m)) ?_
  exact Prod.ext h rfl

/-- Calls one after the other give what each gives by itself, up to numbers, and no number is taken twice. -/
theorem run_compileAll (calls : List Call) (hrows : ∀ call ∈ calls, ∀ n, ¬Mentions call.row n) (k : Nat) :
    List.Forall₂ (fun call result => (∃ k, SameButNumbers k (call.first s) result) ∧
        ∀ c, result = .ok c → (∀ row ∈ c.introduced, ∃ n, row = .sub n) ∧ ∀ name, c.Free name → name = call.row)
      calls (compileAll s calls (1 + k)).1 ∧
    (∀ row ∈ introducedIn (compileAll s calls (1 + k)).1, ∃ n, row = .sub n ∧ 1 + k ≤ n) ∧
    (introducedIn (compileAll s calls (1 + k)).1).Nodup := by
  induction calls generalizing k with
  | nil => exact ⟨.nil, nofun, .nil⟩
  | cons call rest ih =>
    obtain ⟨hrow, hrest⟩ := List.forall_mem_cons.mp hrows
    have hgrows := call.le_run hs (1 + k)
    obtain ⟨k', hnext⟩ : ∃ k', (call.run s (1 + k)).2 = 1 + k' := ⟨(call.run s (1 + k)).2 - 1, by omega⟩
    have hrun : (compileAll s (call :: rest) (1 + k)).1 =
        (call.run s (1 + k)).1 :: (compileAll s rest (1 + k')).1 := by
      rw [compileAll, List.mapM_cons, ← hnext]
      rfl
    have hle : 1 + k ≤ 1 + k' := hnext ▸ hgrows
    -- Each call goes on from the counter that the one before left, so that only the numbers of its sub-selects differ.
    have hsame := call.sameButNumbers hs k
    obtain ⟨hresults, hnumbers, hnodup⟩ := ih hrest k'
    have hlater : ∀ row ∈ introducedIn (compileAll s rest (1 + k')).1, ∃ n, row = .sub n ∧ 1 + k ≤ n := by
      intro row hmem
      obtain ⟨n, hn, hge⟩ := hnumbers row hmem
      exact ⟨n, hn, Nat.le_trans hle hge⟩
    rw [hrun]
    cases houtcome : (call.run s (1 + k)).1 with
    | error e =>
      rw [houtcome] at hsame
      exact ⟨.cons ⟨⟨k, hsame⟩, nofun⟩ hresults, hlater, hnodup⟩
    | ok c =>
      rw [houtcome] at hsame
      obtain ⟨hspans, hfree⟩ := call.scoped hs hrow houtcome
      have hintroduced : ∀ row ∈ c.introduced, ∃ n, row = .sub n ∧ 1 + k ≤ n ∧ n < 1 + k' := by
        obtain ⟨l, hl, heq⟩ := hspans
        rw [hnext] at hl
        intro row hmem
        rw [heq, List.mem_map] at hmem
        obtain ⟨n, hn, rfl⟩ := hmem
        rw [List.mem_range'_1] at hn
        exact ⟨n, rfl, hn.1, by omega⟩
      have hown : c.introduced.Nodup := by
        obtain ⟨l, _, heq⟩ := hspans
        rw [heq]
        exact (List.nodup_range' 1).map fun a b hab => Alias.sub.inj hab
      refine ⟨.cons ⟨⟨k, hsame⟩, ?_⟩ hresults, ?_, ?_⟩
      · rintro _ ⟨rfl⟩
        refine ⟨?_, hfree⟩
        intro row hmem
        obtain ⟨n, hn, _⟩ := hintroduced row hmem
        exact ⟨n, hn⟩
      · refine List.forall_mem_append.mpr ⟨?_, hlater⟩
        intro row hmem
        obtain ⟨n, hn, hge, _⟩ := hintroduced row hmem
        exact ⟨n, hn, hge⟩
      · -- What comes later has higher numbers.
        refine List.nodup_append.mpr ⟨hown, hnodup, ?_⟩
        rintro row hmem _ hmem' rfl
        obtain ⟨n, rfl, _, hlt⟩ := hintroduced row hmem
        obtain ⟨m, hm, hge⟩ := hnumbers _ hmem'
        cases hm
        omega

end Sequence

/-- In filters that are compiled one after the other no two sub-selects share a row, and what is mentioned of the row of a
sub-select is within it, so that a filter mentions from outside the row only that it is put for. Each filter ends as it would
as the first one, but for higher numbers of sub-selects. -/
theorem compileAll_scoped (s : Schema) (hs : s.Inserts) (calls : List Call)
    (hrows : ∀ call ∈ calls, ∀ n, ¬Mentions call.row n) :
    ((introducedIn (compileAll s calls 1).1).map Alias.text).Nodup ∧
    List.Forall₂ (fun call result => (∃ k, SameButNumbers k (call.first s) result) ∧
        ∀ c, result = .ok c → (∀ row ∈ c.introduced, ∃ n, row = .sub n) ∧ ∀ name, c.Free name → name = call.row)
      calls (compileAll s calls 1).1 := by
  obtain ⟨hresults, hnumbers, hnodup⟩ := run_compileAll hs calls hrows 0
  refine ⟨?_, hresults⟩
  refine List.Nodup.map_on ?_ hnodup
  intro a ha b hb hab
  obtain ⟨n, rfl, _⟩ := hnumbers a ha
  obtain ⟨m, rfl, _⟩ := hnumbers b hb
  rw [Alias.sub_injective hab]

theorem not_mentions_t0 : ∀ n, ¬Mentions "t0" n := Template.not_mentions (by decide)

def libraryCalls : List Call := [
  ⟨"Text", "t0", Filter.single (.text "collection") (Filter.single (.text "isPublic") (.bool true))⟩,
  ⟨"Text", "t0", Filter.single (.text "shelf") (.int 1)⟩,
  ⟨"Collection", "t0", Filter.single (.text "texts") (.map [
    (.text "language", Filter.single (.text "code") (.text "en")),
    (.text "pastViewersCount", Filter.single (.text "$gt") (.int 0))])⟩]

/-- Of these filters the second one fails, and the third goes on with the numbers behind the first. -/
theorem compileAll_scoped_library :
    introducedIn (compileAll Learning.schema libraryCalls 1).1 = [.sub 1, .sub 2, .sub 3] ∧
    ((introducedIn (compileAll Learning.schema libraryCalls 1).1).map Alias.text).Nodup := by
  have hrows : ∀ call ∈ libraryCalls, ∀ n, ¬Mentions call.row n := by
    simp only [libraryCalls, List.forall_mem_cons, not_mentions_t0, List.not_mem_nil, false_implies, implies_true, true_and,
      not_false_eq_true]
  obtain ⟨hnodup, _⟩ := compileAll_scoped Learning.schema inserts_learning libraryCalls hrows
  exact ⟨by decide +kernel, hnodup⟩

def letteredSchema : Schema := ⟨[
  ⟨"Text", [⟨"collectionId", .ref (some "Collection"), false, .null, false, false⟩],
    [⟨"collection", "Collection", .manyToOne "collectionId", []⟩], []⟩,
  ⟨"Collection", [], [], [⟨"letter", "(\x7balias[2]\x7d)", .scalar (some .int)⟩]⟩]⟩

def inCollection : Call := ⟨"Text", "t0", Filter.single (.text "collection") (.map [])⟩

def byLetter : Call := ⟨"Text", "t0", Filter.single (.text "collection") (Filter.single (.text "letter") (.int 1))⟩

/-- No row of a sub-select is mentioned in the formula, yet a filter by it fails as the first one and not as the tenth, for want
of a third letter in the row. -/
theorem compileAll_lettered : (∀ n, ¬Mentions "(\x7balias[2]\x7d)" n) ∧
    (∃ e, byLetter.first letteredSchema = .error e) ∧
    ∃ c, (compileAll letteredSchema (List.replicate 9 inCollection ++ [byLetter]) 1).1.getLast? = some (.ok c) := by
  refine ⟨Template.not_mentions (by decide), ⟨_, rfl⟩, ⟨_, rfl⟩⟩

end Sql

end EntityViews
