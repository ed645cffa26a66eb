import EntityViews.Proofs.Lexing
import EntityViews.Sql.Condition

/-!
Conditions read off SQL texts, by precedence: comparisons and membership tests first, then NOT, then AND, then OR. Main
statement: the text of a condition reads as the condition was put together, and shows neither AND nor OR outside brackets.
-/

namespace EntityViews.Sql

/-- What a text says as a condition. Comparisons are told by their items, a sub-select by the items of its clauses and
what its own condition says. -/
inductive Proposition
  | test (items : List Item)
  | all (parts : List Proposition)
  | any (parts : List Proposition)
  | not (part : Proposition)
  | within (negated : Bool) (term column table row : List Item) (condition : Proposition)

structure Subselect where
  column : List Item
  table : List Item
  row : List Item
  condition : Proposition

/-- An item whose brackets have been read: as a condition, and as a sub-select if they hold one. -/
inductive Part
  | token (t : Token)
  | group (items : List Item) (reading : Proposition) (select : Option Subselect)

def Token.isWord (word : String) : Token → Bool
  -- Keywords are told in small letters or capitals.
  | .word chars => chars.map Char.toUpper == word.toList
  | _ => false

def Item.isWord (word : String) : Item → Bool
  | .token t => t.isWord word
  | .group _ => false

namespace Part

def item : Part → Item
  | token t => .token t
  | group items _ _ => .group items

def isWord (word : String) : Part → Bool
  | token t => t.isWord word
  | group _ _ _ => false

def cut (word : String) : List Part → Option (List Part × List Part)
  | [] => none
  | p :: ps => if p.isWord word then some ([], ps) else (cut word ps).map fun r => (p :: r.1, r.2)

def membership? (ps : List Part) : Option Proposition :=
  match ps.reverse with
  | .group _ _ (some s) :: w :: front =>
    if w.isWord "IN" then
      match front with
      | [] => none
      | n :: term =>
        if n.isWord "NOT" then some (.within true (term.reverse.map item) s.column s.table s.row s.condition)
        else some (.within false ((n :: term).reverse.map item) s.column s.table s.row s.condition)
    else none
  | _ => none

def comparison (ps : List Part) : Proposition :=
  match ps with
  | [.group _ reading _] => reading
  | ps => (membership? ps).getD (.test (ps.map item))

def negation : List Part → Proposition
  | [] => comparison []
  | p :: ps => if p.isWord "NOT" then .not (negation ps) else comparison (p :: ps)

def joined (whole : List Proposition → Proposition) : List Proposition → Proposition
  -- A single part stands for itself.
  | [p] => p
  | ps => whole ps

def conjunction (ps : List Part) : Proposition := joined .all ((ps.splitOnP (isWord "AND")).map negation)

def disjunction (ps : List Part) : Proposition := joined .any ((ps.splitOnP (isWord "OR")).map conjunction)

def subselect? (ps : List Part) : Option Subselect := do
  let (front, rest) ← cut "SELECT" ps
  let (column, rest) ← cut "FROM" rest
  let (table, rest) ← cut "AS" rest
  let (row, rest) ← cut "WHERE" rest
  if front.isEmpty then some ⟨column.map item, table.map item, row.map item, disjunction rest⟩ else none

end Part

mutual

def Item.part : Item → Part
  | .token t => .token t
  | .group items => .group items (Part.disjunction (Item.parts items)) (Part.subselect? (Item.parts items))

def Item.parts : List Item → List Part
  | [] => []
  | i :: rest => i.part :: Item.parts rest

end

/-- What a text says as a condition, if its quotes and brackets are balanced. -/
def read (s : String) : Option Proposition := (items s).map fun is => Part.disjunction (Item.parts is)

/-! How the parts of a text are split at its words. -/

section Parts

theorem Item.item_part (i : Item) : i.part.item = i := by
  cases i <;> rfl

theorem Item.isWord_part (i : Item) (word : String) : i.part.isWord word = i.isWord word := by
  cases i <;> rfl

theorem Item.parts_eq_map (is : List Item) : parts is = is.map part := by
  induction is with
  | nil => rfl
  | cons i is ih => rw [parts, ih, List.map_cons]

theorem Item.parts_append (is js : List Item) : parts (is ++ js) = parts is ++ parts js := by
  simp only [parts_eq_map, List.map_append]

theorem Item.items_parts (is : List Item) : (parts is).map Part.item = is := by
  simp only [parts_eq_map, List.map_map, Function.comp_def, item_part, List.map_id']

def Lacks (word : String) (is : List Item) : Prop := ∀ i ∈ is, i.isWord word = false

instance (word : String) (is : List Item) : Decidable (Lacks word is) :=
  inferInstanceAs (Decidable (∀ i ∈ is, i.isWord word = false))

theorem Lacks.append {word : String} {is js : List Item} (his : Lacks word is) (hjs : Lacks word js) :
    Lacks word (is ++ js) := List.forall_mem_append.mpr ⟨his, hjs⟩

theorem Lacks.parts {word : String} {is : List Item} (h : Lacks word is) : ∀ p ∈ Item.parts is, p.isWord word = false := by
  intro p hp
  rw [Item.parts_eq_map] at hp
  obtain ⟨i, hi, rfl⟩ := List.mem_map.mp hp
  rw [Item.isWord_part]
  exact h i hi

/-- Items joined by a word are split at this word into the items that were joined. -/
theorem splitOnP_intercalate {word : String} {w : Item} (hw : w.isWord word = true) {iss : List (List Item)}
    (hne : iss ≠ []) (h : ∀ is ∈ iss, Lacks word is) :
    (Item.parts ([w].intercalate iss)).splitOnP (Part.isWord word) = iss.map Item.parts := by
  have hwpart : w.part.isWord word = true := by rw [Item.isWord_part, hw]
  induction iss with
  | nil => exact absurd rfl hne
  | cons is rest ih =>
    obtain ⟨his, hrest⟩ := List.forall_mem_cons.mp h
    cases rest with
    | nil =>
      rw [List.intercalate_singleton]
      exact List.splitOnP_eq_singleton his.parts
    | cons js rest =>
      rw [List.intercalate_cons_cons, Item.parts_append, Item.parts_append, List.append_assoc]
      calc (Item.parts is ++ (Item.parts [w] ++ Item.parts ([w].intercalate (js :: rest)))).splitOnP (Part.isWord word)
          = Item.parts is :: (Item.parts ([w].intercalate (js :: rest))).splitOnP (Part.isWord word) :=
            List.splitOnP_append_cons_of_forall_mem his.parts w.part hwpart _
        _ = (is :: js :: rest).map Item.parts := by
          rw [ih (List.cons_ne_nil _ _) hrest, List.map_cons, List.map_cons, List.map_cons]

/-- Items are cut at the first word, which is the one between them. -/
theorem cut_of_lacks {word : String} {w : Item} (hw : w.isWord word = true) {is : List Item} (h : Lacks word is)
    (js : List Item) :
    Part.cut word (Item.parts (is ++ w :: js)) = some (Item.parts is, Item.parts js) := by
  induction is with
  | nil =>
    show Part.cut word (w.part :: Item.parts js) = some ([], Item.parts js)
    rw [Part.cut, if_pos (by rw [Item.isWord_part, hw])]
  | cons i is ih =>
    obtain ⟨hi, his⟩ := List.forall_mem_cons.mp h
    show Part.cut word (i.part :: Item.parts (is ++ w :: js)) = some (i.part :: Item.parts is, Item.parts js)
    rw [Part.cut, if_neg (by rw [Item.isWord_part, hi]; exact Bool.false_ne_true), ih his]
    rfl

/-- Where the word does not stand nothing is cut. -/
theorem cut_eq_none {word : String} {is : List Item} (h : Lacks word is) : Part.cut word (Item.parts is) = none := by
  induction is with
  | nil => rfl
  | cons i is ih =>
    obtain ⟨hi, his⟩ := List.forall_mem_cons.mp h
    rw [Item.parts, Part.cut, if_neg (by rw [Item.isWord_part, hi]; exact Bool.false_ne_true), ih his]
    rfl

end Parts

/-! Texts that are units: whatever they are joined with, they are not taken apart. -/

section Unit

structure IsUnit (s : String) (p : Proposition) (is : List Item) : Prop where
  items : items s = some is
  lacksAnd : Lacks "AND" is
  lacksOr : Lacks "OR" is
  reading : Part.negation (Item.parts is) = p

variable {s : String} {p : Proposition} {is : List Item}

theorem IsUnit.conjunction (h : IsUnit s p is) : Part.conjunction (Item.parts is) = p := by
  rw [Part.conjunction, List.splitOnP_eq_singleton h.lacksAnd.parts]
  exact h.reading

theorem IsUnit.disjunction (h : IsUnit s p is) : Part.disjunction (Item.parts is) = p := by
  rw [Part.disjunction, List.splitOnP_eq_singleton h.lacksOr.parts]
  exact h.conjunction

theorem IsUnit.read (h : IsUnit s p is) : read s = some p := by
  rw [Sql.read, h.items, Option.map_some, h.disjunction]

/-- Whatever is in brackets is a unit. -/
theorem isUnit_brackets (h : read s = some p) : ∃ is, IsUnit ("(" ++ s ++ ")") p is := by
  obtain ⟨inner, hinner, rfl⟩ := Option.map_eq_some_iff.mp h
  exact ⟨_, items_brackets hinner, List.forall_mem_singleton.mpr rfl, List.forall_mem_singleton.mpr rfl, rfl⟩

/-- A negation in brackets is one unit. -/
theorem isUnit_not (h : read s = some p) : ∃ is, IsUnit ("NOT (" ++ s ++ ")") (.not p) is := by
  obtain ⟨inner, hinner, rfl⟩ := Option.map_eq_some_iff.mp h
  have hnot : Sql.items "NOT " = some [.token (.word ['N', 'O', 'T'])] := items_literal rfl
  have hall : Sql.items ("NOT (" ++ s ++ ")") = some ([.token (.word ['N', 'O', 'T'])] ++ [.group inner]) := by
    have hsplit : "NOT (" ++ s ++ ")" = "NOT " ++ ("(" ++ s ++ ")") := by
      have hopen : "NOT (" = "NOT " ++ "(" := rfl
      rw [hopen, String.append_assoc, String.append_assoc, String.append_assoc]
    rw [hsplit]
    exact items_append (.inl (notWord_of_all rfl)) hnot (items_brackets hinner)
  refine ⟨_, hall, ?_, ?_, rfl⟩
  · exact List.forall_mem_cons.mpr ⟨by decide, List.forall_mem_singleton.mpr rfl⟩
  · exact List.forall_mem_cons.mpr ⟨by decide, List.forall_mem_singleton.mpr rfl⟩

def Units : List String → List Proposition → Prop := List.Forall₂ fun s p => ∃ is, IsUnit s p is

/-- Units are made of items in which no joining word stands outside brackets. -/
theorem Units.parts {ss : List String} {ps : List Proposition} (h : Units ss ps) :
    ∃ iss, List.Forall₂ (fun s is => Sql.items s = some is) ss iss ∧ (∀ is ∈ iss, Lacks "AND" is) ∧
      (∀ is ∈ iss, Lacks "OR" is) ∧ iss.map (fun is => Part.negation (Item.parts is)) = ps ∧
      iss.map (fun is => Part.conjunction (Item.parts is)) = ps := by
  induction h with
  | nil => exact ⟨[], .nil, nofun, nofun, rfl, rfl⟩
  | cons hunit _ ih =>
    obtain ⟨is, hunit⟩ := hunit
    obtain ⟨iss, hitems, hand, hor, hnegation, hconjunction⟩ := ih
    refine ⟨is :: iss, .cons hunit.items hitems, List.forall_mem_cons.mpr ⟨hunit.lacksAnd, hand⟩,
      List.forall_mem_cons.mpr ⟨hunit.lacksOr, hor⟩, ?_, ?_⟩
    · rw [List.map_cons, hunit.reading, hnegation]
    · rw [List.map_cons, hunit.conjunction, hconjunction]

/-- Joined by another word, items still lack the word that none of them has. -/
theorem lacks_intercalate {word : String} {w : Item} (hw : w.isWord word = false) {iss : List (List Item)}
    (h : ∀ is ∈ iss, Lacks word is) : Lacks word ([w].intercalate iss) := by
  induction iss with
  | nil => nofun
  | cons is rest ih =>
    obtain ⟨his, hrest⟩ := List.forall_mem_cons.mp h
    cases rest with
    | nil =>
      rw [List.intercalate_singleton]
      exact his
    | cons js rest =>
      rw [List.intercalate_cons_cons]
      exact (his.append (List.forall_mem_singleton.mpr hw)).append (ih hrest)

/-- Units with AND between them are a conjunction of just these. -/
theorem Units.read_and {ss : List String} {ps : List Proposition} (h : Units ss ps) (hne : ss ≠ []) :
    read (" AND ".intercalate ss) = some (Part.joined .all ps) := by
  obtain ⟨iss, hitems, hand, hor, hnegation, _⟩ := h.parts
  have hiss : iss ≠ [] := by
    rintro rfl
    exact hne (List.forall₂_nil_right_iff.mp hitems)
  have hall : Sql.items (" AND ".intercalate ss) = some ([.token (.word ['A', 'N', 'D'])].intercalate iss) :=
    items_intercalate (items_literal rfl) (by decide) (notWord_of_all rfl) (notWord_of_all rfl) hitems
  rw [read, hall, Option.map_some, Part.disjunction,
    List.splitOnP_eq_singleton (lacks_intercalate (by decide) hor).parts, List.map_singleton, Part.joined,
    Part.conjunction, splitOnP_intercalate (by decide) hiss hand, List.map_map]
  exact congrArg (fun l => some (Part.joined .all l)) hnegation

/-- Units joined by OR are read as the disjunction of what they are read as. -/
theorem Units.read_or {ss : List String} {ps : List Proposition} (h : Units ss ps) (hne : ss ≠ []) :
    read (" OR ".intercalate ss) = some (Part.joined .any ps) := by
  obtain ⟨iss, hitems, _, hor, _, hconjunction⟩ := h.parts
  have hiss : iss ≠ [] := by
    rintro rfl
    exact hne (List.forall₂_nil_right_iff.mp hitems)
  have hall : Sql.items (" OR ".intercalate ss) = some ([.token (.word ['O', 'R'])].intercalate iss) :=
    items_intercalate (items_literal rfl) (by decide) (notWord_of_all rfl) (notWord_of_all rfl) hitems
  rw [read, hall, Option.map_some, Part.disjunction, splitOnP_intercalate (by decide) hiss hor, List.map_map]
  exact congrArg (fun l => some (Part.joined .any l)) hconjunction

end Unit

end EntityViews.Sql
