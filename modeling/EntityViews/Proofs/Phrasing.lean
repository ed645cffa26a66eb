import EntityViews.Proofs.Grammar
import EntityViews.Proofs.Identifiers
import EntityViews.Sql.Filter

/-!
How conditions are put into words. Main statement: a condition whose terms are columns of plainly named rows, or formulas in
brackets, reads as it was put together, however its parts are nested.
-/

namespace EntityViews.Sql

def itemsOf (s : String) : List Item := (items s).getD []

namespace Proposition

def ofText (s : String) : Proposition := .test (itemsOf s)

def conjunction : List Proposition → Proposition
  | [] => ofText "1 = 1"
  | ps => Part.joined .all ps

def disjunction : List Proposition → Proposition
  | [] => ofText "1 = 0"
  | ps => Part.joined .any ps

end Proposition

namespace Condition

mutual

def proposition : Condition → Proposition
  | always => .ofText always.text
  | never => .ofText never.text
  | compare comparison term operand => .ofText (compare comparison term operand).text
  | isNull negated term => .ofText (isNull negated term).text
  | among negated term operands => .ofText (among negated term operands).text
  | all parts => .conjunction (propositions parts)
  | any parts => .disjunction (propositions parts)
  | not part => .not part.proposition
  | within negated term column table row condition =>
    .within negated (itemsOf term.text) (itemsOf (Term.column row column).text) (itemsOf table.quoted) (itemsOf row.text)
      condition.proposition

def propositions : List Condition → List Proposition
  | [] => []
  | part :: rest => part.proposition :: propositions rest

end

end Condition

def connectives : List String := ["AND", "OR", "NOT"]

inductive IsOperand : List Item → Prop
  | column (row name : List Char) (h : ∀ k ∈ connectives, (Token.word row).isWord k = false) :
    IsOperand [.token (.word row), .token (.sign '.'), .token (.quoted '"' name)]
  | brackets (inner : List Item) : IsOperand [.group inner]

def Alias.IsPlain (row : Alias) : Prop :=
  ∃ w, tokens row.text.toList = some [.word w] ∧ ∀ k ∈ connectives, (Token.word w).isWord k = false

def Term.Written (t : Term) : Prop := ∃ is, items t.text = some is ∧ IsOperand is

namespace Condition

mutual

def Written : Condition → Prop
  | always | never => True
  | compare _ term _ | isNull _ term | among _ term _ => term.Written
  | all parts | any parts => parts ≠ [] ∧ AllWritten parts
  | not part => part.Written
  | within _ term _ _ row condition => term.Written ∧ (∃ n, row = .sub n) ∧ condition.Written

def AllWritten : List Condition → Prop
  | [] => True
  | part :: rest => part.Written ∧ AllWritten rest

end

end Condition

/-! Names and the rows that they are columns of. -/

section Names

/-- A name has no quotation mark in it. -/
theorem Name.quote_notMem_text (n : Name) : '"' ∉ n.text.toList := by
  cases n with
  | plain text h =>
    intro hm
    rcases isNameChar_or_newline h _ hm with hc | hc
    · exact absurd hc (by decide)
    · exact absurd hc (by decide)
  | kind k => cases k <;> decide

/-- A quotation ends at the next mark. -/
theorem advance_quoted {mark : Char} {cs : List Char} (h : mark ∉ cs) (seen : List Char) :
    (Pending.quoted mark seen).advance (cs ++ [mark]) = ([.quoted mark (seen ++ cs)], .gap) := by
  induction cs generalizing seen with
  | nil => simp [Pending.advance, Pending.next]
  | cons c cs ih =>
    rw [List.mem_cons, not_or] at h
    obtain ⟨hc, hcs⟩ := h
    have hnext : (Pending.quoted mark seen).next c = ([], .quoted mark (seen ++ [c])) := by
      rw [Pending.next, if_neg fun he => hc he.symm]
    rw [List.cons_append, Pending.advance, hnext, ih hcs, List.append_assoc]
    rfl

/-- A quoted name is one token. -/
theorem items_quoted (n : Name) : items n.quoted = some [.token (.quoted '"' n.text.toList)] := by
  have hlist : n.quoted.toList = '"' :: (n.text.toList ++ ['"']) := by
    rw [Name.quoted, String.toList_append, String.toList_append]
    rfl
  have hnext : Pending.gap.next '"' = ([], .quoted '"' []) := rfl
  have htokens : tokens n.quoted.toList = some [.quoted '"' n.text.toList] := by
    rw [hlist, tokens, Pending.advance, hnext, advance_quoted n.quote_notMem_text, List.nil_append]
    rfl
  rw [items, htokens]
  rfl

theorem items_column {row : Alias} {w : List Char} (hrow : tokens row.text.toList = some [.word w]) (n : Name) :
    items (Term.column row n).text =
      some [.token (.word w), .token (.sign '.'), .token (.quoted '"' n.text.toList)] := by
  have hrow : items row.text = some [.token (.word w)] := by rw [items, hrow, Option.bind_some]; rfl
  have hdot : items "." = some [.token (.sign '.')] := items_literal rfl
  exact items_spaced hrow hdot (items_quoted n) (by decide) (notWord_of_all rfl) (notWord_of_all rfl)

theorem Alias.IsPlain.column {row : Alias} (h : row.IsPlain) (n : Name) : (Term.column row n).Written := by
  obtain ⟨w, hw, hconnective⟩ := h
  exact ⟨_, items_column hw n, .column w _ hconnective⟩

/-- The characters of a word continue it. -/
theorem advance_word {cs : List Char} (h : ∀ c ∈ cs, isWordChar c = true) (seen : List Char) :
    (Pending.word seen).advance cs = ([], .word (seen ++ cs)) := by
  induction cs generalizing seen with
  | nil => rw [Pending.advance, List.append_nil]
  | cons c cs ih =>
    obtain ⟨hc, hcs⟩ := List.forall_mem_cons.mp h
    have hnext : (Pending.word seen).next c = ([], .word (seen ++ [c])) := by rw [Pending.next, if_pos hc]
    rw [Pending.advance, hnext, ih hcs, List.append_assoc]
    rfl

theorem tokens_word {c : Char} {cs : List Char} (hc : isWordChar c = true) (hcs : ∀ c ∈ cs, isWordChar c = true) :
    tokens (c :: cs) = some [.word (c :: cs)] := by
  have hnext : Pending.gap.next c = ([], .word [c]) := by
    rw [Pending.next, Pending.opened, if_pos hc]
  rw [tokens, Pending.advance, hnext, advance_word hcs]
  rfl

theorem Alias.toList_sub (n : Nat) : (Alias.sub n).text.toList = 's' :: Nat.toDigits 10 n := by
  rw [text, decimalText, String.toList_append, String.toList_ofList (l := Nat.toDigits 10 n)]
  rfl

theorem isWordChar_of_sub (n : Nat) : ∀ c ∈ (Alias.sub n).text.toList, isWordChar c = true := by
  rw [Alias.toList_sub]
  refine List.forall_mem_cons.mpr ⟨by decide, ?_⟩
  intro c hc
  have hdigit : c.isDigit = true := Nat.isDigit_of_mem_toDigits (by decide) (by decide) hc
  simp [isWordChar, isNameChar, Char.isAlphanum, hdigit]

theorem tokens_sub (n : Nat) : tokens (Alias.sub n).text.toList = some [.word ('s' :: Nat.toDigits 10 n)] := by
  have hword := isWordChar_of_sub n
  rw [Alias.toList_sub] at hword ⊢
  obtain ⟨hfirst, hrest⟩ := List.forall_mem_cons.mp hword
  exact tokens_word hfirst hrest

theorem items_sub (n : Nat) : items (Alias.sub n).text = some [.token (.word ('s' :: Nat.toDigits 10 n))] := by
  rw [items, tokens_sub, Option.bind_some]
  rfl

/-- A word of the language that does not begin with the letter of sub-selects is not the name of one. -/
theorem isWord_sub (n : Nat) {word : String} (h : word.toList.head? ≠ some 'S') :
    (Token.word ('s' :: Nat.toDigits 10 n)).isWord word = false := by
  rw [Token.isWord, beq_eq_false_iff_ne, List.map_cons]
  intro he
  rw [← he] at h
  exact h rfl

theorem Alias.isPlain_sub (n : Nat) : (Alias.sub n).IsPlain := by
  refine ⟨_, tokens_sub n, ?_⟩
  intro k hk
  simp only [connectives, List.mem_cons, List.not_mem_nil, or_false] at hk
  rcases hk with rfl | rfl | rfl <;> exact isWord_sub n (by decide)

end Names

/-! The words of membership tests. -/

section Membership

def membershipText (negated : Bool) : String := if negated then " NOT IN " else " IN "

def membershipItems (negated : Bool) : List Item :=
  if negated then [.token (.word "NOT".toList), .token (.word "IN".toList)] else [.token (.word "IN".toList)]

theorem open_membership (negated : Bool) :
    (if negated then " NOT IN (" else " IN (") = membershipText negated ++ "(" := by
  cases negated <;> rfl

theorem lacks_membership (negated : Bool) {word : String} (h : word = "AND" ∨ word = "OR") :
    Lacks word (membershipItems negated) := by
  rcases h with rfl | rfl <;> cases negated <;> decide

theorem items_membership (negated : Bool) {s t : String} {is ks : List Item} (hs : items s = some is)
    (ht : items t = some ks) :
    items (s ++ membershipText negated ++ t) = some (is ++ (membershipItems negated ++ ks)) := by
  rw [← List.append_assoc]
  cases negated with
  | false => exact items_spaced hs (items_literal rfl) ht (by decide) (notWord_of_all rfl) (notWord_of_all rfl)
  | true => exact items_spaced hs (items_literal rfl) ht (by decide) (notWord_of_all rfl) (notWord_of_all rfl)

def placeholderItems (operands : List Value) : List Item :=
  [.token (.sign ',')].intercalate (operands.map fun _ => [.token (.sign '?')])

/-- A list of placeholders is read as question marks with commas between them. -/
theorem items_placeholders (operands : List Value) : items (placeholders operands) = some (placeholderItems operands) := by
  have hmark : items "?" = some [.token (.sign '?')] := items_literal rfl
  have hcomma : items ", " = some [.token (.sign ',')] := items_literal rfl
  have hmarks : List.Forall₂ (fun s is => items s = some is) (operands.map fun _ => "?")
      (operands.map fun _ => [.token (.sign '?')]) := by
    induction operands with
    | nil => exact .nil
    | cons v rest ih => exact .cons hmark ih
  exact items_intercalate hcomma (by decide) (notWord_of_all rfl) (notWord_of_all rfl) hmarks

/-- Placeholders hold no sub-select. -/
theorem lacks_placeholders (operands : List Value) : Lacks "SELECT" (placeholderItems operands) := by
  refine lacks_intercalate rfl ?_
  intro is his
  obtain ⟨_, _, rfl⟩ := List.mem_map.mp his
  decide

end Membership

/-! Comparisons and membership tests. -/

section Tests

variable {is : List Item} (hop : IsOperand is)

def Part.select? : Part → Option Subselect
  | .token _ => none
  | .group _ _ select => select

theorem membership?_eq_none (ps : List Part) {last : Part} (h : last.select? = none) :
    Part.membership? (ps ++ [last]) = none := by
  unfold Part.membership?
  rw [List.reverse_append, List.reverse_singleton, List.singleton_append]
  split
  · rename_i heq
    obtain ⟨rfl, _⟩ := List.cons.inj heq
    cases h
  · rfl

include hop

theorem IsOperand.lacksAnd : Lacks "AND" is := by
  cases hop with
  | column row name h =>
    exact List.forall_mem_cons.mpr ⟨h "AND" (by decide), List.forall_mem_cons.mpr ⟨rfl, List.forall_mem_singleton.mpr rfl⟩⟩
  | brackets inner => exact List.forall_mem_singleton.mpr rfl

theorem IsOperand.lacksOr : Lacks "OR" is := by
  cases hop with
  | column row name h =>
    exact List.forall_mem_cons.mpr ⟨h "OR" (by decide), List.forall_mem_cons.mpr ⟨rfl, List.forall_mem_singleton.mpr rfl⟩⟩
  | brackets inner => exact List.forall_mem_singleton.mpr rfl

/-- A term, IN or NOT IN, and brackets that hold a sub-select are a membership test. -/
theorem IsOperand.membership?_select (negated : Bool) (inner : List Item) (reading : Proposition) (s : Subselect) :
    Part.membership? (Item.parts is ++ (Item.parts (membershipItems negated) ++ [.group inner reading (some s)])) =
      some (.within negated is s.column s.table s.row s.condition) := by
  cases hop <;> cases negated <;> rfl

/-- What begins with a term and goes on is no negation, so it is left to the last reader, that of comparisons. -/
theorem IsOperand.negation_eq {rest : List Item} (hne : rest ≠ []) :
    Part.negation (Item.parts (is ++ rest)) =
      (Part.membership? (Item.parts (is ++ rest))).getD (.test (is ++ rest)) := by
  have hcomparison : ∀ first second : Part, ∀ ps : List Part, first.isWord "NOT" = false →
      Part.negation (first :: second :: ps) =
        (Part.membership? (first :: second :: ps)).getD (.test ((first :: second :: ps).map Part.item)) := by
    intro first second ps hfirst
    rw [Part.negation, if_neg (by rw [hfirst]; exact Bool.false_ne_true), Part.comparison]
    nofun
  obtain ⟨next, rest, rfl⟩ := List.exists_cons_of_ne_nil hne
  have hread : ∀ first second : Item, ∀ js : List Item, first.isWord "NOT" = false →
      Part.negation (Item.parts (first :: second :: js)) =
        (Part.membership? (Item.parts (first :: second :: js))).getD (.test (first :: second :: js)) := by
    intro first second js hfirst
    have h := hcomparison first.part second.part (Item.parts js) (by rw [Item.isWord_part, hfirst])
    have hitems : (first.part :: second.part :: Item.parts js).map Part.item = first :: second :: js :=
      Item.items_parts (first :: second :: js)
    rw [hitems] at h
    exact h
  cases hop with
  | column row name h => exact hread _ _ _ (h "NOT" (by decide))
  | brackets inner => exact hread _ _ _ rfl

theorem IsOperand.negation_test {tail : List Item} {last : Item} (hlast : last.part.select? = none) :
    Part.negation (Item.parts (is ++ (tail ++ [last]))) = .test (is ++ (tail ++ [last])) := by
  rw [hop.negation_eq (by simp), ← List.append_assoc, Item.parts_append (is ++ tail)]
  have hnone : Part.membership? (Item.parts (is ++ tail) ++ Item.parts [last]) = none := membership?_eq_none _ hlast
  rw [hnone]
  rfl

/-- A term with something behind it is a comparison, unless that ends with a sub-select. -/
theorem IsOperand.isUnit {s : String} {tail : List Item} {last : Item} (hs : items s = some (is ++ (tail ++ [last])))
    (hlast : last.part.select? = none) (hand : Lacks "AND" (tail ++ [last])) (hor : Lacks "OR" (tail ++ [last])) :
    IsUnit s (.ofText s) (is ++ (tail ++ [last])) := by
  refine ⟨hs, hop.lacksAnd.append hand, hop.lacksOr.append hor, ?_⟩
  rw [hop.negation_test hlast, Proposition.ofText, itemsOf, hs]
  rfl

end Tests

section Leaves

/-- The items of a comparison of texts in small letters, with the term in the brackets of a function. -/
theorem items_ilike {term : String} {is : List Item} (his : items term = some is) :
    items (Comparison.ilike.text term) = some [.token (.word "LOWER".toList), .group is,
      .token (.word "LIKE".toList), .token (.word "LOWER".toList), .group [.token (.sign '?')]] := by
  have hsplit : Comparison.ilike.text term = "LOWER" ++ ("(" ++ term ++ ")") ++ " LIKE LOWER(?)" := by
    have hopen : "LOWER(" = "LOWER" ++ "(" := rfl
    have hclose : ") LIKE LOWER(?)" = ")" ++ " LIKE LOWER(?)" := rfl
    rw [Comparison.text, hopen, hclose]
    simp only [String.append_assoc]
  have hfront : items ("LOWER" ++ ("(" ++ term ++ ")")) = some ([.token (.word "LOWER".toList)] ++ [.group is]) :=
    items_append (apart_brackets _ _) (items_literal rfl) (items_brackets his)
  rw [hsplit]
  exact items_append (.inr (notWord_of_all rfl)) hfront (items_literal rfl)

variable {t : Term} (ht : t.Written)

theorem isUnit_constant {cs : List Char} {first last : Item} (middle : List Item)
    (hcs : (tokens cs).bind nest = some ([first] ++ (middle ++ [last])))
    (hand : Lacks "AND" ([first] ++ (middle ++ [last]))) (hor : Lacks "OR" ([first] ++ (middle ++ [last])))
    (hnegation : Part.negation (Item.parts ([first] ++ (middle ++ [last]))) = .test ([first] ++ (middle ++ [last]))) :
    ∃ is, IsUnit (String.ofList cs) (.ofText (String.ofList cs)) is := by
  refine ⟨_, items_literal hcs, hand, hor, ?_⟩
  rw [hnegation, Proposition.ofText, itemsOf, items_literal hcs]
  rfl

include ht

/-- A term with fixed words behind it. -/
theorem isUnit_followed {cs : List Char} (tail : List Item) {last : Item}
    (hcs : (tokens cs).bind nest = some (tail ++ [last])) (hhead : ∀ c ∈ cs.head?, isWordChar c = false)
    (hlast : last.part.select? = none) (hand : Lacks "AND" (tail ++ [last])) (hor : Lacks "OR" (tail ++ [last])) :
    ∃ is, IsUnit (t.text ++ String.ofList cs) (.ofText (t.text ++ String.ofList cs)) is := by
  obtain ⟨is, his, hop⟩ := ht
  refine ⟨_, hop.isUnit ?_ hlast hand hor⟩
  refine items_append (.inr ?_) his (items_literal hcs)
  rwa [String.toList_ofList]

theorem isUnit_isNull (negated : Bool) :
    ∃ is, IsUnit (Condition.isNull negated t).text (Condition.isNull negated t).proposition is := by
  rw [Condition.proposition, Condition.text]
  cases negated with
  | false => exact isUnit_followed ht [_] rfl (notWord_of_all rfl) rfl (by decide) (by decide)
  | true => exact isUnit_followed ht [_, _] rfl (notWord_of_all rfl) rfl (by decide) (by decide)

/-- A comparison is one unit. -/
theorem isUnit_compare (k : Comparison) (v : Value) :
    ∃ is, IsUnit (Condition.compare k t v).text (Condition.compare k t v).proposition is := by
  rw [Condition.proposition, Condition.text]
  cases k with
  | eq | gt | lt => exact isUnit_followed ht [_] rfl (notWord_of_all rfl) rfl (by decide) (by decide)
  | ne | gte | lte => exact isUnit_followed ht [_, _] rfl (notWord_of_all rfl) rfl (by decide) (by decide)
  | like => exact isUnit_followed ht [_] rfl (notWord_of_all rfl) rfl (by decide) (by decide)
  | ilike =>
    -- The term is in the brackets of a function here, so nothing has to be known of its items.
    obtain ⟨is, his, _⟩ := ht
    have hall := items_ilike his
    refine ⟨_, hall, ?_, ?_, ?_⟩
    · exact List.forall_mem_cons.mpr ⟨by decide, List.forall_mem_cons.mpr ⟨rfl, by decide⟩⟩
    · exact List.forall_mem_cons.mpr ⟨by decide, List.forall_mem_cons.mpr ⟨rfl, by decide⟩⟩
    · rw [Proposition.ofText, itemsOf, hall]
      rfl

/-- A membership is one unit. -/
theorem isUnit_among (negated : Bool) (operands : List Value) :
    ∃ is, IsUnit (Condition.among negated t operands).text (Condition.among negated t operands).proposition is := by
  obtain ⟨is, his, hop⟩ := ht
  have hnone : (Item.group (placeholderItems operands)).part.select? = none := by
    show Part.subselect? (Item.parts (placeholderItems operands)) = none
    rw [Part.subselect?, cut_eq_none (lacks_placeholders operands)]
    rfl
  have hall := items_membership negated his (items_brackets (items_placeholders operands))
  have hsplit : (Condition.among negated t operands).text =
      t.text ++ membershipText negated ++ ("(" ++ placeholders operands ++ ")") := by
    rw [Condition.text, open_membership]
    simp only [String.append_assoc]
  rw [Condition.proposition, hsplit]
  refine ⟨_, hop.isUnit hall hnone ?_ ?_⟩
  · exact (lacks_membership negated (.inl rfl)).append (List.forall_mem_singleton.mpr rfl)
  · exact (lacks_membership negated (.inr rfl)).append (List.forall_mem_singleton.mpr rfl)

end Leaves

/-! Sub-selects. -/

section Within

variable {cond : String} {cs : List Item} (hcond : items cond = some cs) (column table : Name) (n : Nat)

def selectItems (column table : Name) (n : Nat) (cs : List Item) : List Item :=
  .token (.word "SELECT".toList) :: (itemsOf (Term.column (.sub n) column).text ++
    .token (.word "FROM".toList) :: (itemsOf table.quoted ++
      .token (.word "AS".toList) :: (itemsOf (Alias.sub n).text ++ .token (.word "WHERE".toList) :: cs)))

include hcond

/-- A sub-select is read as its words, with the items of its condition behind them. -/
theorem items_select : items ("SELECT " ++ (Term.column (.sub n) column).text ++ " FROM " ++ table.quoted ++ " AS " ++
    (Alias.sub n).text ++ " WHERE " ++ cond) = some (selectItems column table n cs) := by
  have hcolumn := items_column (tokens_sub n) column
  have htable := items_quoted table
  have hrow := items_sub n
  have hselect : items ("SELECT " ++ (Term.column (.sub n) column).text) =
      some ([.token (.word "SELECT".toList)] ++ itemsOf (Term.column (.sub n) column).text) := by
    rw [itemsOf, hcolumn]
    exact items_append (.inl (notWord_of_all rfl)) (items_literal rfl) hcolumn
  have hwordFrom : items " FROM " = some [.token (.word "FROM".toList)] := items_literal rfl
  have hwordAs : items " AS " = some [.token (.word "AS".toList)] := items_literal rfl
  have hwordWhere : items " WHERE " = some [.token (.word "WHERE".toList)] := items_literal rfl
  have hfrom := items_spaced hselect hwordFrom htable (by decide) (notWord_of_all rfl) (notWord_of_all rfl)
  have has := items_spaced hfrom hwordAs hrow (by decide) (notWord_of_all rfl) (notWord_of_all rfl)
  have hwhere := items_spaced has hwordWhere hcond (by decide) (notWord_of_all rfl) (notWord_of_all rfl)
  rw [selectItems, itemsOf, itemsOf, itemsOf, hcolumn, htable, hrow]
  rw [itemsOf, hcolumn] at hwhere
  simpa only [List.append_assoc, List.cons_append, List.nil_append, Option.getD_some] using hwhere

omit hcond in
/-- A sub-select is read back as its column, its table, its row and its condition. -/
theorem subselect?_select : Part.subselect? (Item.parts (selectItems column table n cs)) =
    some ⟨itemsOf (Term.column (.sub n) column).text, itemsOf table.quoted, itemsOf (Alias.sub n).text,
      Part.disjunction (Item.parts cs)⟩ := by
  have hcolumn : Lacks "FROM" (itemsOf (Term.column (.sub n) column).text) := by
    rw [itemsOf, items_column (tokens_sub n) column]
    exact List.forall_mem_cons.mpr ⟨isWord_sub n (by decide), List.forall_mem_cons.mpr ⟨rfl, List.forall_mem_singleton.mpr rfl⟩⟩
  have htable : Lacks "AS" (itemsOf table.quoted) := by
    rw [itemsOf, items_quoted]
    exact List.forall_mem_singleton.mpr rfl
  have hrow : Lacks "WHERE" (itemsOf (Alias.sub n).text) := by
    rw [itemsOf, items_sub]
    exact List.forall_mem_singleton.mpr (isWord_sub n (by decide))
  have hwordSelect : Item.isWord "SELECT" (.token (.word "SELECT".toList)) = true := by decide
  have hwordFrom : Item.isWord "FROM" (.token (.word "FROM".toList)) = true := by decide
  have hwordAs : Item.isWord "AS" (.token (.word "AS".toList)) = true := by decide
  have hwordWhere : Item.isWord "WHERE" (.token (.word "WHERE".toList)) = true := by decide
  have hnothing : Lacks "SELECT" [] := List.forall_mem_nil _
  have hselect := cut_of_lacks hwordSelect hnothing
  have hfrom := cut_of_lacks hwordFrom hcolumn
  have has := cut_of_lacks hwordAs htable
  have hwhere := cut_of_lacks hwordWhere hrow
  rw [selectItems, Part.subselect?]
  simp only [List.nil_append] at hselect
  simp only [hselect, hfrom, has, hwhere, Option.bind_eq_bind, Option.bind_some, Item.items_parts]
  rfl

/-- A test whether a term is among the values of a column in the rows of a table that meet a condition. -/
theorem isUnit_within {t : Term} (ht : t.Written) {p : Proposition} (hp : Part.disjunction (Item.parts cs) = p)
    (negated : Bool) :
    ∃ is, IsUnit (t.text ++ (if negated then " NOT IN (SELECT " else " IN (SELECT ") ++ (Term.column (.sub n) column).text ++
        " FROM " ++ table.quoted ++ " AS " ++ (Alias.sub n).text ++ " WHERE " ++ cond ++ ")")
      (.within negated (itemsOf t.text) (itemsOf (Term.column (.sub n) column).text) (itemsOf table.quoted)
        (itemsOf (Alias.sub n).text) p) is := by
  obtain ⟨is, his, hop⟩ := ht
  have hselect := items_brackets (items_select hcond column table n)
  have hall := items_membership negated his hselect
  have hopen : (if negated then " NOT IN (SELECT " else " IN (SELECT ") = membershipText negated ++ ("(" ++ "SELECT ") := by
    cases negated <;> rfl
  have hand := lacks_membership negated (.inl rfl : "AND" = "AND" ∨ "AND" = "OR")
  have hor := lacks_membership negated (.inr rfl : "OR" = "AND" ∨ "OR" = "OR")
  refine ⟨is ++ (membershipItems negated ++ [.group (selectItems column table n cs)]), ?_, ?_, ?_, ?_⟩
  · rw [hopen, ← hall]
    simp only [String.append_assoc]
  · exact hop.lacksAnd.append (hand.append (List.forall_mem_singleton.mpr rfl))
  · exact hop.lacksOr.append (hor.append (List.forall_mem_singleton.mpr rfl))
  · have hgroup : Item.parts [.group (selectItems column table n cs)] = [.group (selectItems column table n cs)
        (Part.disjunction (Item.parts (selectItems column table n cs)))
        (some ⟨itemsOf (Term.column (.sub n) column).text, itemsOf table.quoted, itemsOf (Alias.sub n).text, p⟩)] := by
      rw [Item.parts, Item.part, subselect?_select, hp]
      rfl
    have hterm : itemsOf t.text = is := by rw [itemsOf, his, Option.getD_some]
    rw [hop.negation_eq (by intro he; cases negated <;> cases he), Item.parts_append, Item.parts_append, hgroup,
      hop.membership?_select, Option.getD_some, hterm]

end Within

theorem Proposition.conjunction_of_ne_nil {ps : List Proposition} (h : ps ≠ []) : conjunction ps = Part.joined .all ps := by
  cases ps with
  | nil => exact absurd rfl h
  | cons p ps => rfl

theorem Proposition.disjunction_of_ne_nil {ps : List Proposition} (h : ps ≠ []) : disjunction ps = Part.joined .any ps := by
  cases ps with
  | nil => exact absurd rfl h
  | cons p ps => rfl

namespace Condition

theorem texts_ne_nil {parts : List Condition} (h : parts ≠ []) : texts parts ≠ [] := by
  cases parts with
  | nil => exact absurd rfl h
  | cons part rest => nofun

theorem propositions_ne_nil {parts : List Condition} (h : parts ≠ []) : propositions parts ≠ [] := by
  cases parts with
  | nil => exact absurd rfl h
  | cons part rest => nofun

mutual

/-- A condition that is written well reads as it was put together, and is a unit. -/
theorem isUnit_text : (c : Condition) → c.Written → ∃ is, IsUnit c.text c.proposition is
  | always, _ => isUnit_constant [_] rfl (by decide) (by decide) rfl
  | never, _ => isUnit_constant [_] rfl (by decide) (by decide) rfl
  | compare k t v, h => isUnit_compare h k v
  | isNull negated t, h => isUnit_isNull h negated
  | among negated t operands, h => isUnit_among h negated operands
  | all parts, h => by
    obtain ⟨hne, hparts⟩ := h
    have hread := (units_texts parts hparts).read_and (texts_ne_nil hne)
    rw [text, proposition, Proposition.conjunction_of_ne_nil (propositions_ne_nil hne)]
    exact isUnit_brackets hread
  | any parts, h => by
    obtain ⟨hne, hparts⟩ := h
    have hread := (units_texts parts hparts).read_or (texts_ne_nil hne)
    rw [text, proposition, Proposition.disjunction_of_ne_nil (propositions_ne_nil hne)]
    exact isUnit_brackets hread
  | not part, h => by
    obtain ⟨is, hpart⟩ := isUnit_text part h
    rw [text, proposition]
    exact isUnit_not hpart.read
  | within negated t column table row condition, h => by
    obtain ⟨ht, ⟨n, rfl⟩, hcondition⟩ := h
    obtain ⟨is, hunit⟩ := isUnit_text condition hcondition
    rw [text, proposition]
    exact isUnit_within hunit.items column table n ht hunit.disjunction negated

theorem units_texts : (parts : List Condition) → AllWritten parts → Units (texts parts) (propositions parts)
  | [], _ => .nil
  | part :: rest, h => .cons (isUnit_text part h.1) (units_texts rest h.2)

end

end Condition

end EntityViews.Sql
