import EntityViews.Proofs.Terms

/-!
The values that the placeholders of an SQL text stand for, each the next one in turn. Main statement: the placeholders of a
condition take the operands of the condition, none left over, as long as its terms are written without placeholders.
-/

namespace EntityViews

namespace Sql

/-- Which question marks of a text are placeholders: all of them, or those outside of quotes and comments. -/
inductive MarkRule
  | everywhere
  | outside

/-- Where in a text a reader is: outside of quotes and comments, maybe behind a character that could begin a comment; within
quotes; or in a comment up to the end of the line or in one with an end of its own, maybe behind a star that could begin that. -/
inductive Zone
  | plain
  | dash
  | slash
  | quoted (mark : Char)
  | line
  | block
  | star
deriving DecidableEq

namespace Zone

def opened (c : Char) : Zone :=
  -- Brackets of the square kind are quotes for names.
  if isQuote c then quoted c
  else if c = '[' then quoted ']'
  else if c = '-' then dash
  else if c = '/' then slash
  else plain

def next : Zone → Char → Zone
  -- A quote that is doubled within quotes ends them and opens them again.
  | plain, c => opened c
  | dash, c => if c = '-' then line else opened c
  | slash, c => if c = '*' then block else opened c
  | quoted mark, c => if c = mark then plain else quoted mark
  | line, c => if c = '\n' then plain else line
  | block, c => if c = '*' then star else block
  | star, c => if c = '/' then plain else if c = '*' then star else block

def isOutside : Zone → Bool
  | plain | dash | slash => true
  | quoted _ | line | block | star => false

end Zone

namespace MarkRule

def next : MarkRule → Zone → Char → Zone
  | everywhere, _, _ => .plain
  | outside, z, c => z.next c

def isSlot : MarkRule → Zone → Char → Bool
  | everywhere, _, c => c == '?'
  | outside, z, c => z.isOutside && c == '?'

end MarkRule

abbrev Filled := List (Char ⊕ Value)

def spelled (cs : List Char) : Filled := cs.map .inl

def fill (r : MarkRule) : Zone → List Char → List Value → Option Filled
  -- Every placeholder takes the next value, and in the end none is left and no quotes or comments are open.
  | z, [], vs => if z = .plain ∧ vs = [] then some [] else none
  | z, c :: cs, vs =>
    if r.isSlot z c then
      match vs with
      | [] => none
      | v :: vs => (fill r (r.next z c) cs vs).map (.inr v :: ·)
    else (fill r (r.next z c) cs vs).map (.inl c :: ·)

/-- Whether a text becomes a given one with its placeholders filled with some values. -/
def Fills (r : MarkRule) (s : String) (vs : List Value) (x : Filled) : Prop := fill r .plain s.toList vs = some x

def Fits (r : MarkRule) (s : String) (vs : List Value) : Prop := ∃ x, Fills r s vs x

variable {r : MarkRule}

theorem fill_slot {z : Zone} {c : Char} (h : r.isSlot z c = true) (cs : List Char) (v : Value) (vs : List Value) :
    fill r z (c :: cs) (v :: vs) = (fill r (r.next z c) cs vs).map (.inr v :: ·) := by
  rw [fill, if_pos h]

theorem fill_char {z : Zone} {c : Char} (h : r.isSlot z c = false) (cs : List Char) (vs : List Value) :
    fill r z (c :: cs) vs = (fill r (r.next z c) cs vs).map (.inl c :: ·) := by
  cases vs <;> rw [fill, if_neg (by rw [h]; exact Bool.false_ne_true)]

/-! Texts side by side. -/

/-- A template is filled part by part. -/
theorem fill_append {a b : List Char} {z : Zone} {vs ws : List Value} {x y : Filled} (ha : fill r z a vs = some x)
    (hb : fill r .plain b ws = some y) : fill r z (a ++ b) (vs ++ ws) = some (x ++ y) := by
  -- The first part ends outside of quotes and comments, which is where the second one is read from.
  induction a generalizing z vs x with
  | nil =>
    rw [fill] at ha
    split at ha
    · obtain ⟨rfl, rfl⟩ := ‹z = .plain ∧ vs = []›
      cases ha
      exact hb
    · cases ha
  | cons c a ih =>
    rw [List.cons_append]
    cases hslot : r.isSlot z c with
    | true =>
      cases vs with
      | nil =>
        rw [fill, if_pos hslot] at ha
        cases ha
      | cons v vs =>
        rw [fill_slot hslot] at ha
        obtain ⟨x', hx, rfl⟩ := Option.map_eq_some_iff.mp ha
        rw [List.cons_append, fill_slot hslot, ih hx]
        rfl
    | false =>
      rw [fill_char hslot] at ha
      obtain ⟨x', hx, rfl⟩ := Option.map_eq_some_iff.mp ha
      rw [fill_char hslot, ih hx]
      rfl

/-- Without values a text is left as it is. -/
theorem eq_spelled_of_fill {cs : List Char} {z : Zone} {x : Filled} (h : fill r z cs [] = some x) : x = spelled cs := by
  induction cs generalizing z x with
  | nil =>
    rw [fill] at h
    split at h
    · cases h
      rfl
    · cases h
  | cons c cs ih =>
    rw [fill] at h
    split at h
    · cases h
    · obtain ⟨x', hx, rfl⟩ := Option.map_eq_some_iff.mp h
      rw [ih hx]
      rfl

section Append

variable {s t : String} {vs ws : List Value} {x y : Filled}

theorem Fills.append (hs : Fills r s vs x) (ht : Fills r t ws y) : Fills r (s ++ t) (vs ++ ws) (x ++ y) := by
  unfold Fills
  rw [String.toList_append]
  exact fill_append hs ht

theorem Fits.append (hs : Fits r s vs) (ht : Fits r t ws) : Fits r (s ++ t) (vs ++ ws) := by
  obtain ⟨x, hx⟩ := hs
  obtain ⟨y, hy⟩ := ht
  exact ⟨_, hx.append hy⟩

theorem Fits.fills (h : Fits r s []) : Fills r s [] (spelled s.toList) := by
  obtain ⟨x, hx⟩ := h
  rwa [eq_spelled_of_fill hx] at hx

/-- For a text that is written out: its characters are gone through one by one. -/
theorem fits_literal {cs : List Char} (h : (fill r .plain cs vs).isSome) : Fits r (String.ofList cs) vs := by
  obtain ⟨x, hx⟩ := Option.isSome_iff_exists.mp h
  refine ⟨x, ?_⟩
  rwa [Fills, String.toList_ofList]

section Intercalate

variable {α : Type} {f : α → String} {g : α → List Value} {l : List α}

/-- Parts that can be filled one by one can all be filled. -/
theorem exists_fills (h : ∀ a ∈ l, Fits r (f a) (g a)) : ∃ xs, List.Forall₂ (fun a x => Fills r (f a) (g a) x) l xs := by
  induction l with
  | nil => exact ⟨[], .nil⟩
  | cons a l ih =>
    obtain ⟨⟨x, hx⟩, hrest⟩ := List.forall_mem_cons.mp h
    obtain ⟨xs, hxs⟩ := ih hrest
    exact ⟨x :: xs, .cons hx hxs⟩

variable {sep : String} (hsep : Fits r sep [])

include hsep

/-- Parts that are joined by a separator are filled one by one. -/
theorem fills_intercalate {xs : List Filled} (h : List.Forall₂ (fun a x => Fills r (f a) (g a) x) l xs) :
    Fills r (sep.intercalate (l.map f)) (l.flatMap g) ((spelled sep.toList).intercalate xs) := by
  induction h with
  | nil => cases r <;> rfl
  | cons hx hrest ih =>
    cases hrest with
    | nil =>
      rw [List.map_singleton, String.intercalate_singleton, List.flatMap_singleton, List.intercalate_singleton]
      exact hx
    | cons hy hrest =>
      rw [List.map_cons, List.map_cons, String.intercalate_cons_cons, List.intercalate_cons_cons, List.flatMap_cons]
      have hfront := hx.append hsep.fills
      rw [List.append_nil] at hfront
      exact hfront.append ih

theorem fits_intercalate (h : ∀ a ∈ l, Fits r (f a) (g a)) : Fits r (sep.intercalate (l.map f)) (l.flatMap g) := by
  obtain ⟨xs, hxs⟩ := exists_fills h
  exact ⟨_, fills_intercalate hsep hxs⟩

theorem fits_intercalate_plain (h : ∀ a ∈ l, Fits r (f a) []) : Fits r (sep.intercalate (l.map f)) [] := by
  have hall := fits_intercalate hsep h
  rwa [List.flatMap_eq_nil_iff.mpr fun _ _ => rfl] at hall

end Intercalate

end Append

/-! Texts without quotes, comments and placeholders. -/

def isInert (c : Char) : Bool := c != '?' && !isQuote c && c != '[' && c != '-' && c != '/'

/-- A text of inert characters has no place to fill. -/
theorem fits_of_inert {s : String} (h : s.toList.all isInert = true) : Fits r s [] := by
  have hall : ∀ cs : List Char, cs.all isInert = true → (fill r .plain cs []).isSome := by
    intro cs hcs
    induction cs with
    | nil => rfl
    | cons c cs ih =>
      rw [List.all_cons, Bool.and_eq_true] at hcs
      obtain ⟨hc, hrest⟩ := hcs
      simp only [isInert, Bool.and_eq_true, bne_iff_ne, ne_eq, Bool.not_eq_true'] at hc
      obtain ⟨⟨⟨⟨hmark, hquote⟩, hbracket⟩, hdash⟩, hslash⟩ := hc
      have hslot : r.isSlot .plain c = false := by cases r <;> simp [MarkRule.isSlot, hmark]
      have hnext : r.next .plain c = .plain := by
        cases r <;> simp [MarkRule.next, Zone.next, Zone.opened, hquote, hbracket, hdash, hslash]
      rw [fill_char hslot, hnext, Option.isSome_map]
      exact ih hrest
  have hs := fits_literal (hall _ h)
  rwa [String.ofList_toList] at hs

/-- The characters of a name are inert. -/
theorem isInert_of_isNameChar {c : Char} (h : isNameChar c = true) : isInert c = true := by
  have hne : ∀ d : Char, isNameChar d = false → c ≠ d := by
    rintro d hd rfl
    rw [h] at hd
    cases hd
  have hquote : isQuote c = false := by
    simp [isQuote, hne '"' rfl, hne '\'' rfl, hne '`' rfl]
  simp [isInert, hquote, hne '?' rfl, hne '[' rfl, hne '-' rfl, hne '/' rfl]

theorem isInert_of_isName {cs : List Char} (h : isName cs = true) : cs.all isInert = true := by
  rw [List.all_eq_true]
  intro c hc
  rcases isNameChar_or_newline h c hc with hc | rfl
  · exact isInert_of_isNameChar hc
  · rfl

theorem Alias.isNameChar_of_sub (n : Nat) : ∀ c ∈ (Alias.sub n).text.toList, isNameChar c = true := by
  rw [Alias.toList_sub]
  refine List.forall_mem_cons.mpr ⟨rfl, ?_⟩
  intro c hc
  have hdigit : c.isDigit = true := Nat.isDigit_of_mem_toDigits (by decide) (by decide) hc
  simp [isNameChar, Char.isAlphanum, hdigit]

theorem Alias.fits_sub (n : Nat) : Fits r (Alias.sub n).text [] :=
  fits_of_inert (List.all_eq_true.mpr fun c hc => isInert_of_isNameChar (isNameChar_of_sub n c hc))

/-! Names, columns and conditions. -/

/-- Whatever stands in the quotes of a name is read as the name. -/
theorem Name.fits_quoted (n : Name) : Fits r n.quoted [] := by
  have hmark : '?' ∉ n.text.toList := n.noMark_text
  have hquote := n.quote_notMem_text
  have hlist : n.quoted.toList = '"' :: (n.text.toList ++ ['"']) := by
    rw [Name.quoted, String.toList_append, String.toList_append]
    rfl
  -- The zone between the quotes stays what it is up to the last one.
  have hwithin : ∀ cs : List Char, '?' ∉ cs → '"' ∉ cs → ∀ z, z = r.next .plain '"' → (fill r z (cs ++ ['"']) []).isSome := by
    intro cs hmark hquote
    induction cs with
    | nil =>
      rintro _ rfl
      cases r <;> rfl
    | cons c cs ih =>
      rintro _ rfl
      rw [List.mem_cons, not_or] at hmark hquote
      have hc : c ≠ '?' := Ne.symm hmark.1
      have hslot : r.isSlot (r.next .plain '"') c = false := by cases r <;> simp [MarkRule.isSlot, hc]
      have hnext : r.next (r.next .plain '"') c = r.next .plain '"' := by
        cases r with
        | everywhere => rfl
        | outside => exact if_neg (Ne.symm hquote.1)
      rw [List.cons_append, fill_char hslot, hnext, Option.isSome_map]
      exact ih hmark.2 hquote.2 _ rfl
  have hopen : r.isSlot .plain '"' = false := by cases r <;> rfl
  have hsome : (fill r .plain n.quoted.toList []).isSome := by
    rw [hlist, fill_char hopen, Option.isSome_map]
    exact hwithin _ hmark hquote _ rfl
  obtain ⟨x, hx⟩ := Option.isSome_iff_exists.mp hsome
  exact ⟨x, hx⟩

theorem Term.fits_column {row : Alias} (hrow : Fits r row.text []) (n : Name) : Fits r (Term.column row n).text [] :=
  (hrow.append (fits_of_inert rfl : Fits r "." [])).append n.fits_quoted

/-- A question mark among texts that have none takes a value. -/
theorem fits_comparison {term : String} (hterm : Fits r term []) (k : Comparison) (v : Value) : Fits r (k.text term) [v] := by
  have hend : ∀ cs : List Char, (fill r .plain cs [v]).isSome → Fits r (term ++ String.ofList cs) [v] := by
    intro cs hcs
    exact hterm.append (fits_literal hcs)
  cases k with
  | ilike =>
    have hlower : Fits r "LOWER(" [] := fits_of_inert rfl
    have hclose : Fits r ") LIKE LOWER(?)" [v] := fits_literal (by cases r <;> rfl)
    exact (hlower.append hterm).append hclose
  | _ => exact hend _ (by cases r <;> rfl)

theorem fits_placeholders (operands : List Value) : Fits r (placeholders operands) operands := by
  have hcomma : Fits r ", " [] := fits_of_inert rfl
  have hmark : ∀ v, Fits r "?" [v] := fun v => fits_literal (by cases r <;> rfl)
  have hparts := fits_intercalate hcomma fun v (_ : v ∈ operands) => hmark v
  rwa [List.flatMap_singleton'] at hparts

namespace Condition

def Plain (r : MarkRule) (t : Term) : Prop := Fits r t.text []

theorem fits_brackets {s : String} {vs : List Value} (h : Fits r s vs) : Fits r ("(" ++ s ++ ")") vs := by
  have hopen : Fits r "(" [] := fits_of_inert rfl
  have hclose : Fits r ")" [] := fits_of_inert rfl
  have hall := (hopen.append h).append hclose
  rwa [List.nil_append, List.append_nil] at hall

theorem paramsOf_eq_flatMap (cs : List Condition) : paramsOf cs = cs.flatMap params := by
  induction cs with
  | nil => rfl
  | cons c cs ih => rw [paramsOf, ih, List.flatMap_cons]

mutual

/-- The placeholders of a condition take its operands. -/
theorem fits_text : (c : Condition) → c.Over (Plain r) → Fits r c.text c.params
  | always, _ => (fits_of_inert rfl : Fits r "1 = 1" [])
  | never, _ => (fits_of_inert rfl : Fits r "1 = 0" [])
  | compare k t v, h => fits_comparison h k v
  | isNull negated t, h => by
    have hend : Fits r (if negated then " IS NOT NULL" else " IS NULL") [] := by
      cases negated <;> exact fits_of_inert rfl
    exact Fits.append h hend
  | among negated t operands, h => by
    have hopen : Fits r (if negated then " NOT IN (" else " IN (") [] := by
      cases negated <;> exact fits_of_inert rfl
    have hclose : Fits r ")" [] := fits_of_inert rfl
    have hall := ((Fits.append h hopen).append (fits_placeholders operands)).append hclose
    rwa [List.nil_append, List.nil_append, List.append_nil] at hall
  | all parts, h => by
    have hand : Fits r " AND " [] := fits_of_inert rfl
    have hall := fits_brackets (fits_intercalate hand (fits_texts parts h))
    rwa [← texts_eq_map, ← paramsOf_eq_flatMap] at hall
  | any parts, h => by
    have hor : Fits r " OR " [] := fits_of_inert rfl
    have hall := fits_brackets (fits_intercalate hor (fits_texts parts h))
    rwa [← texts_eq_map, ← paramsOf_eq_flatMap] at hall
  | not part, h => by
    have hopen : Fits r "NOT (" [] := fits_of_inert rfl
    have hclose : Fits r ")" [] := fits_of_inert rfl
    have hall := (hopen.append (fits_text part h)).append hclose
    rwa [List.nil_append, List.append_nil] at hall
  | within negated t column table row condition, h => by
    obtain ⟨ht, hcolumn, ⟨n, rfl⟩, hcondition⟩ := h
    have hopen : Fits r (if negated then " NOT IN (SELECT " else " IN (SELECT ") [] := by
      cases negated <;> exact fits_of_inert rfl
    have hfrom : Fits r " FROM " [] := fits_of_inert rfl
    have has : Fits r " AS " [] := fits_of_inert rfl
    have hwhere : Fits r " WHERE " [] := fits_of_inert rfl
    have hclose : Fits r ")" [] := fits_of_inert rfl
    -- The operands of the nested condition are the only ones: all that stands around it is inert.
    have hhead := (((Fits.append ht hopen).append hcolumn).append hfrom).append table.fits_quoted
    have hall := ((((hhead.append has).append (Alias.fits_sub n)).append hwhere).append
      (fits_text condition hcondition)).append hclose
    rw [text, params]
    simpa only [List.nil_append, List.append_nil] using hall

theorem fits_texts : (parts : List Condition) → AllOver (Plain r) parts → ∀ part ∈ parts, Fits r part.text part.params
  | [], _ => nofun
  | part :: rest, h => List.forall_mem_cons.mpr ⟨fits_text part h.1, fits_texts rest h.2⟩

end

end Condition

/-! Formulas, put for rows that are named by words. -/

namespace Zone

def Firm : Zone → Prop
  | quoted mark => isNameChar mark = false
  | _ => True

theorem firm_opened (c : Char) : (opened c).Firm := by
  unfold opened
  split
  · rename_i hquote
    simp only [isQuote, Bool.or_eq_true, beq_iff_eq] at hquote
    rcases hquote with (rfl | rfl) | rfl <;> rfl
  split
  · rfl
  split
  · trivial
  split <;> trivial

/-- A character leaves a firm state firm. -/
theorem Firm.next {z : Zone} (h : z.Firm) (c : Char) : (z.next c).Firm := by
  cases z with
  | plain => exact firm_opened c
  | dash | slash =>
    rw [Zone.next]
    split
    · trivial
    · exact firm_opened c
  | quoted mark =>
    rw [Zone.next]
    split
    · trivial
    · exact h
  | line | block =>
    rw [Zone.next]
    split <;> trivial
  | star =>
    rw [Zone.next]
    split
    · trivial
    split <;> trivial

/-- A character of a word leads where every other one does, and there it goes on. -/
theorem Firm.next_word {z : Zone} (h : z.Firm) {c : Char} (hc : isNameChar c = true) :
    z.next c = z.next 'a' ∧ (z.next 'a').next c = z.next 'a' := by
  have hne : ∀ d : Char, isNameChar d = false → c ≠ d := by
    rintro d hd rfl
    rw [hc] at hd
    cases hd
  have hopened : opened c = plain := by
    have hquote : isQuote c = false := by simp [isQuote, hne '"' rfl, hne '\'' rfl, hne '`' rfl]
    simp [opened, hquote, hne '[' rfl, hne '-' rfl, hne '/' rfl]
  cases z with
  | plain => exact ⟨hopened, hopened⟩
  | dash => exact ⟨(if_neg (hne '-' rfl)).trans hopened, hopened⟩
  | slash => exact ⟨(if_neg (hne '*' rfl)).trans hopened, hopened⟩
  | quoted mark =>
    have ha : (quoted mark).next 'a' = quoted mark := by
      refine if_neg ?_
      rintro rfl
      cases h
    rw [ha]
    exact ⟨if_neg (hne mark h), if_neg (hne mark h)⟩
  | line => exact ⟨if_neg (hne '\n' rfl), if_neg (hne '\n' rfl)⟩
  | block => exact ⟨if_neg (hne '*' rfl), if_neg (hne '*' rfl)⟩
  | star => exact ⟨(if_neg (hne '/' rfl)).trans (if_neg (hne '*' rfl)), if_neg (hne '*' rfl)⟩

end Zone

def Stands (r : MarkRule) (z : Zone) (cs : List Char) : Prop := (fill r z cs []).isSome

/-- A text stands as it is if its first character is no place to fill and the rest stands behind it. -/
theorem stands_cons {z : Zone} {c : Char} {cs : List Char} :
    Stands r z (c :: cs) ↔ r.isSlot z c = false ∧ Stands r (r.next z c) cs := by
  unfold Stands
  cases hslot : r.isSlot z c with
  | true =>
    rw [fill, if_pos hslot]
    simp
  | false =>
    rw [fill_char hslot, Option.isSome_map]
    simp

/-- One word is as good as another. -/
theorem stands_word {z : Zone} (hz : z.Firm) {w : List Char} (hne : w ≠ []) (hw : ∀ c ∈ w, isNameChar c = true)
    (cs : List Char) : Stands r z (w ++ cs) ↔ Stands r z ('a' :: cs) := by
  have hslot : ∀ z c, isNameChar c = true → r.isSlot z c = false := by
    intro z c hc
    have hmark : c ≠ '?' := by
      rintro rfl
      cases hc
    cases r <;> simp [MarkRule.isSlot, hmark]
  have hgo : ∀ z' : Zone, (∀ c, isNameChar c = true → r.next z' c = z') → ∀ w : List Char,
      (∀ c ∈ w, isNameChar c = true) → (Stands r z' (w ++ cs) ↔ Stands r z' cs) := by
    intro z' hstay w hw
    induction w with
    | nil => rfl
    | cons c w ih =>
      obtain ⟨hc, hrest⟩ := List.forall_mem_cons.mp hw
      rw [List.cons_append, stands_cons, hstay c hc, ih hrest, hslot z' c hc]
      simp
  obtain ⟨c, w, rfl⟩ := List.exists_cons_of_ne_nil hne
  obtain ⟨hc, hrest⟩ := List.forall_mem_cons.mp hw
  have hnext : r.next z c = r.next z 'a' ∧ ∀ d, isNameChar d = true → r.next (r.next z 'a') d = r.next z 'a' := by
    cases r with
    | everywhere => exact ⟨rfl, fun _ _ => rfl⟩
    | outside => exact ⟨(hz.next_word hc).1, fun d hd => (hz.next_word hd).2⟩
  rw [List.cons_append, stands_cons, stands_cons, hslot z c hc, hslot z 'a' rfl, hnext.1, hgo _ hnext.2 w hrest]

/-- A template that can be filled for one row can be for every other. -/
theorem stands_fill {row : List Char} (hne : row ≠ []) (hrow : ∀ c ∈ row, isNameChar c = true) (cs : List Char) :
    ∀ z : Zone, z.Firm → Stands r z (Template.fill ['a'] cs) → Stands r z (Template.fill row cs) := by
  have hnext : ∀ (z : Zone) (c : Char), z.Firm → (r.next z c).Firm := by
    intro z c hz
    cases r with
    | everywhere => trivial
    | outside => exact hz.next c
  have hcons : ∀ (c : Char) (front back : List Char), (∀ z : Zone, z.Firm → Stands r z front → Stands r z back) →
      ∀ z : Zone, z.Firm → Stands r z (c :: front) → Stands r z (c :: back) := by
    intro c front back ih z hz h
    obtain ⟨hslot, h⟩ := stands_cons.mp h
    exact stands_cons.mpr ⟨hslot, ih _ (hnext z c hz) h⟩
  fun_induction Template.fill row cs with
  | case1 => exact fun _ _ h => h
  | case2 rest ih | case3 rest ih => exact hcons _ _ _ ih
  | case4 rest ih =>
    intro z hz h
    exact (stands_word hz hne hrow _).mpr (hcons 'a' _ _ ih z hz h)
  | case5 c rest hopen hclose halias ih =>
    rw [Template.fill]
    · exact hcons c _ _ ih
    · exact hopen
    · exact hclose
    · exact halias

end Sql

open Sql

/-- Whether the formulas of an entity are written without placeholders of values for some rows. -/
def Entity.PlainFormulas (r : MarkRule) (Rows : Alias → Prop) (e : Entity) : Prop :=
  ∀ f ∈ e.formulas, ∀ row, Rows row → ∀ text, f.render row.text = .ok text → Fits r text []

theorem Schema.provides_plain {s : Schema} {r : MarkRule} {Rows : Alias → Prop} (hsub : ∀ n, Rows (.sub n))
    (hrows : ∀ row, Rows row → Fits r row.text []) (h : ∀ e ∈ s.entities, e.PlainFormulas r Rows) :
    s.Provides Rows (Condition.Plain r) := by
  refine ⟨hsub, fun row hrow name => Term.fits_column (hrows row hrow) name, ?_⟩
  intro e he f hf row hrow t ht
  obtain ⟨text, htext, rfl⟩ := Except.map_ok ht
  exact h e he f hf row hrow text htext

/-- For formulas whose only placeholder is that of the row: they are gone through once, for a row of one letter. -/
theorem Formula.fits_render {f : Formula} (honly : Template.aliasOnly f.sql.toList = true)
    (h : (fill r .plain (Template.fill ['a'] f.sql.toList) []).isSome = true) {row text : String} (hne : row.toList ≠ [])
    (hrow : ∀ c ∈ row.toList, isNameChar c = true) (htext : f.render row = .ok text) : Fits r text [] := by
  rw [Formula.render_eq honly] at htext
  cases htext
  exact fits_literal (stands_fill hne hrow f.sql.toList .plain trivial h)

end EntityViews
