import EntityViews.Sql.Name
import Mathlib.Data.List.Forall2

/-!
SQL texts as words and signs, and these as items nested by brackets. Main statements: texts that are put side by side read
as what each of them reads as, unless a word of one runs on into the other, and a text in brackets reads as one item.
-/

namespace EntityViews.Sql

inductive Token
  | word (chars : List Char)
  | quoted (mark : Char) (chars : List Char)
  | sign (c : Char)
deriving DecidableEq

inductive Pending
  | gap
  | word (chars : List Char)
  | quoted (mark : Char) (chars : List Char)

def isWordChar (c : Char) : Bool :=
  -- Beyond ASCII every character counts as a letter.
  isNameChar c || c == '$' || 128 ≤ c.toNat

def isQuote (c : Char) : Bool := c == '"' || c == '\'' || c == '`'

namespace Pending

def opened (c : Char) : List Token × Pending :=
  if isWordChar c then ([], word [c])
  else if isQuote c then ([], quoted c [])
  else if c.isWhitespace then ([], gap)
  else ([.sign c], gap)

def next : Pending → Char → List Token × Pending
  -- A quote that is doubled within quotes reads as two quoted texts side by side.
  | gap, c => opened c
  | word chars, c =>
    if isWordChar c then ([], word (chars ++ [c])) else (.word chars :: (opened c).1, (opened c).2)
  | quoted mark chars, c => if c = mark then ([.quoted mark chars], gap) else ([], quoted mark (chars ++ [c]))

def close : Pending → Option (List Token)
  -- No quotes may be open here.
  | gap => some []
  | word chars => some [.word chars]
  | quoted _ _ => none

def advance : Pending → List Char → List Token × Pending
  | p, [] => ([], p)
  | p, c :: cs => ((p.next c).1 ++ (advance (p.next c).2 cs).1, (advance (p.next c).2 cs).2)

end Pending

def tokens (cs : List Char) : Option (List Token) :=
  (Pending.gap.advance cs).2.close.map ((Pending.gap.advance cs).1 ++ ·)

/-- A token outside all brackets, or what is between two brackets that belong together. -/
inductive Item
  | token (t : Token)
  | group (items : List Item)

def Token.nested (levels : List (List Item)) (t : Token) : Option (List (List Item)) :=
  -- The innermost of the open levels comes first.
  match t, levels with
  | .sign '(', levels => some ([] :: levels)
  | .sign ')', inner :: outer :: rest => some ((outer ++ [.group inner]) :: rest)
  | .sign ')', _ => none
  | t, inner :: rest => some ((inner ++ [.token t]) :: rest)
  | _, [] => none

def nest (ts : List Token) : Option (List Item) :=
  match ts.foldlM Token.nested [[]] with
  | some [items] => some items
  | _ => none

def items (s : String) : Option (List Item) := (tokens s.toList).bind nest

/-! Texts side by side. -/

section Append

variable {a b : List Char}

theorem Pending.advance_append (p : Pending) (a b : List Char) :
    p.advance (a ++ b) = ((p.advance a).1 ++ ((p.advance a).2.advance b).1, ((p.advance a).2.advance b).2) := by
  induction a generalizing p with
  | nil => rfl
  | cons c a ih => simp only [List.cons_append, advance, ih, List.append_assoc]

theorem Pending.opened_ne_word {c : Char} (hc : isWordChar c = false) (w : List Char) : (opened c).2 ≠ .word w := by
  unfold opened
  rw [if_neg (by rw [hc]; exact Bool.false_ne_true)]
  split
  · nofun
  split <;> nofun

/-- A word goes on only after one of its characters. -/
theorem Pending.isWordChar_of_next {p : Pending} {c : Char} {w : List Char} (h : (p.next c).2 = .word w) :
    isWordChar c = true := by
  cases hc : isWordChar c with
  | true => rfl
  | false =>
    exfalso
    cases p with
    | gap => exact opened_ne_word hc w h
    | word chars =>
      rw [next, if_neg (by rw [hc]; exact Bool.false_ne_true)] at h
      exact opened_ne_word hc w h
    | quoted mark chars =>
      rw [next] at h
      split at h <;> cases h

theorem notWord_of_all {found : Option Char} (h : (found.all fun c => !isWordChar c) = true) :
    ∀ c ∈ found, isWordChar c = false := by
  rintro c rfl
  simpa using h

def Apart (a b : List Char) : Prop := (∀ c ∈ a.getLast?, isWordChar c = false) ∨ ∀ c ∈ b.head?, isWordChar c = false

/-- Texts that are apart are split into the tokens of both. -/
theorem tokens_append (hapart : Apart a b) {ts us : List Token} (ha : tokens a = some ts) (hb : tokens b = some us) :
    tokens (a ++ b) = some (ts ++ us) := by
  unfold tokens at ha hb ⊢
  rw [Pending.advance_append]
  generalize hq : (Pending.gap.advance a).2 = q at ha
  obtain ⟨vs, hclose, rfl⟩ := Option.map_eq_some_iff.mp ha
  cases q with
  | quoted mark chars => cases hclose
  | gap =>
    cases hclose
    obtain ⟨ws, hws, rfl⟩ := Option.map_eq_some_iff.mp hb
    simp only [hws, Option.map_some, List.append_nil, List.append_assoc]
  | word w =>
    cases hclose
    -- A word is still being read, so the second text has to end it.
    have hhead : ∀ c ∈ b.head?, isWordChar c = false := by
      refine hapart.resolve_left fun hlast => ?_
      obtain rfl | ⟨front, c, rfl⟩ := List.eq_nil_or_concat a
      · cases hq
      · rw [List.concat_eq_append, Pending.advance_append] at hq
        have hc := Pending.isWordChar_of_next (p := (Pending.gap.advance front).2) hq
        rw [hlast c (by simp)] at hc
        cases hc
    cases b with
    | nil =>
      cases hb
      simp [Pending.advance, Pending.close]
    | cons c b =>
      have hc : isWordChar c = false := hhead c rfl
      have hnext : (Pending.word w).next c = (.word w :: (Pending.opened c).1, (Pending.opened c).2) := by
        rw [Pending.next, if_neg (by rw [hc]; exact Bool.false_ne_true)]
      obtain ⟨ws, hws, rfl⟩ := Option.map_eq_some_iff.mp hb
      have hgap : Pending.gap.next c = Pending.opened c := rfl
      simp only [Pending.advance, hgap] at hws
      simp only [Pending.advance, hnext, hgap, hws, Option.map_some, List.append_assoc, List.cons_append, List.nil_append]

end Append

/-! Tokens within further brackets. -/

section Nest

def under (front : List Item) (base : List (List Item)) : List (List Item) → List (List Item)
  | [] => base
  | [lowest] => (front ++ lowest) :: base
  | level :: next :: rest => level :: under front base (next :: rest)

/-- The levels below those that a token changes are of no account to it. -/
theorem nested_under {levels after : List (List Item)} {t : Token} (hne : levels ≠ []) (h : t.nested levels = some after)
    (front : List Item) (base : List (List Item)) :
    after ≠ [] ∧ t.nested (under front base levels) = some (under front base after) := by
  unfold Token.nested at h
  split at h
  · obtain rfl := Option.some.inj h
    refine ⟨nofun, ?_⟩
    cases levels with
    | nil => exact absurd rfl hne
    | cons level rest => rfl
  · rename_i inner outer rest
    obtain rfl := Option.some.inj h
    refine ⟨nofun, ?_⟩
    -- The bracket that ends lies above the lowest level, which may be the one that it is put into.
    cases rest with
    | nil => simp only [under, Token.nested, List.append_assoc]
    | cons next rest => rfl
  · cases h
  · rename_i inner rest hopen _ hclose
    obtain rfl := Option.some.inj h
    refine ⟨nofun, ?_⟩
    have hword : ∀ level below, t.nested (level :: below) = some ((level ++ [.token t]) :: below) := by
      intro level below
      unfold Token.nested
      split <;> simp_all
    cases rest with
    | nil => rw [under, hword, under, List.append_assoc]
    | cons next rest => exact hword _ _
  · cases h

/-- Brackets close within the level that was open before, so that nesting goes on under any levels. -/
theorem foldlM_nested_under {ts : List Token} {levels after : List (List Item)} (hne : levels ≠ [])
    (h : ts.foldlM Token.nested levels = some after) (front : List Item) (base : List (List Item)) :
    ts.foldlM Token.nested (under front base levels) = some (under front base after) := by
  induction ts generalizing levels with
  | nil =>
    cases h
    rfl
  | cons t ts ih =>
    rw [List.foldlM_cons] at h ⊢
    obtain ⟨middle, hstep, h⟩ := Option.bind_eq_some_iff.mp h
    obtain ⟨hmiddle, hunder⟩ := nested_under hne hstep front base
    rw [hunder]
    exact ih hmiddle h

theorem nest_eq_some {ts : List Token} {is : List Item} (h : nest ts = some is) :
    ts.foldlM Token.nested [[]] = some [is] := by
  unfold nest at h
  split at h
  · rename_i heq
    cases h
    exact heq
  · cases h

/-- Tokens that nest by themselves nest side by side. -/
theorem nest_append {ts us : List Token} {is js : List Item} (hts : nest ts = some is) (hus : nest us = some js) :
    nest (ts ++ us) = some (is ++ js) := by
  have hrest := foldlM_nested_under (List.cons_ne_nil _ _) (nest_eq_some hus) is []
  rw [under, under, List.append_nil] at hrest
  unfold nest
  rw [List.foldlM_append, nest_eq_some hts]
  show (match us.foldlM Token.nested [is] with | some [items] => some items | _ => none) = _
  rw [hrest]

/-- In brackets they are one group. -/
theorem nest_brackets {ts : List Token} {is : List Item} (hts : nest ts = some is) :
    nest (.sign '(' :: ts ++ [.sign ')']) = some [.group is] := by
  have hinner := foldlM_nested_under (List.cons_ne_nil _ _) (nest_eq_some hts) [] [[]]
  rw [under, under, List.nil_append] at hinner
  unfold nest
  rw [List.foldlM_append, List.foldlM_cons]
  show (match (ts.foldlM Token.nested [[], []]).bind ([.sign ')'].foldlM Token.nested) with
    | some [items] => some items
    | _ => none) = _
  rw [hinner]
  rfl

end Nest

/-! The items of texts. -/

section Items

variable {s t : String} {is js : List Item}

/-- For a text that is written out: its characters are gone through one by one. -/
theorem items_literal {cs : List Char} (h : (tokens cs).bind nest = some is) : items (String.ofList cs) = some is := by
  rw [items, String.toList_ofList]
  exact h

theorem items_append (hapart : Apart s.toList t.toList) (hs : items s = some is) (ht : items t = some js) :
    items (s ++ t) = some (is ++ js) := by
  obtain ⟨ts, hts, hs⟩ := Option.bind_eq_some_iff.mp hs
  obtain ⟨us, hus, ht⟩ := Option.bind_eq_some_iff.mp ht
  rw [items, String.toList_append, tokens_append hapart hts hus]
  exact nest_append hs ht

/-- Two texts with something between them that no word runs into. -/
theorem items_spaced {u : String} {ks : List Item} (hs : items s = some is) (hu : items u = some js)
    (ht : items t = some ks) (hne : u.toList ≠ []) (hhead : ∀ c ∈ u.toList.head?, isWordChar c = false)
    (hlast : ∀ c ∈ u.toList.getLast?, isWordChar c = false) :
    items (s ++ u ++ t) = some (is ++ js ++ ks) := by
  have hfront : items (s ++ u) = some (is ++ js) := items_append (.inr hhead) hs hu
  refine items_append (.inl ?_) hfront ht
  have hc := List.getLast?_eq_some_getLast hne
  rw [String.toList_append, List.getLast?_append, hc, Option.some_or]
  rwa [hc] at hlast

/-- Texts with one between any two of them that no word runs into. -/
theorem items_intercalate {u : String} (hu : items u = some js) (hne : u.toList ≠ [])
    (hhead : ∀ c ∈ u.toList.head?, isWordChar c = false) (hlast : ∀ c ∈ u.toList.getLast?, isWordChar c = false)
    {ss : List String} {iss : List (List Item)} (h : List.Forall₂ (fun s is => items s = some is) ss iss) :
    items (u.intercalate ss) = some (js.intercalate iss) := by
  induction h with
  | nil =>
    have hnil : items (String.ofList []) = some [] := items_literal rfl
    exact hnil
  | cons hs hrest ih =>
    cases hrest with
    | nil =>
      rw [String.intercalate_singleton, List.intercalate_singleton]
      exact hs
    | cons ht hrest =>
      rw [String.intercalate_cons_cons, List.intercalate_cons_cons]
      exact items_spaced hs hu ih hne hhead hlast

/-- No word runs into brackets. -/
theorem apart_brackets (a : List Char) (s : String) : Apart a ("(" ++ s ++ ")").toList := by
  refine .inr ?_
  intro c hc
  have hlist : ("(" ++ s ++ ")").toList = '(' :: (s.toList ++ [')']) := by
    rw [String.toList_append, String.toList_append]
    rfl
  rw [hlist] at hc
  cases hc
  rfl

/-- A text in brackets is one group of its items. -/
theorem items_brackets (hs : items s = some is) : items ("(" ++ s ++ ")") = some [.group is] := by
  obtain ⟨ts, hts, hs⟩ := Option.bind_eq_some_iff.mp hs
  have hopen : tokens ['('] = some [.sign '('] := rfl
  have hclose : tokens [')'] = some [.sign ')'] := rfl
  have hfront : tokens (['('] ++ s.toList) = some ([.sign '('] ++ ts) :=
    tokens_append (.inl (by simp; decide)) hopen hts
  have hall : tokens (['('] ++ s.toList ++ [')']) = some ([.sign '('] ++ ts ++ [.sign ')']) :=
    tokens_append (.inr (by simp; decide)) hfront hclose
  have hlist : ("(" ++ s ++ ")").toList = ['('] ++ s.toList ++ [')'] := by
    simp only [String.toList_append]
    rfl
  rw [items, hlist, hall]
  exact nest_brackets hs

end Items

end EntityViews.Sql
