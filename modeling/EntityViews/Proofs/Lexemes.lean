import EntityViews.Proofs.Phrasing
import EntityViews.Proofs.Numerals

/-!
SQL texts as a database takes them apart: with comments, names in quotes and brackets, and texts in which a quote is
doubled. Main statements: texts side by side read as what each of them reads as if what comes second begins with a character
that ends whatever is read, and a text in quotes reads as one lexeme, whatever is in it.
-/

namespace EntityViews.Sql

/-- A keyword or a name without quotes, a numeral, a name or a text whose quotes are undone, or any other character. -/
inductive Lexeme
  | word (s : String)
  | number (s : String)
  | name (s : String)
  | text (s : String)
  | sign (c : Char)
deriving DecidableEq

inductive Scan
  | gap
  | word (chars : List Char)
  | number (chars : List Char)
  | quoted (mark : Char) (chars : List Char)
  /-- Right behind a mark within quotes: it ends them unless it comes twice. -/
  | ending (mark : Char) (chars : List Char)
  | bracketed (chars : List Char)
  | dash
  | slash
  /-- Within a comment up to the end of the line. -/
  | line
  /-- Within a comment up to a star and a slash. -/
  | block
  | star
deriving DecidableEq

def Lexeme.ofQuoted (mark : Char) (chars : List Char) : Lexeme :=
  if mark = '\'' then text (String.ofList chars) else name (String.ofList chars)

namespace Scan

def opened (c : Char) : List Lexeme × Scan :=
  if c.isDigit then ([], number [c])
  else if isWordChar c then ([], word [c])
  else if isQuote c then ([], quoted c [])
  else if c = '[' then ([], bracketed [])
  else if c = '-' then ([], dash)
  else if c = '/' then ([], slash)
  else if c.isWhitespace || c == '\x0c' then ([], gap)
  else ([.sign c], gap)

def after (l : Lexeme) (c : Char) : List Lexeme × Scan := (l :: (opened c).1, (opened c).2)

def next : Scan → Char → List Lexeme × Scan
  | gap, c => opened c
  | word chars, c => if isWordChar c then ([], word (chars ++ [c])) else after (.word (String.ofList chars)) c
  | number chars, c =>
    if isWordChar c || c == '.' then ([], number (chars ++ [c])) else after (.number (String.ofList chars)) c
  | quoted mark chars, c => if c = mark then ([], ending mark chars) else ([], quoted mark (chars ++ [c]))
  | ending mark chars, c => if c = mark then ([], quoted mark (chars ++ [c])) else after (.ofQuoted mark chars) c
  | bracketed chars, c => if c = ']' then ([.name (String.ofList chars)], gap) else ([], bracketed (chars ++ [c]))
  | dash, c => if c = '-' then ([], line) else after (.sign '-') c
  | slash, c => if c = '*' then ([], block) else after (.sign '/') c
  | line, c => ([], if c = '\n' then gap else line)
  | block, c => ([], if c = '*' then star else block)
  | star, c => ([], if c = '/' then gap else if c = '*' then star else block)

def close : Scan → Option (List Lexeme)
  | gap | line => some []
  | word chars => some [.word (String.ofList chars)]
  | number chars => some [.number (String.ofList chars)]
  | ending mark chars => some [.ofQuoted mark chars]
  | dash => some [.sign '-']
  | slash => some [.sign '/']
  | quoted _ _ | bracketed _ | block | star => none

def advance : Scan → List Char → List Lexeme × Scan
  | p, [] => ([], p)
  | p, c :: cs => ((p.next c).1 ++ (advance (p.next c).2 cs).1, (advance (p.next c).2 cs).2)

theorem advance_append (p : Scan) (a b : List Char) :
    p.advance (a ++ b) = ((p.advance a).1 ++ ((p.advance a).2.advance b).1, ((p.advance a).2.advance b).2) := by
  induction a generalizing p with
  | nil => rfl
  | cons c a ih => simp only [List.cons_append, advance, ih, List.append_assoc]

theorem advance_singleton (p : Scan) (c : Char) : p.advance [c] = p.next c := by
  rw [advance, advance, List.append_nil]

end Scan

def lexemes (s : String) : Option (List Lexeme) :=
  (Scan.gap.advance s.toList).2.close.map ((Scan.gap.advance s.toList).1 ++ ·)

def parting : List Char :=
  -- These end any word, numeral or quotes.
  [' ', ',', '(', ')']

def Reads (s : String) (ls : List Lexeme) : Prop :=
  ∀ c ∈ parting, Scan.gap.advance (s.toList ++ [c]) = (ls ++ (Scan.opened c).1, (Scan.opened c).2)

section Reads

variable {s t : String} {ls ms us : List Lexeme}

/-- A text that a parting character ends in the middle of a lexeme. -/
theorem reads_of_next {p : Scan} (hs : Scan.gap.advance s.toList = (us, p)) {l : Lexeme}
    (hp : ∀ c ∈ parting, p.next c = Scan.after l c) : Reads s (us ++ [l]) := by
  intro c hc
  rw [Scan.advance_append, hs, Scan.advance_singleton, hp c hc, Scan.after, List.append_assoc]
  rfl

/-- A text behind one that is written out and comes to its own end. -/
theorem Reads.behind {cs : List Char} (hcs : Scan.gap.advance cs = (us, .gap)) (ht : Reads t ms) :
    Reads (String.ofList cs ++ t) (us ++ ms) := by
  intro c hc
  rw [String.toList_append, String.toList_ofList, List.append_assoc, Scan.advance_append, hcs, ht c hc, List.append_assoc]

/-- A text in front of one that begins with a parting character. -/
theorem Reads.append (hs : Reads s ls) (ht : Reads t ms) {c : Char} {cs : List Char} (hlist : t.toList = c :: cs)
    (hc : c ∈ parting) : Reads (s ++ t) (ls ++ ms) := by
  intro d hd
  -- The first character of `t` ends what is read of `s` and begins what is read of `t`.
  have hboth : (s ++ t).toList ++ [d] = (s.toList ++ [c]) ++ (cs ++ [d]) := by
    simp [String.toList_append, hlist]
  have hrest := ht d hd
  rw [hlist, List.cons_append, Scan.advance] at hrest
  obtain ⟨hout, hstate⟩ := Prod.ext_iff.mp hrest
  simp only [Scan.next] at hout hstate
  rw [hboth, Scan.advance_append, hs c hc, hstate, List.append_assoc, hout, List.append_assoc]

/-- Two texts with one that is written out between them. -/
theorem Reads.spaced (hs : Reads s ls) (ht : Reads t ms) {c : Char} {cs : List Char} (hc : c ∈ parting)
    (hcs : Scan.gap.advance (c :: cs) = (us, .gap)) : Reads (s ++ String.ofList (c :: cs) ++ t) (ls ++ us ++ ms) := by
  rw [String.append_assoc, List.append_assoc]
  have hlist : (String.ofList (c :: cs) ++ t).toList = c :: (cs ++ t.toList) := by
    rw [String.toList_append, String.toList_ofList, List.cons_append]
  exact hs.append (ht.behind hcs) hlist hc

/-- Texts put side by side with a separator that parts them are read one by one. -/
theorem reads_intercalate {c : Char} {cs : List Char} (hc : c ∈ parting) (hcs : Scan.gap.advance (c :: cs) = (us, .gap))
    {ss : List String} {lss : List (List Lexeme)} (h : List.Forall₂ Reads ss lss) :
    Reads ((String.ofList (c :: cs)).intercalate ss) (us.intercalate lss) := by
  induction h with
  | nil => exact fun d _ => Scan.advance_singleton .gap d
  | cons hs hrest ih =>
    cases hrest with
    | nil =>
      rw [String.intercalate_singleton, List.intercalate_singleton]
      exact hs
    | cons ht hrest =>
      rw [String.intercalate_cons_cons, List.intercalate_cons_cons]
      exact hs.spaced ih hc hcs

/-- A bracket in the end, behind which nothing goes on. -/
theorem Reads.closed (hs : Reads s ls) : lexemes (s ++ ")") = some (ls ++ [.sign ')']) := by
  have hadvance : Scan.gap.advance (s ++ ")").toList = (ls ++ [.sign ')'], .gap) := by
    rw [String.toList_append]
    exact hs ')' (by decide)
  rw [lexemes, hadvance, Scan.close, Option.map_some, List.append_nil]

end Reads

/-! ### Quotes and numerals -/

def doubled (mark : Char) (cs : List Char) : List Char := cs.flatMap fun c => if c = mark then [c, c] else [c]

/-- Doubling leaves a text alone in which the mark does not stand. -/
theorem doubled_of_notMem {mark : Char} {cs : List Char} (h : mark ∉ cs) : doubled mark cs = cs := by
  induction cs with
  | nil => rfl
  | cons c cs ih =>
    obtain ⟨hc, hcs⟩ := not_or.mp (mt List.mem_cons.mpr h)
    rw [doubled, List.flatMap_cons, if_neg fun he => hc he.symm]
    exact congrArg (c :: ·) (ih hcs)

/-- Within quotes all is taken up as it is, brackets, commas and what begins a comment too. -/
theorem Scan.advance_doubled (mark : Char) (cs chars : List Char) :
    (quoted mark chars).advance (doubled mark cs) = ([], quoted mark (chars ++ cs)) := by
  induction cs generalizing chars with
  | nil => rw [List.append_nil]; rfl
  | cons c cs ih =>
    have hone : (quoted mark chars).advance (if c = mark then [c, c] else [c]) = ([], quoted mark (chars ++ [c])) := by
      split
      · next hc => simp [advance, next, hc]
      · next hc => simp [advance, next, hc]
    rw [doubled, List.flatMap_cons, advance_append, hone]
    show ([] ++ ((quoted mark (chars ++ [c])).advance (doubled mark cs)).1,
      ((quoted mark (chars ++ [c])).advance (doubled mark cs)).2) = _
    rw [ih, List.append_assoc]
    rfl

/-- A quoted text is read back as what was quoted, with doubled marks undone. -/
theorem reads_doubled {mark : Char} (hmark : isQuote mark = true) {cs : List Char} {s : String}
    (hs : s.toList = mark :: (doubled mark cs ++ [mark])) : Reads s [.ofQuoted mark cs] := by
  have hcases : mark = '"' ∨ mark = '\'' ∨ mark = '`' := by simpa [isQuote, or_assoc] using hmark
  have hopened : Scan.opened mark = ([], .quoted mark []) := by rcases hcases with rfl | rfl | rfl <;> rfl
  have hlast : (Scan.quoted mark cs).next mark = ([], .ending mark cs) := if_pos rfl
  have hstate : Scan.gap.advance s.toList = ([], .ending mark cs) := by
    rw [hs, Scan.advance, Scan.next, hopened, Scan.advance_append, Scan.advance_doubled]
    simp only [Scan.advance_singleton, List.nil_append, hlast]
  refine reads_of_next hstate fun c hc => if_neg ?_
  rintro rfl
  revert hc
  rcases hcases with rfl | rfl | rfl <;> decide

example : lexemes "'it''s -- (' -- no, nothing\n+ 5 /* ' */" = some [.text "it's -- (", .sign '+', .number "5"] := by decide

theorem Name.reads_quoted (n : Name) : Reads n.quoted [.name n.text] := by
  have hlist : n.quoted.toList = '"' :: (doubled '"' n.text.toList ++ ['"']) := by
    rw [doubled_of_notMem n.quote_notMem_text, quoted, String.toList_append, String.toList_append]
    rfl
  have hreads := reads_doubled rfl hlist
  rwa [Lexeme.ofQuoted, if_neg (by decide), String.ofList_toList] at hreads

def Lexeme.ofInt (n : Int) : List Lexeme := (if n < 0 then [.sign '-'] else []) ++ [.number (decimalText n.natAbs)]

end EntityViews.Sql
