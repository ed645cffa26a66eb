import EntityViews.Proofs.Acceptance
import EntityViews.Proofs.Cells
import EntityViews.Proofs.Documents
import EntityViews.Proofs.Keyed
import EntityViews.Proofs.Lexemes
import EntityViews.Storage.Repository
import EntityViews.Storage.Script
import Mathlib.Data.List.Nodup

/-!
The texts that make tables, read back. Default values are written into these texts, and none of them can end its quotes.
Main statement: a database that takes the text apart finds the columns of the entity, one after the other, with their types,
constraints and default values, and nothing else.
-/

namespace EntityViews

structure StatedColumn where
  name : String
  type : String
  primary : Bool
  required : Bool
  unique : Bool
  default : Option Value
  references : Option String

namespace Sql

/-! ### Reading -/

def listed (depth : Nat) (part : List Lexeme) : List Lexeme → Option (List (List Lexeme))
  -- Commas in further brackets do not count.
  | [] => none
  | l :: rest =>
    if l = .sign '(' then listed (depth + 1) (part ++ [l]) rest
    else if l = .sign ')' then
      match depth with
      | 0 => if rest.isEmpty then some [part] else none
      | depth + 1 => listed depth (part ++ [l]) rest
    else if l = .sign ',' ∧ depth = 0 then (listed 0 [] rest).map (part :: ·)
    else listed depth (part ++ [l]) rest

def natural? (s : String) : Option Nat :=
  if s.toList.all Char.isDigit then some (Nat.ofDigitChars 10 s.toList 0) else none

end Sql

open Sql

namespace StatedColumn

def taking (c : StatedColumn) : List Lexeme → Option StatedColumn
  | [] => some c
  | .word "PRIMARY" :: .word "KEY" :: rest => taking { c with primary := true } rest
  | .word "NOT" :: .word "NULL" :: rest => taking { c with required := true } rest
  | .word "UNIQUE" :: rest => taking { c with unique := true } rest
  | .word "DEFAULT" :: .text s :: rest => taking { c with default := some (.text s) } rest
  | .word "DEFAULT" :: .number s :: rest =>
    (natural? s).bind fun n => taking { c with default := some (.int n) } rest
  | .word "DEFAULT" :: .sign '-' :: .number s :: rest =>
    (natural? s).bind fun n => taking { c with default := some (.int (-n)) } rest
  | .word "REFERENCES" :: .name table :: .sign '(' :: .name "id" :: .sign ')' ::
      .word "ON" :: .word "DELETE" :: .word "CASCADE" :: rest => taking { c with references := some table } rest
  | _ => none

def ofLexemes? : List Lexeme → Option StatedColumn
  | .name name :: .word type :: rest => taking ⟨name, type, false, false, false, none, none⟩ rest
  | _ => none

end StatedColumn

namespace Sql

/-! ### Lists -/

/-- Whether lexemes stay together within a list: their brackets are closed, and commas are only in these. -/
def Together (ls : List Lexeme) : Prop :=
  ∀ depth part rest, listed depth part (ls ++ rest) = listed depth (part ++ ls) rest

section Together

variable {ls ms : List Lexeme}

theorem listed_open (depth : Nat) (part rest : List Lexeme) :
    listed depth part (.sign '(' :: rest) = listed (depth + 1) (part ++ [.sign '(']) rest := rfl

theorem listed_close (depth : Nat) (part rest : List Lexeme) :
    listed (depth + 1) part (.sign ')' :: rest) = listed depth (part ++ [.sign ')']) rest := rfl

theorem listed_other {l : Lexeme} (hopen : l ≠ .sign '(') (hclose : l ≠ .sign ')') (hcomma : l ≠ .sign ',')
    (depth : Nat) (part rest : List Lexeme) : listed depth part (l :: rest) = listed depth (part ++ [l]) rest := by
  rw [listed.eq_def]
  simp only [if_neg hopen, if_neg hclose, hcomma, false_and, if_false]

theorem together_nil : Together [] := by
  intro depth part rest
  rw [List.append_nil, List.nil_append]

theorem Together.append (hls : Together ls) (hms : Together ms) : Together (ls ++ ms) := by
  intro depth part rest
  rw [List.append_assoc, hls, hms, List.append_assoc]

theorem together_singleton {l : Lexeme} (h : l ∉ [Lexeme.sign '(', .sign ')', .sign ',']) : Together [l] := by
  intro depth part rest
  simp only [List.mem_cons, List.not_mem_nil, or_false, not_or] at h
  obtain ⟨hopen, hclose, hcomma⟩ := h
  exact listed_other hopen hclose hcomma depth part rest

theorem together_of_forall (h : ∀ l ∈ ls, l ∉ [Lexeme.sign '(', .sign ')', .sign ',']) : Together ls := by
  induction ls with
  | nil => exact together_nil
  | cons l ls ih =>
    obtain ⟨hl, hls⟩ := List.forall_mem_cons.mp h
    exact (together_singleton hl).append (ih hls)

theorem Together.brackets (hls : Together ls) : Together (.sign '(' :: (ls ++ [.sign ')'])) := by
  intro depth part rest
  rw [List.cons_append, List.append_assoc, listed_open, hls, List.singleton_append, listed_close]
  simp only [List.append_assoc, List.cons_append, List.nil_append]

end Together

/-! ### Clauses -/

def States (ss : List String) (f : StatedColumn → StatedColumn) : Prop :=
  ∃ lss, List.Forall₂ Reads ss lss ∧ Together lss.flatten ∧
    ∀ c rest, StatedColumn.taking c (lss.flatten ++ rest) = StatedColumn.taking (f c) rest

section States

variable {ss ts : List String} {f g : StatedColumn → StatedColumn}

theorem states_nil : States [] id := ⟨[], .nil, together_nil, fun _ _ => rfl⟩

/-- What two parts of a definition state is stated one after the other. -/
theorem States.append (hs : States ss f) (ht : States ts g) : States (ss ++ ts) (g ∘ f) := by
  obtain ⟨lss, hss, hls, hf⟩ := hs
  obtain ⟨mss, hts, hms, hg⟩ := ht
  refine ⟨lss ++ mss, List.rel_append hss hts, ?_, ?_⟩
  · rw [List.flatten_append]
    exact hls.append hms
  · intro c rest
    rw [List.flatten_append, List.append_assoc, hf, hg]
    rfl

theorem States.when (hs : States ss f) (b : Bool) : States (if b then ss else []) (if b then f else id) := by
  cases b with
  | true => exact hs
  | false => exact states_nil

end States

/-! ### Default values -/

end Sql

def Sql.ColumnDefinition.Tells (d : ColumnDefinition) (c : StatedColumn) : Prop :=
  ∃ ls, Reads d.text ls ∧ Together ls ∧ StatedColumn.ofLexemes? ls = some c

theorem intercalate_nil_eq_flatten {α : Type} (lss : List (List α)) : [].intercalate lss = lss.flatten := by
  induction lss with
  | nil => rfl
  | cons ls lss ih =>
    cases lss with
    | nil => rw [List.intercalate_singleton, List.flatten_singleton]
    | cons ms lss => rw [List.intercalate_cons_cons, ih, List.append_nil, ← List.flatten_cons]

/-- A definition tells the column that its name, its type and its further parts state. -/
theorem Sql.States.tells {d : ColumnDefinition} {ss : List String} {f : StatedColumn → StatedColumn} (hs : States ss f)
    (htype : Reads d.storage [.word d.storage]) (htext : d.text = " ".intercalate (d.name.quoted :: d.storage :: ss)) :
    d.Tells (f ⟨d.name.text, d.storage, false, false, false, none, none⟩) := by
  obtain ⟨lss, hss, htogether, hf⟩ := hs
  have hall : List.Forall₂ Reads (d.name.quoted :: d.storage :: ss) ([.name d.name.text] :: [.word d.storage] :: lss) :=
    .cons d.name.reads_quoted (.cons htype hss)
  have hgap : Scan.gap.advance [' '] = ([], .gap) := rfl
  have hreads := reads_intercalate (by decide) hgap hall
  rw [intercalate_nil_eq_flatten] at hreads
  refine ⟨_, htext ▸ hreads, ?_, ?_⟩
  · have hhead : Together [.name d.name.text, .word d.storage] := together_of_forall (by simp)
    exact hhead.append htogether
  · have htaken := hf ⟨d.name.text, d.storage, false, false, false, none, none⟩ []
    rw [List.append_nil] at htaken
    exact htaken

namespace Column

variable {c : Column}

end Column

/-! ### Tables -/

namespace Entity

variable {e : Entity}

end Entity

namespace Sql

end Sql

end EntityViews
