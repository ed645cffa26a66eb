import EntityViews.Proofs.Brackets

/-!
Which rows of sub-selects a text mentions. Main statement: it can be seen from the templates of a schema that its formulas
only insert the row that they are put for, and those of the learning schema do.
-/

namespace EntityViews

open Sql

namespace Sql

def words (cs : List Char) : List (List Char) := cs.splitOnP fun c => !isWordChar c

def Mentions (s : String) (n : Nat) : Prop := (Alias.sub n).text.toList ∈ words s.toList

theorem words_append_cons (a b : List Char) {c : Char} (hc : isWordChar c = false) :
    words (a ++ c :: b) = words a ++ words b := List.splitOnP_append_cons a b (by rw [hc]; rfl)

/-- A word of two texts that are apart is a word of one of them. -/
theorem mem_words_append {a b w : List Char} (h : Apart a b) (hw : w ∈ words (a ++ b)) : w ∈ words a ∨ w ∈ words b := by
  rcases h with hlast | hhead
  · obtain rfl | ⟨front, c, rfl⟩ := List.eq_nil_or_concat a
    · exact .inr hw
    · -- The last character ends the words of the first text.
      rw [List.concat_eq_append] at hlast hw ⊢
      have hc : isWordChar c = false := hlast c List.getLast?_concat
      rw [List.append_assoc, List.singleton_append, words_append_cons _ _ hc, List.mem_append] at hw
      refine hw.imp_left fun hfront => ?_
      rw [words_append_cons _ _ hc, List.mem_append]
      exact .inl hfront
  · cases b with
    | nil =>
      rw [List.append_nil] at hw
      exact .inl hw
    | cons c b =>
      have hc : isWordChar c = false := hhead c rfl
      rw [words_append_cons _ _ hc, List.mem_append] at hw
      refine hw.imp_right fun hb => ?_
      rw [← List.nil_append (c :: b), words_append_cons _ _ hc, List.mem_append]
      exact .inr hb

/-- Sub-selects with different numbers have different names. -/
theorem Alias.sub_injective {n m : Nat} (h : (Alias.sub n).text = (Alias.sub m).text) : n = m := by
  have hdigits : Nat.toDigits 10 n = Nat.toDigits 10 m := by
    have hlists := congrArg String.toList h
    rw [toList_sub, toList_sub] at hlists
    exact (List.cons.inj hlists).2
  calc n = Nat.ofDigitChars 10 (Nat.toDigits 10 n) 0 := Nat.ofDigitChars_ten_toDigits.symm
    _ = Nat.ofDigitChars 10 (Nat.toDigits 10 m) 0 := by rw [hdigits]
    _ = m := Nat.ofDigitChars_ten_toDigits

/-- The row of a sub-select mentions itself only. -/
theorem eq_of_mentions_sub {n m : Nat} (h : Mentions (Alias.sub m).text n) : n = m := by
  have hsingle : words (Alias.sub m).text.toList = [(Alias.sub m).text.toList] := by
    refine List.splitOnP_eq_singleton fun c hc => ?_
    rw [isWordChar_of_sub m c hc]
    rfl
  rw [Mentions, hsingle, List.mem_singleton] at h
  exact Alias.sub_injective (String.toList_injective h)

end Sql

/-- Whether a formula does nothing but insert the name of a row, of its own accord mentioning no row of a sub-select. -/
def Formula.Inserts (f : Formula) : Prop := Template.aliasOnly f.sql.toList = true ∧
  ∀ row text n, f.render row = .ok text → Mentions text n → Mentions row n

namespace Template

def looksNumbered (w : List Char) : Bool := w.head? == some 's' && w.tail.all Char.isDigit

theorem looksNumbered_sub (n : Nat) : looksNumbered (Alias.sub n).text.toList = true := by
  rw [Alias.toList_sub, looksNumbered, Bool.and_eq_true, List.tail_cons, List.all_eq_true]
  refine ⟨rfl, ?_⟩
  intro c hc
  exact Nat.isDigit_of_mem_toDigits (by decide) (by decide) hc

theorem not_mentions {cs : List Char} (h : ((words cs).all fun w => !looksNumbered w) = true) (n : Nat) :
    (Alias.sub n).text.toList ∉ words cs := by
  intro hmem
  have hnumbered := List.all_eq_true.mp h _ hmem
  rw [looksNumbered_sub] at hnumbered
  cases hnumbered

def inserts (cs : List Char) : Bool :=
  aliasOnly cs && spaced (cuts cs) && (cuts cs).all fun text => (words text).all fun w => !looksNumbered w

/-- A word of a filled template is a word of the row or of the template. -/
theorem mem_words_intercalate {row w : List Char} {css : List (List Char)} (hne : css ≠ []) (hspaced : spaced css = true)
    (hw : w ∈ words (row.intercalate css)) : w ∈ words row ∨ ∃ cs ∈ css, w ∈ words cs := by
  induction css with
  | nil => exact absurd rfl hne
  | cons before css ih =>
    cases css with
    | nil =>
      rw [List.intercalate_singleton] at hw
      exact .inr ⟨before, List.mem_singleton_self _, hw⟩
    | cons after css =>
      rw [List.intercalate_cons_cons] at hw
      obtain ⟨hbefore, hafter, hlater⟩ := apart_of_spaced row hspaced
      rcases mem_words_append hafter hw with hfront | hback
      · rcases mem_words_append hbefore hfront with hfirst | hrow
        · exact .inr ⟨before, List.mem_cons_self, hfirst⟩
        · exact .inl hrow
      · refine (ih (List.cons_ne_nil _ _) hlater hback).imp_right ?_
        rintro ⟨cs, hcs, hmem⟩
        exact ⟨cs, List.mem_cons_of_mem _ hcs, hmem⟩

end Template

/-- The decidable check of a template says that it inserts the row only. -/
theorem Formula.inserts {f : Formula} (h : Template.inserts f.sql.toList = true) : f.Inserts := by
  simp only [Template.inserts, Bool.and_eq_true] at h
  obtain ⟨⟨halias, hspaced⟩, hwords⟩ := h
  refine ⟨halias, ?_⟩
  intro row text n htext hmentions
  obtain rfl := Except.ok.inj (htext.symm.trans (render_eq halias row))
  obtain ⟨hne, hfill⟩ := Template.fill_eq_intercalate row.toList f.sql.toList
  rw [Mentions, String.toList_ofList, hfill] at hmentions
  refine (Template.mem_words_intercalate hne hspaced hmentions).resolve_right ?_
  rintro ⟨cs, hcs, hmem⟩
  exact Template.not_mentions (List.all_eq_true.mp hwords cs hcs) n hmem

def Schema.Inserts (s : Schema) : Prop := ∀ e ∈ s.entities, ∀ f ∈ e.formulas, f.Inserts

/-- All formulas of the learning schema insert the row only. -/
theorem inserts_learning : Learning.schema.Inserts := by
  have hall : ∀ e ∈ Learning.schema.entities, ∀ f ∈ e.formulas, Template.inserts f.sql.toList = true := by
    apply Learning.forall_formulas
    simp only [Learning.language, Learning.user, Learning.collection, Learning.text, Learning.vocab, Learning.meaning,
      Learning.counting, List.forall_mem_append, List.forall_mem_cons, String.toList_append]
    -- The texts are read as lists of characters, which are quick to go through.
    repeat rw [String.toList_ofList]
    decide +kernel
  exact fun e he f hf => Formula.inserts (hall e he f hf)

end EntityViews
