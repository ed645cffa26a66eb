import EntityViews.Learning.Entities
import EntityViews.Proofs.Computations
import EntityViews.Proofs.Phrasing
import EntityViews.Proofs.Templates

/-!
Formulas that are expressions in brackets, for whatever row they are put. Main statement: this can be seen from the templates
of a schema, and the formulas of the learning schema are of this kind.
-/

namespace EntityViews

open Sql

/-- Whether the formulas of a schema are expressions in brackets, balanced in themselves, for all plainly named rows. -/
def Schema.Bracketed (s : Schema) : Prop := ∀ e ∈ s.entities, ∀ f ∈ e.formulas, ∀ row : Alias, row.IsPlain →
  ∀ text, f.render row.text = .ok text → ∃ inner, items text = some [.group inner]

/-! Balance, told by the number of open brackets. -/

namespace Sql

def Token.depth (d : Nat) : Token → Option Nat
  | .sign c => if c = '(' then some (d + 1) else if c = ')' then (if d = 0 then none else some (d - 1)) else some d
  | _ => some d

/-- A token that closes no more brackets than are open can be taken in. -/
theorem nested_of_depth {t : Token} {levels : List (List Item)} {d d' : Nat} (h : t.depth d = some d')
    (hlevels : levels.length = d + 1) : ∃ after, t.nested levels = some after ∧ after.length = d' + 1 := by
  obtain ⟨inner, rest, rfl⟩ := List.exists_of_length_succ levels hlevels
  have hplain : t.nested (inner :: rest) = some ((inner ++ [.token t]) :: rest) → d' = d →
      ∃ after, t.nested (inner :: rest) = some after ∧ after.length = d' + 1 := by
    rintro hnested rfl
    exact ⟨_, hnested, hlevels⟩
  cases t with
  | word w => exact hplain rfl (Option.some.inj h).symm
  | quoted mark w => exact hplain rfl (Option.some.inj h).symm
  | sign c =>
    rw [Token.depth] at h
    split at h
    · subst ‹c = '('›
      cases h
      exact ⟨_, rfl, congrArg Nat.succ hlevels⟩
    split at h
    · subst ‹c = ')'›
      split at h
      · cases h
      -- There is a level below, which takes in what was between the brackets.
      cases h
      cases rest with
      | nil => simp_all
      | cons outer rest =>
        refine ⟨_, rfl, ?_⟩
        simp only [List.length_cons] at hlevels ⊢
        omega
    · refine hplain ?_ (Option.some.inj h).symm
      unfold Token.nested
      split <;> simp_all

/-- Tokens that never close more brackets than are open can be taken in one after the other. -/
theorem foldlM_nested_of_depth {ts : List Token} {levels : List (List Item)} {d d' : Nat}
    (h : ts.foldlM Token.depth d = some d') (hlevels : levels.length = d + 1) :
    ∃ after, ts.foldlM Token.nested levels = some after ∧ after.length = d' + 1 := by
  induction ts generalizing levels d with
  | nil =>
    cases h
    exact ⟨levels, rfl, hlevels⟩
  | cons t ts ih =>
    rw [List.foldlM_cons] at h
    obtain ⟨middle, hstep, h⟩ := Option.bind_eq_some_iff.mp h
    obtain ⟨after, hafter, hlength⟩ := nested_of_depth hstep hlevels
    rw [List.foldlM_cons, hafter]
    exact ih h hlength

theorem nest_of_depth {ts : List Token} (h : ts.foldlM Token.depth 0 = some 0) : ∃ is, nest ts = some is := by
  have hone : ([[]] : List (List Item)).length = 0 + 1 := rfl
  obtain ⟨after, hafter, hlength⟩ := foldlM_nested_of_depth h hone
  obtain ⟨is, rfl⟩ := List.length_eq_one_iff.mp hlength
  exact ⟨is, by rw [nest, hafter]⟩

/-- The words that are added to balanced tokens leave them balanced. -/
theorem depth_intercalate (w : List Char) (tss : List (List Token)) (d : Nat) :
    ([.word w].intercalate tss).foldlM Token.depth d = tss.flatten.foldlM Token.depth d := by
  induction tss generalizing d with
  | nil => rfl
  | cons ts rest ih =>
    cases rest with
    | nil => rw [List.intercalate_singleton, List.flatten_singleton]
    | cons us rest =>
      rw [List.intercalate_cons_cons, List.append_assoc, List.foldlM_append, List.flatten_cons, List.foldlM_append]
      refine bind_congr fun d => ?_
      exact ih d

end Sql

namespace Template

def cuts : List Char → List (List Char)
  | [] => [[]]
  | '{' :: '{' :: rest => (cuts rest).modifyHead ('{' :: ·)
  | '}' :: '}' :: rest => (cuts rest).modifyHead ('}' :: ·)
  | '{' :: 'a' :: 'l' :: 'i' :: 'a' :: 's' :: '}' :: rest => [] :: cuts rest
  | c :: rest => (cuts rest).modifyHead (c :: ·)

theorem intercalate_modifyHead (row : List Char) (c : Char) {css : List (List Char)} (hne : css ≠ []) :
    row.intercalate (css.modifyHead (c :: ·)) = c :: row.intercalate css := by
  cases css with
  | nil => exact absurd rfl hne
  | cons cs rest =>
    cases rest with
    | nil => rw [List.modifyHead_cons, List.intercalate_singleton, List.intercalate_singleton]
    | cons ds rest =>
      rw [List.modifyHead_cons, List.intercalate_cons_cons, List.intercalate_cons_cons]
      rfl

/-- A filled template is the texts around its placeholders with the row between them. -/
theorem fill_eq_intercalate (row cs : List Char) : cuts cs ≠ [] ∧ fill row cs = row.intercalate (cuts cs) := by
  have hmodify : ∀ (c : Char) (css : List (List Char)), css ≠ [] → css.modifyHead (c :: ·) ≠ [] := by
    intro c css hne
    rwa [Ne, List.modifyHead_eq_nil_iff]
  fun_induction cuts cs with
  | case1 => exact ⟨List.cons_ne_nil _ _, rfl⟩
  | case2 rest ih | case3 rest ih =>
    refine ⟨hmodify _ _ ih.1, ?_⟩
    rw [intercalate_modifyHead row _ ih.1, fill, ih.2]
  | case4 rest ih =>
    obtain ⟨cs, css, hcss⟩ := List.exists_cons_of_ne_nil ih.1
    refine ⟨List.cons_ne_nil _ _, ?_⟩
    rw [fill, ih.2, hcss, List.intercalate_cons_cons]
    rfl
  | case5 c rest hopen hclose halias ih =>
    refine ⟨hmodify _ _ ih.1, ?_⟩
    rw [intercalate_modifyHead row _ ih.1, fill, ih.2]
    · exact hopen
    · exact hclose
    · exact halias

def spaced : List (List Char) → Bool
  | before :: after :: rest =>
    before.getLast?.all (fun c => !isWordChar c) && after.head?.all (fun c => !isWordChar c) &&
      (!after.isEmpty || rest.isEmpty) && spaced (after :: rest)
  | _ => true

/-- A word between spaced texts runs on into neither of them. -/
theorem apart_of_spaced (row : List Char) {before after : List Char} {css : List (List Char)}
    (h : spaced (before :: after :: css) = true) :
    Apart before row ∧ Apart (before ++ row) (row.intercalate (after :: css)) ∧ spaced (after :: css) = true := by
  simp only [spaced, Bool.and_eq_true, Option.all_eq_true, Bool.not_eq_true', Bool.or_eq_true] at h
  obtain ⟨⟨⟨hbefore, hafter⟩, hempty⟩, hlater⟩ := h
  refine ⟨.inl hbefore, .inr ?_, hlater⟩
  -- What follows begins as the next text does, unless that is empty and the last.
  cases after with
  | cons c after =>
    intro c' hc'
    refine hafter c' ?_
    cases css with
    | nil => exact hc'
    | cons next css =>
      rw [List.intercalate_cons_cons] at hc'
      exact hc'
  | nil =>
    cases css with
    | nil => nofun
    | cons next css => simp at hempty

/-- The tokens of a filled template are those of the texts around its placeholders with the word between them. -/
theorem tokens_intercalate {row w : List Char} (hrow : tokens row = some [.word w]) {css : List (List Char)}
    {tss : List (List Token)} (h : List.Forall₂ (fun cs ts => tokens cs = some ts) css tss) (hspaced : spaced css = true) :
    tokens (row.intercalate css) = some ([.word w].intercalate tss) := by
  induction h with
  | nil => rfl
  | cons hts hrest ih =>
    cases hrest with
    | nil =>
      rw [List.intercalate_singleton, List.intercalate_singleton]
      exact hts
    | cons hus hrest =>
      rw [List.intercalate_cons_cons, List.intercalate_cons_cons]
      obtain ⟨hbefore, hafter, hlater⟩ := apart_of_spaced row hspaced
      exact tokens_append hafter (tokens_append hbefore hts hrow) (ih hlater)

def isBracketed : List Char → Bool
  | '(' :: rest =>
    rest.getLast? == some ')' && aliasOnly rest.dropLast && spaced (cuts rest.dropLast) &&
      (match (cuts rest.dropLast).mapM tokens with
      | some tss => tss.flatten.foldlM Token.depth 0 == some 0
      | none => false)
  | _ => false

/-- Two templates side by side are filled as each of them is. -/
theorem fill_append (row : List Char) {a b : List Char} (ha : aliasOnly a = true) :
    fill row (a ++ b) = fill row a ++ fill row b := by
  fun_induction aliasOnly a with
  | case1 => rfl
  | case2 rest ih | case3 rest ih =>
    simp only [List.cons_append, fill, ih ha]
  | case4 rest ih =>
    simp only [List.cons_append, fill, ih ha, List.append_assoc]
  | case5 c rest _ _ _ ih =>
    simp only [Bool.and_eq_true, bne_iff_ne] at ha
    rw [List.cons_append, fill_cons row _ ha.1.1 ha.1.2, fill_cons row _ ha.1.1 ha.1.2, ih ha.2, List.cons_append]

/-- Templates without other placeholders stay so side by side. -/
theorem aliasOnly_append {a b : List Char} (ha : aliasOnly a = true) (hb : aliasOnly b = true) :
    aliasOnly (a ++ b) = true := by
  fun_induction aliasOnly a with
  | case1 => exact hb
  | case2 rest ih | case3 rest ih | case4 rest ih => exact ih ha
  | case5 c rest _ _ _ ih =>
    simp only [Bool.and_eq_true, bne_iff_ne] at ha
    rw [List.cons_append, aliasOnly, ih ha.2]
    · simp [ha.1]
    · rintro rest rfl
      exact absurd rfl ha.1.1
    · rintro rest rfl
      exact absurd rfl ha.1.2
    · rintro rest rfl
      exact absurd rfl ha.1.1

/-- A template that is in brackets by its texts is in brackets once it is filled. -/
theorem brackets_of_isBracketed {cs : List Char} (h : isBracketed cs = true) {row w : List Char}
    (hrow : tokens row = some [.word w]) : ∃ body, cs = '(' :: (body ++ [')']) ∧ aliasOnly body = true ∧
      ∃ inner, items (String.ofList (fill row body)) = some inner := by
  unfold isBracketed at h
  split at h
  · rename_i rest
    simp only [Bool.and_eq_true, beq_iff_eq] at h
    obtain ⟨⟨⟨hlast, halias⟩, hspaced⟩, htokens⟩ := h
    split at htokens
    · rename_i tss htss
      obtain ⟨_, hfill⟩ := fill_eq_intercalate row rest.dropLast
      have hall := tokens_intercalate hrow (mapM_eq_some_iff.mp htss) hspaced
      obtain ⟨is, his⟩ := nest_of_depth ((depth_intercalate w tss 0).trans (beq_iff_eq.mp htokens))
      refine ⟨rest.dropLast, ?_, halias, is, ?_⟩
      · rw [List.dropLast_append_getLast? _ hlast]
      · rw [items, String.toList_ofList, hfill, hall]
        exact his
    · cases htokens
  · cases h

end Template

/-- A formula whose template is in brackets reads as one item in brackets. -/
theorem Formula.bracketed {f : Formula} (h : Template.isBracketed f.sql.toList = true) {row : Alias} (hrow : row.IsPlain)
    {text : String} (htext : f.render row.text = .ok text) : ∃ inner, items text = some [.group inner] := by
  obtain ⟨w, hw, _⟩ := hrow
  obtain ⟨body, hbody, halias, inner, hinner⟩ := Template.brackets_of_isBracketed h hw
  have hclosed : Template.aliasOnly f.sql.toList = true := by
    rw [hbody]
    exact Template.aliasOnly_append halias rfl
  have hfill : Template.fill row.text.toList f.sql.toList = '(' :: (Template.fill row.text.toList body ++ [')']) := by
    rw [hbody, Template.fill_cons _ _ (by decide) (by decide), Template.fill_append _ halias]
    rfl
  obtain rfl := Except.ok.inj (htext.symm.trans (Formula.render_eq hclosed row.text))
  refine ⟨inner, ?_⟩
  have hbrackets := items_brackets hinner
  have htext : String.ofList ('(' :: (Template.fill row.text.toList body ++ [')'])) =
      "(" ++ String.ofList (Template.fill row.text.toList body) ++ ")" := by
    rw [← List.singleton_append, String.ofList_append, String.ofList_append, ← String.append_assoc]
  rw [hfill, htext]
  exact hbrackets

/-- All formulas of the learning schema are in brackets. -/
theorem bracketed_learning : Learning.schema.Bracketed := by
  have hall : ∀ e ∈ Learning.schema.entities, ∀ f ∈ e.formulas, Template.isBracketed f.sql.toList = true := by
    apply Learning.forall_formulas
    simp only [Learning.language, Learning.user, Learning.collection, Learning.text, Learning.vocab, Learning.meaning,
      Learning.counting, List.forall_mem_append, List.forall_mem_cons, String.toList_append]
    -- The texts are read as lists of characters, which are quick to go through.
    repeat rw [String.toList_ofList]
    decide +kernel
  intro e he f hf row hrow text htext
  exact Formula.bracketed (hall e he f hf) hrow htext

end EntityViews
