import EntityViews.Learning.Entities

/-!
Templates of formulas whose only placeholder is `{alias}`. Main statement: such a template has a text for every row, and it
is the template with the row in the place of the placeholders.
-/

namespace EntityViews

namespace Template

def aliasOnly : List Char → Bool
  | [] => true
  | '{' :: '{' :: rest => aliasOnly rest
  | '}' :: '}' :: rest => aliasOnly rest
  | '{' :: 'a' :: 'l' :: 'i' :: 'a' :: 's' :: '}' :: rest => aliasOnly rest
  | c :: rest => c != '{' && c != '}' && aliasOnly rest

/-- How a template of this kind begins. -/
theorem aliasOnly_cases {cs : List Char} (h : aliasOnly cs = true) :
    cs = [] ∨ (∃ rest, cs = '{' :: '{' :: rest ∧ aliasOnly rest = true) ∨
      (∃ rest, cs = '}' :: '}' :: rest ∧ aliasOnly rest = true) ∨
      (∃ rest, cs = '{' :: 'a' :: 'l' :: 'i' :: 'a' :: 's' :: '}' :: rest ∧ aliasOnly rest = true) ∨
      ∃ c rest, cs = c :: rest ∧ c ≠ '{' ∧ c ≠ '}' ∧ aliasOnly rest = true := by
  unfold aliasOnly at h
  split at h
  · exact .inl rfl
  · exact .inr (.inl ⟨_, rfl, h⟩)
  · exact .inr (.inr (.inl ⟨_, rfl, h⟩))
  · exact .inr (.inr (.inr (.inl ⟨_, rfl, h⟩)))
  · simp only [Bool.and_eq_true, bne_iff_ne] at h
    exact .inr (.inr (.inr (.inr ⟨_, _, rfl, h.1.1, h.1.2, h.2⟩)))

/-- What is in front of the first brace may be left away. -/
theorem aliasOnly_dropWhile {cs : List Char} (h : aliasOnly cs = true) :
    aliasOnly (cs.dropWhile fun c => c != '{' && c != '}') = true := by
  induction cs with
  | nil => exact h
  | cons c rest ih =>
    rw [List.dropWhile_cons]
    split
    · rename_i hc
      simp only [Bool.and_eq_true, bne_iff_ne] at hc
      refine ih ?_
      obtain he | ⟨_, he, _⟩ | ⟨_, he, _⟩ | ⟨_, he, _⟩ | ⟨c', rest', he, _, _, hrest⟩ := aliasOnly_cases h
      · cases he
      · exact absurd (List.cons.inj he).1 hc.1
      · exact absurd (List.cons.inj he).1 hc.2
      · exact absurd (List.cons.inj he).1 hc.1
      · rw [(List.cons.inj he).2]
        exact hrest
    · exact h

def fill (row : List Char) : List Char → List Char
  | [] => []
  | '{' :: '{' :: rest => '{' :: fill row rest
  | '}' :: '}' :: rest => '}' :: fill row rest
  | '{' :: 'a' :: 'l' :: 'i' :: 'a' :: 's' :: '}' :: rest => row ++ fill row rest
  | c :: rest => c :: fill row rest

/-- Characters other than brackets stand for themselves. -/
theorem fill_cons (row rest : List Char) {c : Char} (hopen : c ≠ '{') (hclose : c ≠ '}') :
    fill row (c :: rest) = c :: fill row rest := by
  rw [fill]
  · rintro rest rfl
    exact absurd rfl hopen
  · rintro rest rfl
    exact absurd rfl hclose
  · rintro rest rfl
    exact absurd rfl hopen

/-- A template is filled up to its first bracket with what stands there. -/
theorem fill_eq (row cs : List Char) : fill row cs =
    (cs.takeWhile fun c => c != '{' && c != '}') ++ fill row (cs.dropWhile fun c => c != '{' && c != '}') := by
  induction cs with
  | nil => rfl
  | cons c rest ih =>
    rw [List.takeWhile_cons, List.dropWhile_cons]
    split
    · rename_i hc
      simp only [Bool.and_eq_true, bne_iff_ne] at hc
      rw [fill_cons row rest hc.1 hc.2, ih, List.cons_append]
    · rfl

/-- Pieces of a template of this kind are texts and placeholders; whoever adds both to a text fills the template. -/
theorem foldlM_pieces {row : String} {step : String → Except TemplateFault Piece → Except TemplateFault String}
    (hliteral : ∀ text s, step text (.ok (.literal s)) = .ok (text ++ s))
    (halias : ∀ text, step text (.ok (.field ⟨"alias", none, ""⟩)) = .ok (text ++ row)) {fuel : Nat} {cs : List Char}
    (hfuel : cs.length < fuel) (h : aliasOnly cs = true) (text : String) :
    (pieces fuel cs).foldlM step text = .ok (text ++ String.ofList (fill row.toList cs)) := by
  induction fuel generalizing cs text with
  | zero => exact absurd hfuel (Nat.not_lt_zero _)
  | succ fuel ih =>
    cases cs with
    | nil =>
      have hempty : String.ofList (fill row.toList []) = "" := rfl
      rw [pieces, List.foldlM_nil, hempty, String.append_empty]
      rfl
    | cons c rest =>
      have hdrop := aliasOnly_dropWhile h
      have hhead := List.head?_dropWhile_not (fun c => c != '{' && c != '}') (c :: rest)
      have hlength : ((c :: rest).dropWhile fun c => c != '{' && c != '}').length < fuel + 1 :=
        Nat.lt_of_le_of_lt (List.dropWhile_suffix _).length_le hfuel
      rw [pieces, fill_eq, String.ofList_append, ← String.append_assoc]
      · generalize (c :: rest).takeWhile (fun c => c != '{' && c != '}') = front
        generalize (c :: rest).dropWhile (fun c => c != '{' && c != '}') = ds at hdrop hhead hlength
        -- After the text in front comes one piece, which adds some text, and then the rest of the template.
        have hgo : ∀ p s rest, rest.length < fuel → aliasOnly rest = true → (∀ text, step text p = .ok (text ++ String.ofList s)) →
            List.foldlM step text (.ok (.literal (String.ofList front)) :: p :: pieces fuel rest) =
              .ok (text ++ String.ofList front ++ String.ofList (s ++ fill row.toList rest)) := by
          intro p s rest hshort hrest hp
          rw [List.foldlM_cons, hliteral]
          show List.foldlM step (text ++ String.ofList front) (p :: pieces fuel rest) = _
          rw [List.foldlM_cons, hp, String.ofList_append, ← String.append_assoc]
          exact ih hshort hrest _
        obtain rfl | ⟨rest, rfl, hrest⟩ | ⟨rest, rfl, hrest⟩ | ⟨rest, rfl, hrest⟩ | ⟨c', rest', rfl, hopen, hclose, _⟩ :=
          aliasOnly_cases hdrop
        · have hempty : String.ofList (fill row.toList []) = "" := rfl
          rw [List.foldlM_cons, hliteral, hempty, String.append_empty]
          rfl
        · rw [List.length_cons, List.length_cons] at hlength
          exact hgo _ ['{'] rest (by omega) hrest fun text => hliteral text _
        · rw [List.length_cons, List.length_cons] at hlength
          exact hgo _ ['}'] rest (by omega) hrest fun text => hliteral text _
        · simp only [List.length_cons] at hlength
          refine hgo _ row.toList rest (by omega) hrest fun text => ?_
          rw [String.ofList_toList]
          exact halias text
        · -- Only a brace ends the text in front.
          simp [hopen, hclose] at hhead
      · nofun

/-- A template of this kind is filled with the row, at every depth but the lowest. -/
theorem expand_eq (row : String) (depth : Nat) {cs : List Char} (h : aliasOnly cs = true) :
    expand row (depth + 1) cs = .ok (String.ofList (fill row.toList cs)) := by
  rw [expand, foldlM_pieces ?_ ?_ (Nat.lt_succ_self cs.length) h "", String.empty_append]
  · intro text s
    rfl
  · intro text
    rfl

end Template

theorem Formula.render_eq {f : Formula} (h : Template.aliasOnly f.sql.toList = true) (row : String) :
    f.render row = .ok (String.ofList (Template.fill row.toList f.sql.toList)) := by
  rw [render, Template.render, Template.expand_eq row 1 h]
  rfl

/-- A formula with a template of this kind has a text for every row. -/
theorem Formula.render_ok {f : Formula} (h : Template.aliasOnly f.sql.toList = true) (row : String) :
    ∃ text, f.render row = .ok text := ⟨_, render_eq h row⟩

/-- What holds of the formulas of these entities holds of all in the learning schema. -/
theorem Learning.forall_formulas {P : Formula → Prop} (h : ∀ f ∈ Learning.language.formulas ++ Learning.user.formulas ++
    Learning.collection.formulas ++ Learning.text.formulas ++ Learning.vocab.formulas ++ Learning.meaning.formulas, P f) :
    ∀ e ∈ Learning.schema.entities, ∀ f ∈ e.formulas, P f := by
  have hformulas : Learning.schema.entities.flatMap (·.formulas) =
      Learning.language.formulas ++ Learning.user.formulas ++ Learning.collection.formulas ++ Learning.text.formulas ++
        Learning.vocab.formulas ++ Learning.meaning.formulas := rfl
  intro e he f hf
  apply h
  rw [← hformulas]
  exact List.mem_flatMap.mpr ⟨e, he, hf⟩

end EntityViews
