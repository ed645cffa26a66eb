import EntityViews.Proofs.Rereading
import EntityViews.Storage.Cell

/-!
JSON values in columns. Lists and maps are stored as JSON texts, other values as they are, but what is stored is read as a
JSON text in any case. Main statement: of the JSON values just nothing, lists and maps come back.
-/

namespace EntityViews

namespace Json

variable {room fuel : Nat} {s : String} {cs rest : List Char}

theorem readNumber_ne_text : readNumber cs ≠ .ok (.text s, rest) := by
  intro h
  unfold readNumber at h
  simp only at h
  repeat' split at h
  all_goals cases h

/-- No word of JSON is read as a text. -/
theorem readWord?_ne_text : readWord? cs ≠ some (.text s, rest) := by
  intro h
  obtain ⟨w, hw, hfound⟩ := List.exists_of_findSome?_eq_some h
  split at hfound
  · simp only [words, List.mem_cons, List.not_mem_nil, or_false] at hw
    rcases hw with rfl | rfl | rfl | rfl | rfl | rfl <;> cases hfound
  · cases hfound

/-- A value that is a text is read from more characters than it has. -/
theorem length_readValue_text (h : readValue room fuel cs = .ok (.text s, rest)) :
    s.toList.length + rest.length < cs.length := by
  -- Only what opens with a quotation mark is read as a text.
  rw [readValue.eq_def] at h
  split at h
  · cases h
  split at h
  · obtain ⟨⟨t, rest'⟩, hread, h⟩ := Except.bind_ok h
    cases h
    have hlength := length_readString hread
    rw [List.length_nil] at hlength
    rw [List.length_cons]
    omega
  · split at h
    · cases h
    split at h
    · cases h
    · obtain ⟨_, _, h⟩ := Except.bind_ok h
      cases h
  · split at h
    · cases h
    split at h
    · cases h
    · obtain ⟨_, _, h⟩ := Except.bind_ok h
      cases h
  · split at h
    · next hword =>
      cases h
      exact absurd hword readWord?_ne_text
    · exact absurd h readNumber_ne_text

/-- No text is the JSON text of itself. -/
theorem read_ne_text (s : String) : read s ≠ .ok (.text s) := by
  intro h
  have hall : readAll s.toList = .ok (.text s) := by
    rw [read] at h
    cases hread : readAll s.toList with
    | error stop =>
      rw [hread] at h
      cases h
    | ok v =>
      rw [hread] at h
      cases h
      rfl
  rw [readAll] at hall
  split at hall
  · cases hall
  obtain ⟨⟨v, rest⟩, hread, hall⟩ := Except.bind_ok hall
  have hv : v = .text s := by
    simp only at hall
    split at hall
    · cases hall
      rfl
    · cases hall
  -- The quotes alone make the text longer than what is read from it.
  rw [hv] at hread
  have hlength := length_readValue_text hread
  have hskip : (skipSpace s.toList).length ≤ s.toList.length := (List.dropWhile_sublist _).length_le
  omega

end Json

namespace Value

theorem toCell_list {items : List Value} {text : String} (h : Json.write? .refuse (.list items) = some text) :
    (list items).toCell = .ok (.text text) := by
  rw [toCell, toCell.written, h]

theorem toCell_map {entries : List (Value × Value)} {text : String} (h : Json.write? .refuse (.map entries) = some text) :
    (map entries).toCell = .ok (.text text) := by
  rw [toCell, toCell.written, h]

end Value

abbrev ColumnType.json : ColumnType := .scalar (some .json)

theorem ColumnType.ofCell_json {text : String} (h : text ≠ "") :
    json.ofCell (.text text) = (Json.read text).mapError .ofJson := by
  have hpresent : (Value.text text).isPresent = true := bne_iff_ne.mpr h
  show ColumnKind.ofCell .json (.text text) = _
  rw [ColumnKind.ofCell, if_pos hpresent, Value.asText?_text]

/-- What is stored as its JSON text comes back. -/
theorem Value.Fits.restored {v : Value} (h : v.Fits Json.deepest)
    (hcell : ∀ text, Json.write? .refuse v = some text → v.toCell = .ok (.text text)) :
    ∃ cell, v.toCell = .ok cell ∧ ColumnType.json.ofCell cell = .ok v := by
  obtain ⟨text, hwrite, hread⟩ := Json.read_write .refuse h
  refine ⟨.text text, hcell text hwrite, ?_⟩
  have hne : text ≠ "" := by
    rintro rfl
    cases hread
  rw [ColumnType.ofCell_json hne, hread]
  rfl

/-- No text comes back from a JSON column: nothing is read of the empty one, and no other is the JSON text of itself. -/
theorem ColumnType.ofCell_json_ne_text (s : String) : json.ofCell (.text s) ≠ .ok (.text s) := by
  intro h
  by_cases hs : s = ""
  · subst hs
    cases h
  · rw [ofCell_json hs] at h
    cases hread : Json.read s with
    | error fault =>
      rw [hread] at h
      cases h
    | ok v =>
      rw [hread] at h
      cases h
      exact Json.read_ne_text s hread

/-- No number but zero is read from a JSON column, and of zero nothing. -/
theorem ColumnType.ofCell_json_int (n : Int) :
    json.ofCell (.int n) = .ok .null ∨ json.ofCell (.int n) = .error .mistyped := by
  by_cases hn : n = 0
  · subst hn
    exact .inl rfl
  · have hpresent : (Value.int n).isPresent = true := bne_iff_ne.mpr hn
    refine .inr ?_
    show ColumnKind.ofCell .json (.int n) = _
    rw [ColumnKind.ofCell, if_pos hpresent]
    rfl

/-- Of the JSON values that fit just nothing, lists and maps come back from a JSON column. -/
theorem restored_from_json_iff {v : Value} (h : v.Fits Json.deepest) :
    (∃ cell, v.toCell = .ok cell ∧ ColumnType.json.ofCell cell = .ok v) ↔
      v = .null ∨ (∃ items, v = .list items) ∨ ∃ entries, v = .map entries := by
  constructor
  · rintro ⟨cell, hcell, hback⟩
    cases h with
    | null => exact .inl rfl
    | bool room b =>
      cases hcell
      rcases ColumnType.ofCell_json_int (if b then 1 else 0) with hint | hint
      · cases hint.symm.trans hback
      · cases hint.symm.trans hback
    | int room n =>
      cases hcell
      rcases ColumnType.ofCell_json_int n with hint | hint
      · cases hint.symm.trans hback
      · cases hint.symm.trans hback
    | text room s =>
      cases hcell
      exact absurd hback (ColumnType.ofCell_json_ne_text s)
    | list room items => exact .inr (.inl ⟨items, rfl⟩)
    | map room fields => exact .inr (.inr ⟨_, rfl⟩)
  · rintro (rfl | ⟨items, rfl⟩ | ⟨entries, rfl⟩)
    · exact ⟨.null, rfl, rfl⟩
    · exact h.restored fun _ => Value.toCell_list
    · exact h.restored fun _ => Value.toCell_map

def thresholds : Value :=
  Value.ofFields [("A1", .int (-500)), ("note", .list [.text "ü\n\x22", .null, .bool true, Value.ofFields []])]

/-- The thresholds are written and read within all limits. -/
theorem thresholds_fits : thresholds.Fits Json.deepest := by
  refine .map 984 _ (by decide) (by decide) ?_
  simp only [List.forall_mem_cons]
  refine ⟨.int _ _ (by decide), .list 983 _ ?_, fun _ h => absurd h List.not_mem_nil⟩
  simp only [List.forall_mem_cons]
  exact ⟨.text _ _ (by decide), .null _, .bool _ _, .map 982 [] (fun _ h => absurd h List.not_mem_nil) (by decide)
    fun _ h => absurd h List.not_mem_nil, fun _ h => absurd h List.not_mem_nil⟩

theorem thresholds_restored : ∃ cell, thresholds.toCell = .ok cell ∧ ColumnType.json.ofCell cell = .ok thresholds :=
  (restored_from_json_iff thresholds_fits).mpr (.inr (.inr ⟨_, rfl⟩))

/-- A bare text is stored, and makes the reading of its row fail. -/
theorem word_unreadable : (Value.text "abc").Fits Json.deepest ∧ (Value.text "abc").toCell = .ok (.text "abc") ∧
    ColumnType.json.ofCell (.text "abc") = .error (.ofJson (.malformed ⟨.value, 1, 1, 0⟩)) :=
  ⟨.text _ _ (by decide), rfl, rfl⟩

end EntityViews
