import EntityViews.Sql.Name

/-!
Which texts are let through as names. Main statement: these are the identifiers of ASCII letters, digits and underscores, and
the identifiers with one line break behind them; every other text is refused.
-/

namespace EntityViews.Sql

def IsWordChar (c : Char) : Prop :=
  ('A' ≤ c ∧ c ≤ 'Z') ∨ ('a' ≤ c ∧ c ≤ 'z') ∨ ('0' ≤ c ∧ c ≤ '9') ∨ c = '_'

structure IsIdentifier (cs : List Char) : Prop where
  ne_nil : cs ≠ []
  words : ∀ c ∈ cs, IsWordChar c
  opens : ∀ c ∈ cs.head?, ¬('0' ≤ c ∧ c ≤ '9')

theorem isDigit_iff_between {c : Char} : c.isDigit = true ↔ '0' ≤ c ∧ c ≤ '9' := by
  show (decide ('0' ≤ c) && decide (c ≤ '9')) = true ↔ _
  rw [Bool.and_eq_true, decide_eq_true_iff, decide_eq_true_iff]

/-- The characters that are let through are the letters, the digits and the underscore. -/
theorem isNameChar_iff {c : Char} : isNameChar c = true ↔ IsWordChar c := by
  have hupper : c.isUpper = true ↔ 'A' ≤ c ∧ c ≤ 'Z' := decide_eq_true_iff
  have hlower : c.isLower = true ↔ 'a' ≤ c ∧ c ≤ 'z' := by
    show (decide ('a' ≤ c) && decide (c ≤ 'z')) = true ↔ _
    rw [Bool.and_eq_true, decide_eq_true_iff, decide_eq_true_iff]
  show (c.isUpper || c.isLower || c.isDigit || c == '_') = true ↔ _
  rw [Bool.or_eq_true, Bool.or_eq_true, Bool.or_eq_true, hupper, hlower, isDigit_iff_between, beq_iff_eq, IsWordChar,
    or_assoc, or_assoc]

theorem IsIdentifier.notMem {cs : List Char} {c : Char} (h : IsIdentifier cs) (hc : isNameChar c = false) : c ∉ cs := by
  intro hmem
  rw [isNameChar_iff.mpr (h.words c hmem)] at hc
  cases hc

/-- What is left of a name without a line break at its end. -/
theorem isIdentifier_iff {cs : List Char} :
    IsIdentifier cs ↔ ∃ c rest, cs = c :: rest ∧ (!c.isDigit && cs.all isNameChar) = true := by
  constructor
  · rintro ⟨hne, hwords, hopens⟩
    obtain ⟨c, rest, rfl⟩ := List.exists_cons_of_ne_nil hne
    refine ⟨c, rest, rfl, ?_⟩
    rw [Bool.and_eq_true, Bool.not_eq_true', Bool.eq_false_iff, ne_eq, isDigit_iff_between, List.all_eq_true]
    exact ⟨hopens c rfl, fun d hd => isNameChar_iff.mpr (hwords d hd)⟩
  · rintro ⟨c, rest, rfl, h⟩
    rw [Bool.and_eq_true, Bool.not_eq_true', Bool.eq_false_iff, ne_eq, isDigit_iff_between, List.all_eq_true] at h
    refine ⟨List.cons_ne_nil _ _, fun d hd => isNameChar_iff.mp (h.2 d hd), ?_⟩
    rintro d ⟨⟩
    exact h.1

/-- A name is an identifier, apart from a line break at its end. -/
theorem isName_of_break (body : List Char) : isName (body ++ ['\n']) = true ↔ IsIdentifier body := by
  rw [isIdentifier_iff, isName, if_pos List.getLast?_concat, List.dropLast_concat]
  cases body with
  | nil => simp
  | cons c rest => simp

theorem isName_of_not_break {cs : List Char} (h : cs.getLast? ≠ some '\n') : isName cs = true ↔ IsIdentifier cs := by
  rw [isIdentifier_iff, isName, if_neg h]
  cases cs with
  | nil => simp
  | cons c rest => simp

/-- A name that is let through is an identifier, or one with a line break behind it. -/
theorem isName_iff {cs : List Char} :
    isName cs = true ↔ IsIdentifier cs ∨ ∃ body, IsIdentifier body ∧ cs = body ++ ['\n'] := by
  by_cases hlast : cs.getLast? = some '\n'
  · obtain ⟨front, rfl⟩ := List.getLast?_eq_some_iff.mp hlast
    have hbreak : ¬IsIdentifier (front ++ ['\n']) := fun h => h.notMem rfl (List.mem_append_right _ List.mem_cons_self)
    rw [isName_of_break]
    refine ⟨fun h => .inr ⟨front, h, rfl⟩, ?_⟩
    rintro (h | ⟨body, h, heq⟩)
    · exact absurd h hbreak
    · rwa [List.append_cancel_right heq]
  · rw [isName_of_not_break hlast]
    refine ⟨.inl, ?_⟩
    rintro (h | ⟨body, h, rfl⟩)
    · exact h
    · exact absurd List.getLast?_concat hlast

/-- The characters of names. -/
theorem isNameChar_or_newline {cs : List Char} (h : isName cs = true) : ∀ c ∈ cs, isNameChar c = true ∨ c = '\n' := by
  rcases isName_iff.mp h with hword | ⟨body, hword, rfl⟩
  · exact fun c hc => .inl (isNameChar_iff.mpr (hword.words c hc))
  · intro c hc
    rcases List.mem_append.mp hc with hc | hc
    · exact .inl (isNameChar_iff.mpr (hword.words c hc))
    · exact .inr (List.mem_singleton.mp hc)

/-- A text is let through as it is if it is an identifier, with or without a line break behind it. Any other text is refused,
and the fault names the role of the text and, unless it is empty, the text. -/
theorem Name.ofText?_iff_identifier (role text : String) :
    ((∃ n, ofText? role text = .ok n ∧ n.quoted = "\"" ++ text ++ "\"") ↔
      IsIdentifier text.toList ∨ ∃ body, IsIdentifier body ∧ text.toList = body ++ ['\n']) ∧
    ((¬∃ n, ofText? role text = .ok n) →
      ofText? role text = .error (if text = "" then .emptyName role else .badName role text)) := by
  rw [← isName_iff, ofText?]
  by_cases hempty : text = ""
  · subst hempty
    refine ⟨⟨?_, nofun⟩, fun _ => rfl⟩
    rintro ⟨n, hn, -⟩
    cases hn
  rw [if_neg hempty, if_neg hempty]
  by_cases hname : isName text.toList = true
  · rw [dif_pos hname]
    exact ⟨⟨fun _ => hname, fun _ => ⟨_, rfl, rfl⟩⟩, fun h => absurd ⟨_, rfl⟩ h⟩
  · rw [dif_neg hname]
    refine ⟨⟨?_, fun h => absurd h hname⟩, fun _ => rfl⟩
    rintro ⟨n, hn, -⟩
    cases hn

/-- A line break may follow a name, and then stands within its quotes. -/
theorem Name.make?_lineBreak : ¬IsIdentifier "id\n".toList ∧
    ∃ n, make? "id\n" = .ok n ∧ n.text = "id\n" ∧ n.quoted = "\"id\n\"" :=
  ⟨fun h => h.notMem (show isNameChar '\n' = false from rfl) (by decide), _, rfl, rfl, rfl⟩

end EntityViews.Sql
