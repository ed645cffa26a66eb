import EntityViews.Proofs.Lookup
import EntityViews.Proofs.Quotation

/-!
JSON texts read again. Every part of a written value is followed by a comma, a closing bracket or nothing, so it is clear
where it ends. Main statement: the text of a JSON value is read as the value, if the value fits into what is read at all.
-/

namespace EntityViews

/-- The JSON values that are read again, below at most so many brackets: their numbers are not too long, their maps have
texts as keys, none twice, and no text holds the halves of a pair side by side. -/
inductive Value.Fits : Nat → Value → Prop
  | null (room : Nat) : Fits room .null
  | bool (room : Nat) (b : Bool) : Fits room (.bool b)
  | int (room : Nat) (n : Int) (short : (Nat.toDigits 10 n.natAbs).length ≤ digitLimit) : Fits room (.int n)
  | text (room : Nat) (s : String) (unpaired : Text.Unpaired s.toList) : Fits room (.text s)
  | list (room : Nat) (items : List Value) (fits : ∀ item ∈ items, Fits room item) : Fits (room + 1) (.list items)
  | map (room : Nat) (fields : List (String × Value)) (unpaired : ∀ f ∈ fields, Text.Unpaired f.1.toList)
      (distinct : (fields.map Prod.fst).Nodup) (fits : ∀ f ∈ fields, Fits room f.2) : Fits (room + 1) (Value.ofFields fields)

namespace Json

/-- Whether a value ends before some characters: there are none, or a comma or closing bracket. -/
def Closed (rest : List Char) : Prop := ∀ c ∈ rest.head?, c = ',' ∨ c = ']' ∨ c = '\x7d'

def Opens (cs : List Char) : Prop := ∃ c more, cs = c :: more ∧ c.toNat < 128 ∧ isSpace c = false ∧ c ≠ ']' ∧ c ≠ '\x7d'

structure Reads (room : Nat) (v : Value) (cs : List Char) : Prop where
  opens : Opens cs
  read : ∀ {fuel : Nat} {rest : List Char}, cs.length ≤ fuel → Closed rest →
    readValue room fuel (cs ++ rest) = .ok (v, rest)

theorem Opens.length_pos {cs : List Char} (h : Opens cs) : 0 < cs.length := by
  obtain ⟨c, cs, rfl, -⟩ := h
  exact Nat.succ_pos _

/-! ### Numbers and words -/

section Plain

variable {room fuel : Nat} {c : Char} {cs rest : List Char}

theorem readValue_plain (h : c ≠ '"' ∧ c ≠ '[' ∧ c ≠ '\x7b') : readValue room (fuel + 1) (c :: cs) =
    match readWord? (c :: cs) with
    | some found => .ok found
    | none => readNumber (c :: cs) := by
  rw [readValue.eq_def]
  split
  · next heq => cases heq
  · next heq =>
    cases heq
    split
    · next heq => exact absurd (List.head_eq_of_cons_eq heq) h.1
    · next heq => exact absurd (List.head_eq_of_cons_eq heq) h.2.1
    · next heq => exact absurd (List.head_eq_of_cons_eq heq) h.2.2
    · rfl

theorem Closed.not_digit (h : Closed rest) : rest.takeWhile Char.isDigit = [] ∧ rest.dropWhile Char.isDigit = rest := by
  cases rest with
  | nil => exact ⟨rfl, rfl⟩
  | cons c rest =>
    rcases h c rfl with rfl | rfl | rfl <;> exact ⟨rfl, rfl⟩

theorem readFraction_of_closed (h : Closed rest) : readFraction rest = ([], rest) := by
  cases rest with
  | nil => rfl
  | cons c rest => rcases h c rfl with rfl | rfl | rfl <;> rfl

theorem readExponent_of_closed (h : Closed rest) : readExponent rest = ([], rest) := by
  cases rest with
  | nil => rfl
  | cons c rest => rcases h c rfl with rfl | rfl | rfl <;> rfl

/-- The whole part of a number ends with its digits, and it opens with a zero only if that is all of it. -/
theorem readWhole?_digits {ds : List Char} (hds : ∀ d ∈ ds, d.isDigit = true)
    (hopens : ds = ['0'] ∨ ∃ d more, ds = d :: more ∧ d ≠ '0')
    (hrest : rest.takeWhile Char.isDigit = [] ∧ rest.dropWhile Char.isDigit = rest) :
    Json.readWhole? (ds ++ rest) = some (ds, rest) := by
  rcases hopens with rfl | ⟨d, more, rfl, hd⟩
  · rfl
  · have htake : (d :: more ++ rest).takeWhile Char.isDigit = d :: more := by
      rw [List.takeWhile_append_of_pos hds, hrest.1, List.append_nil]
    have hdrop : (d :: more ++ rest).dropWhile Char.isDigit = rest := by
      rw [List.dropWhile_append_of_pos hds, hrest.2]
    rw [List.cons_append] at htake hdrop ⊢
    rw [Json.readWhole?, if_pos (hds d List.mem_cons_self), htake, hdrop]
    exact hd

def sign (negative : Bool) : List Char := if negative then ['-'] else []

/-- What becomes of the parts of a number, once they are told apart. -/
theorem readNumber_parts {negative : Bool} {body whole fraction exponent behind more : List Char}
    (hopens : ∃ c cs, body = c :: cs ∧ c.isDigit = true) (hwhole : Json.readWhole? body = some (whole, behind))
    (hfraction : readFraction behind = (fraction, more)) (hexponent : readExponent more = (exponent, rest)) :
    readNumber (sign negative ++ body) =
      if fraction.isEmpty && exponent.isEmpty then
        match wholeNumber (String.ofList (sign negative ++ whole)) with
        | .ok n => .ok (.int n, rest)
        | .error (.tooLong digits) => .error (.tooLong digits)
        | .error .malformed => stopAt .value (sign negative ++ body).length
      else
        .ok (.float ((Binary64.ofText? (String.ofList (sign negative ++ whole ++ fraction ++ exponent))).getD (.nan none)),
          rest) := by
  rw [readNumber.eq_def]
  split
  next minus unsigned hsplit =>
  -- The sign is told apart, since the number behind it opens with a digit.
  have hsigned : minus = negative ∧ unsigned = body := by
    obtain ⟨c, cs, rfl, hc⟩ := hopens
    cases negative with
    | true =>
      cases hsplit
      exact ⟨rfl, rfl⟩
    | false =>
      split at hsplit
      · next heq =>
        cases heq
        exact absurd hc (by decide)
      · cases hsplit
        exact ⟨rfl, rfl⟩
  obtain ⟨rfl, rfl⟩ := hsigned
  simp only [hwhole, hfraction, hexponent]
  rfl

theorem toList_intText_sign (n : Int) : (intText n).toList = sign (decide (n < 0)) ++ Nat.toDigits 10 n.natAbs := by
  rw [toList_intText, sign]
  simp only [decide_eq_true_eq]

/-- An integer with few enough digits is read back. -/
theorem readNumber_intText {n : Int} (hshort : (Nat.toDigits 10 n.natAbs).length ≤ digitLimit) (h : Closed rest) :
    readNumber ((intText n).toList ++ rest) = .ok (.int n, rest) := by
  have hopens : Nat.toDigits 10 n.natAbs = ['0'] ∨ ∃ d more, Nat.toDigits 10 n.natAbs = d :: more ∧ d ≠ '0' := by
    by_cases hn : n.natAbs = 0
    · rw [hn]
      exact .inl rfl
    · obtain ⟨d, more, hdigits, -, hd⟩ := exists_toDigits hn
      exact .inr ⟨d, more, hdigits, hd⟩
  have hwhole := readWhole?_digits (fun _ hd => isDigit_of_mem_toDigits hd) hopens h.not_digit
  have hfirst : ∃ c cs, Nat.toDigits 10 n.natAbs ++ rest = c :: cs ∧ c.isDigit = true := by
    obtain ⟨c, cs, hdigits, hc⟩ := exists_digit n.natAbs
    exact ⟨c, cs ++ rest, by rw [hdigits, List.cons_append], hc⟩
  have hnumber : wholeNumber (String.ofList (sign (decide (n < 0)) ++ Nat.toDigits 10 n.natAbs)) = .ok n := by
    rw [← toList_intText_sign, String.ofList_toList, wholeNumber_intText hshort]
  rw [toList_intText_sign, List.append_assoc,
    readNumber_parts hfirst hwhole (readFraction_of_closed h) (readExponent_of_closed h), hnumber]
  rfl

theorem readWord?_eq_none (h : ∀ w ∈ words, w.1.toList.isPrefixOf cs = false) : readWord? cs = none := by
  rw [readWord?, List.findSome?_eq_none_iff]
  intro w hw
  rw [h w hw]
  rfl

theorem readWord?_of_isDigit (h : c.isDigit = true) : readWord? (c :: cs) = none ∧ readWord? ('-' :: c :: cs) = none := by
  have hne : ∀ {d : Char}, d.isDigit = false → (d == c) = false := fun hd => beq_false_of_ne (ne_of_isDigit h hd).symm
  exact ⟨readWord?_eq_none (by simp [words, List.isPrefixOf, hne]),
    readWord?_eq_none (by simp [words, List.isPrefixOf, hne])⟩

/-- A text that is neither quoted nor enclosed is read as a word or as a number. -/
theorem Reads.of_plain {v : Value} (hopens : c.toNat < 128 ∧ isSpace c = false ∧ c ≠ ']' ∧ c ≠ '\x7d')
    (hplain : c ≠ '"' ∧ c ≠ '[' ∧ c ≠ '\x7b')
    (hread : ∀ rest, Closed rest → readWord? (c :: (cs ++ rest)) = some (v, rest) ∨
      readWord? (c :: (cs ++ rest)) = none ∧ readNumber (c :: (cs ++ rest)) = .ok (v, rest)) :
    Reads room v (c :: cs) := by
  refine ⟨⟨c, cs, rfl, hopens⟩, ?_⟩
  intro fuel rest hfuel hrest
  obtain ⟨fuel, rfl⟩ := Nat.exists_eq_add_one_of_ne_zero (Nat.ne_of_gt (Nat.lt_of_lt_of_le (Nat.succ_pos _) hfuel))
  rw [List.cons_append, readValue_plain hplain]
  rcases hread rest hrest with hword | ⟨hword, hnumber⟩
  · rw [hword]
  · rw [hword, hnumber]

/-- A number opens with a digit, perhaps behind a sign. -/
theorem Reads.of_number {v : Value} (negative : Bool) (hc : c.isDigit = true)
    (hread : ∀ rest, Closed rest → readNumber (sign negative ++ c :: cs ++ rest) = .ok (v, rest)) :
    Reads room v (sign negative ++ c :: cs) := by
  cases negative with
  | true => exact .of_plain (by decide) (by decide) fun rest hrest => .inr ⟨(readWord?_of_isDigit hc).2, hread rest hrest⟩
  | false =>
    have hne : ∀ d : Char, d.isDigit = false → c ≠ d := fun _ hd => ne_of_isDigit hc hd
    obtain ⟨_, hnine⟩ := toNat_of_isDigit hc
    have hspace : isSpace c = false := by
      simp [isSpace, hne ' ' rfl, hne '\t' rfl, hne '\n' rfl, hne '\r' rfl]
    exact .of_plain ⟨by omega, hspace, hne _ rfl, hne _ rfl⟩ ⟨hne _ rfl, hne _ rfl, hne _ rfl⟩
      fun rest hrest => .inr ⟨(readWord?_of_isDigit hc).1, hread rest hrest⟩

theorem reads_int {n : Int} (hshort : (Nat.toDigits 10 n.natAbs).length ≤ digitLimit) :
    Reads room (.int n) (intText n).toList := by
  obtain ⟨c, cs, hdigits, hc⟩ := exists_digit n.natAbs
  have hnumber : ∀ rest, Closed rest → readNumber ((intText n).toList ++ rest) = .ok (.int n, rest) :=
    fun _ hrest => readNumber_intText hshort hrest
  rw [toList_intText_sign, hdigits] at hnumber ⊢
  exact .of_number _ hc hnumber

theorem reads_null : Reads room .null "null".toList :=
  .of_plain (by decide) (by decide) fun _ _ => .inl rfl

theorem reads_bool (b : Bool) : Reads room (.bool b) (if b then "true" else "false").toList := by
  cases b with
  | true => exact .of_plain (by decide) (by decide) fun _ _ => .inl rfl
  | false => exact .of_plain (by decide) (by decide) fun _ _ => .inl rfl

/-! ### Texts, lists and maps -/

/-- A text without halves that make a pair is read back. -/
theorem reads_text {s : String} (h : Text.Unpaired s.toList) : Reads room (.text s) (quoted s).toList := by
  have hopens : Opens (quoted s).toList := ⟨'"', _, toList_quoted s, by decide⟩
  refine ⟨hopens, ?_⟩
  intro fuel rest hfuel _
  obtain ⟨fuel, rfl⟩ := Nat.exists_eq_add_one_of_ne_zero (Nat.ne_of_gt (Nat.lt_of_lt_of_le hopens.length_pos hfuel))
  obtain ⟨body, hbody, hread⟩ := readString_quoted h hfuel
  rw [hbody, readValue, hread]
  rfl

theorem skipSpace_cons (h : isSpace c = false) : skipSpace (c :: cs) = c :: cs := by
  rw [skipSpace, List.dropWhile_cons, if_neg (Bool.eq_false_iff.mp h)]

namespace Opens

theorem append (h : Opens cs) : Opens (cs ++ rest) := by
  obtain ⟨c, cs, rfl, hc⟩ := h
  exact ⟨c, cs ++ rest, rfl, hc⟩

theorem intercalate {sep : List Char} {texts : List (List Char)} (h : Opens cs) : Opens (sep.intercalate (cs :: texts)) := by
  cases texts with
  | nil => rwa [List.intercalate_singleton]
  | cons text texts =>
    rw [List.intercalate_cons_cons, List.append_assoc]
    exact h.append

theorem skipSpace (h : Opens cs) : skipSpace cs = cs := by
  obtain ⟨c, cs, rfl, -, hc, -⟩ := h
  exact skipSpace_cons hc

/-- The blank after a comma or colon is skipped. -/
theorem skipSpace_blank (h : Opens cs) : Json.skipSpace (' ' :: cs) = cs := h.skipSpace

end Opens

theorem closed_nil : Closed [] := by
  rintro c ⟨⟩

theorem closed_cons (h : c = ',' ∨ c = ']' ∨ c = '\x7d') : Closed (c :: rest) := by
  rintro d ⟨⟩
  exact h

def comma : List Char := [',', ' ']

/-- Parts with separators between them are read one after the other, if a part is read before the closing bracket and
before a separator and more parts. -/
theorem read_intercalate {α β : Type} {read : Nat → List Char → Reading (List β × List Char)} {R : α → List Char → Prop}
    {value : α → β} {close : Char} {parts : List α} {texts : List (List Char)} (hopens : ∀ {a cs}, R a cs → Opens cs)
    (hlast : ∀ {a cs fuel}, R a cs → cs.length ≤ fuel → read (fuel + 1) (cs ++ close :: rest) = .ok ([value a], rest))
    (hnext : ∀ {a cs fuel more values}, R a cs → cs.length ≤ fuel → Opens more → read fuel more = .ok (values, rest) →
      read (fuel + 1) (cs ++ ',' :: ' ' :: more) = .ok (value a :: values, rest))
    (h : List.Forall₂ R parts texts) (hne : parts ≠ []) (hfuel : (comma.intercalate texts).length < fuel) :
    read fuel (comma.intercalate texts ++ close :: rest) = .ok (parts.map value, rest) := by
  -- Each part costs the reader one step besides its own, and the separator before the next one pays for it.
  induction h generalizing fuel with
  | nil => exact absurd rfl hne
  | @cons part text parts texts hpart hparts ih =>
    obtain ⟨fuel, rfl⟩ := Nat.exists_eq_add_one_of_ne_zero (Nat.ne_of_gt (Nat.zero_lt_of_lt hfuel))
    cases hparts with
    | nil =>
      rw [List.intercalate_singleton] at hfuel ⊢
      exact hlast hpart (Nat.le_of_lt_succ hfuel)
    | @cons next nextText parts texts hnextPart hparts =>
      rw [List.intercalate_cons_cons, List.length_append, List.length_append, show comma.length = 2 from rfl] at hfuel
      have hrest : read fuel (comma.intercalate (nextText :: texts) ++ close :: rest) =
          .ok ((next :: parts).map value, rest) := ih (List.cons_ne_nil _ _) (by omega)
      rw [List.intercalate_cons_cons, List.append_assoc, List.append_assoc]
      exact hnext hpart (by omega) (hopens hnextPart).intercalate.append hrest

theorem readItems_intercalate {items : List Value} {texts : List (List Char)} (h : List.Forall₂ (Reads room) items texts)
    (hne : items ≠ []) (hfuel : (comma.intercalate texts).length < fuel) :
    readItems room fuel (comma.intercalate texts ++ ']' :: rest) = .ok (items, rest) := by
  have hread : readItems room fuel (comma.intercalate texts ++ ']' :: rest) = .ok (items.map id, rest) := by
    refine read_intercalate Reads.opens ?_ ?_ h hne hfuel
    · intro item cs fuel hitem hlength
      rw [readItems, hitem.read hlength (closed_cons (by decide))]
      rfl
    · intro item cs fuel more items hitem hlength hmore hitems
      rw [readItems, hitem.read hlength (closed_cons (by decide))]
      show (readItems room fuel (skipSpace (' ' :: more))).bind _ = _
      rw [hmore.skipSpace_blank, hitems]
      rfl
  rwa [List.map_id] at hread

/-- A list is read back if its items are, one level deeper. -/
theorem reads_list {items : List Value} {texts : List (List Char)} (h : List.Forall₂ (Reads room) items texts) :
    Reads (room + 1) (.list items) ('[' :: (comma.intercalate texts ++ [']'])) := by
  refine ⟨⟨'[', _, rfl, by decide⟩, ?_⟩
  intro fuel rest hfuel _
  rw [List.length_cons, List.length_append, List.length_singleton] at hfuel
  obtain ⟨fuel, rfl⟩ := Nat.exists_eq_add_one_of_ne_zero (Nat.ne_of_gt (Nat.lt_of_lt_of_le (Nat.succ_pos _) hfuel))
  rw [List.cons_append, List.append_assoc, readValue, if_neg (Nat.succ_ne_zero room)]
  cases h with
  | nil => rfl
  | @cons item text items texts hitem hitems =>
    have hread := @readItems_intercalate room fuel rest _ _ (.cons hitem hitems) (List.cons_ne_nil _ _) (by omega)
    have hopens : Opens (comma.intercalate (text :: texts) ++ ']' :: rest) := hitem.opens.intercalate.append
    rw [List.singleton_append, hopens.skipSpace, Nat.add_sub_cancel]
    obtain ⟨c, cs, hc, -, -, hbracket, -⟩ := hopens
    rw [hc] at hread ⊢
    split
    · next heq => exact absurd (List.head_eq_of_cons_eq heq) hbracket
    · rw [hread]
      rfl

inductive ReadsField (room : Nat) (f : String × Value) : List Char → Prop
  | mk {text : List Char} (unpaired : Text.Unpaired f.1.toList) (reads : Reads room f.2 text) :
    ReadsField room f ((quoted f.1).toList ++ ':' :: ' ' :: text)

theorem ReadsField.opens {f : String × Value} (h : ReadsField room f cs) : Opens cs := by
  cases h with
  | mk unpaired reads => exact (@reads_text room _ unpaired).opens.append

/-- After a field comes the end of its map, or a comma and more fields. -/
theorem readEntries_field {f : String × Value} (h : ReadsField room f cs) (hfuel : cs.length ≤ fuel) (hrest : Closed rest) :
    readEntries room (fuel + 1) (cs ++ rest) =
      match skipSpace rest with
      | '\x7d' :: rest => .ok ([(.text f.1, f.2)], rest)
      | ',' :: rest => do
        let (entries, rest) ← readEntries room fuel (skipSpace rest)
        return ((.text f.1, f.2) :: entries, rest)
      | rest => stopAt .comma rest.length := by
  cases h with
  | @mk text unpaired reads =>
    rw [List.length_append, List.length_cons, List.length_cons] at hfuel
    obtain ⟨body, hbody, hname⟩ := @readString_quoted (fuel + 1) (':' :: ' ' :: (text ++ rest)) _ unpaired (by omega)
    have hvalue : readValue room fuel (skipSpace (' ' :: (text ++ rest))) = .ok (f.2, rest) := by
      rw [reads.opens.append.skipSpace_blank]
      exact reads.read (by omega) hrest
    rw [List.append_assoc, List.cons_append, List.cons_append, hbody, readEntries, hname]
    show (readValue room fuel (skipSpace (' ' :: (text ++ rest)))).bind _ = _
    rw [hvalue]
    rfl

/-- Fields with commas between them are read back one by one, up to the closing bracket. -/
theorem readEntries_intercalate {fields : List (String × Value)} {texts : List (List Char)}
    (h : List.Forall₂ (ReadsField room) fields texts) (hne : fields ≠ []) (hfuel : (comma.intercalate texts).length < fuel) :
    readEntries room fuel (comma.intercalate texts ++ '\x7d' :: rest) =
      .ok (fields.map fun f => (.text f.1, f.2), rest) := by
  refine read_intercalate ReadsField.opens ?_ ?_ h hne hfuel
  · intro f cs fuel hfield hlength
    rw [readEntries_field hfield hlength (closed_cons (by decide))]
    rfl
  · intro f cs fuel more entries hfield hlength hmore hentries
    rw [readEntries_field hfield hlength (closed_cons (by decide))]
    show (readEntries room fuel (skipSpace (' ' :: more))).bind _ = _
    rw [hmore.skipSpace_blank, hentries]
    rfl

/-- A mapping is read back if its fields are and no name is repeated. -/
theorem reads_map {fields : List (String × Value)} {texts : List (List Char)}
    (h : List.Forall₂ (ReadsField room) fields texts) (hdistinct : (fields.map Prod.fst).Nodup) :
    Reads (room + 1) (Value.ofFields fields) ('\x7b' :: (comma.intercalate texts ++ ['\x7d'])) := by
  -- A name that came again would replace the value of the first one.
  have hcollect : collect (fields.map fun f => (Value.text f.1, f.2)) = fields.map fun f => (Value.text f.1, f.2) := by
    apply collect_eq_self
    rw [List.pairwise_map]
    refine (List.pairwise_map.mp hdistinct).imp ?_
    intro f g hne
    rw [Bool.eq_false_iff, ne_eq, Value.same_text_iff, Value.asText?_text, Option.some.injEq]
    exact hne
  refine ⟨⟨'\x7b', _, rfl, by decide⟩, ?_⟩
  intro fuel rest hfuel _
  rw [List.length_cons, List.length_append, List.length_singleton] at hfuel
  obtain ⟨fuel, rfl⟩ := Nat.exists_eq_add_one_of_ne_zero (Nat.ne_of_gt (Nat.lt_of_lt_of_le (Nat.succ_pos _) hfuel))
  rw [List.cons_append, List.append_assoc, readValue, if_neg (Nat.succ_ne_zero room)]
  cases h with
  | nil => rfl
  | @cons f text fields texts hfield hfields =>
    have hread := @readEntries_intercalate room fuel rest _ _ (.cons hfield hfields) (List.cons_ne_nil _ _) (by omega)
    have hopens : Opens (comma.intercalate (text :: texts) ++ '\x7d' :: rest) := hfield.opens.intercalate.append
    rw [List.singleton_append, hopens.skipSpace, Nat.add_sub_cancel]
    obtain ⟨c, cs, hc, -, -, -, hbrace⟩ := hopens
    rw [hc] at hread ⊢
    split
    · next heq => exact absurd (List.head_eq_of_cons_eq heq) hbrace
    · rw [hread]
      show Except.ok (Value.map (collect _), rest) = _
      rw [hcollect]
      rfl

end Plain

/-! ### Values -/

variable {room : Nat} {fallback : Fallback}

def Written (fallback : Fallback) (room : Nat) (v : Value) : Prop :=
  ∃ text, write? fallback v = some text ∧ Reads room v text.toList

namespace Written

/-- Items that can each be written can be written as a list, and are read back. -/
theorem items {items : List Value} (h : ∀ item ∈ items, Written fallback room item) :
    ∃ texts, writeItems? fallback items = some texts ∧ List.Forall₂ (Reads room) items (texts.map String.toList) := by
  induction items with
  | nil => exact ⟨[], rfl, .nil⟩
  | cons item items ih =>
    obtain ⟨text, hwrite, hreads⟩ := h item List.mem_cons_self
    obtain ⟨texts, hwrites, hall⟩ := ih fun other hother => h other (List.mem_cons_of_mem _ hother)
    refine ⟨text :: texts, ?_, .cons hreads hall⟩
    rw [writeItems?, hwrite, hwrites]
    rfl

/-- Fields that can each be written can be written as a mapping, and are read back. -/
theorem entries {fields : List (String × Value)} (hnames : ∀ f ∈ fields, Text.Unpaired f.1.toList)
    (h : ∀ f ∈ fields, Written fallback room f.2) :
    ∃ texts, writeEntries? fallback (fields.map fun f => (.text f.1, f.2)) = some texts ∧
      List.Forall₂ (ReadsField room) fields (texts.map String.toList) := by
  induction fields with
  | nil => exact ⟨[], rfl, .nil⟩
  | cons f fields ih =>
    obtain ⟨text, hwrite, hreads⟩ := h f List.mem_cons_self
    obtain ⟨texts, hwrites, hall⟩ := ih (fun g hg => hnames g (List.mem_cons_of_mem _ hg))
      fun g hg => h g (List.mem_cons_of_mem _ hg)
    have hfield : (quoted f.1 ++ ": " ++ text).toList = (quoted f.1).toList ++ ':' :: ' ' :: text.toList := by
      rw [String.toList_append, String.toList_append, List.append_assoc]
      rfl
    refine ⟨(quoted f.1 ++ ": " ++ text) :: texts, ?_, ?_⟩
    · rw [List.map_cons, writeEntries?, hwrite, hwrites]
      rfl
    · rw [List.map_cons, hfield]
      exact .cons ⟨hnames f List.mem_cons_self, hreads⟩ hall

/-- A list can be written and read back if its items can. -/
theorem list {items : List Value} (h : ∀ item ∈ items, Written fallback room item) :
    Written fallback (room + 1) (.list items) := by
  obtain ⟨texts, hwrites, hall⟩ := Written.items h
  refine ⟨"[" ++ ", ".intercalate texts ++ "]", ?_, ?_⟩
  · rw [write?, hwrites]
    rfl
  · rw [String.toList_append, String.toList_append, String.toList_intercalate]
    exact reads_list hall

/-- A mapping can be written and read back if its fields can. -/
theorem map {fields : List (String × Value)} (hnames : ∀ f ∈ fields, Text.Unpaired f.1.toList)
    (hdistinct : (fields.map Prod.fst).Nodup) (h : ∀ f ∈ fields, Written fallback room f.2) :
    Written fallback (room + 1) (Value.ofFields fields) := by
  obtain ⟨texts, hwrites, hall⟩ := entries hnames h
  refine ⟨"\x7b" ++ ", ".intercalate texts ++ "\x7d", ?_, ?_⟩
  · rw [Value.ofFields, write?, hwrites]
    rfl
  · rw [String.toList_append, String.toList_append, String.toList_intercalate]
    exact reads_map hall hdistinct

/-- A value that is written and read below no other bracket is read from its text alone. -/
theorem read {v : Value} (h : Written fallback deepest v) : ∃ text, write? fallback v = some text ∧ read text = .ok v := by
  obtain ⟨text, hwrite, hreads⟩ := h
  refine ⟨text, hwrite, ?_⟩
  have hmark : ¬text.toList.head? = some '\ufeff' := by
    obtain ⟨c, cs, hc, hlow, -⟩ := hreads.opens
    rw [hc]
    rintro ⟨⟩
    exact absurd hlow (by decide)
  have hread : readValue deepest (2 * text.toList.length + 2) text.toList = .ok (v, []) := by
    have hread := @hreads.read (2 * text.toList.length + 2) [] (by omega) closed_nil
    rwa [List.append_nil] at hread
  have hall : readAll text.toList = .ok v := by
    rw [readAll, if_neg hmark, hreads.opens.skipSpace, hread]
    rfl
  rw [Json.read, hall]
  rfl

end Written

/-- The text of a JSON value is read as the value wherever it stands. -/
theorem written_of_fits (fallback : Fallback) {v : Value} (h : v.Fits room) : Written fallback room v := by
  -- On the derivation that the value fits: the room that is left goes down with each bracket.
  induction h with
  | null => exact ⟨_, rfl, reads_null⟩
  | bool room b => exact ⟨_, rfl, reads_bool b⟩
  | int room n short => exact ⟨_, rfl, reads_int short⟩
  | text room s unpaired => exact ⟨_, rfl, reads_text unpaired⟩
  | list room items fits ih => exact .list ih
  | map room fields unpaired distinct fits ih => exact .map unpaired distinct ih

/-- A JSON value that fits is written, and its text is read as the value. -/
theorem read_write (fallback : Fallback) {v : Value} (h : v.Fits deepest) :
    ∃ text, write? fallback v = some text ∧ read text = .ok v :=
  (written_of_fits fallback h).read

end Json

end EntityViews
