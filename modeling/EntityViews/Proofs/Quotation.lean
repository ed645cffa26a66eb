import EntityViews.Json.Reader
import EntityViews.Json.Writer
import EntityViews.Proofs.Numerals
import EntityViews.Proofs.Computations
import Mathlib.Data.List.Chain

/-!
Texts in JSON strings. A character is written as it is, by a letter, or by the numbers of one or two units, and read back
from each of them. Two units read as one character if they are the halves of a pair, so a text in which two characters
that stand for such halves follow each other does not come back. Main statement: any other text does.
-/

namespace EntityViews

namespace Text

def isHighHalf (c : Char) : Bool := isHalf c && decide (codeOf c < 0xdc00)

def isLowHalf (c : Char) : Bool := isHalf c && decide (0xdc00 ≤ codeOf c)

def Unpaired (cs : List Char) : Prop := cs.IsChain fun c d => ¬(isHighHalf c = true ∧ isLowHalf d = true)

instance (cs : List Char) : Decidable (Unpaired cs) :=
  inferInstanceAs (Decidable (cs.IsChain fun c d => ¬(isHighHalf c = true ∧ isLowHalf d = true)))

theorem isHalf_iff {c : Char} : isHalf c = true ↔ 0x10f000 ≤ c.toNat ∧ c.toNat < 0x10f800 := by
  rw [isHalf, Bool.and_eq_true, decide_eq_true_iff, decide_eq_true_iff]
  rfl

theorem codeOf_of_isHalf {c : Char} (h : isHalf c = true) : codeOf c = c.toNat - 0x10f000 + 0xd800 := if_pos h

theorem codeOf_of_not_isHalf {c : Char} (h : isHalf c = false) : codeOf c = c.toNat := if_neg (Bool.eq_false_iff.mp h)

theorem toNat_valid (c : Char) : c.toNat < 0xd800 ∨ 0xdfff < c.toNat ∧ c.toNat < 0x110000 := c.valid

/-- The code point of a character is half of a pair only if the character stands for it. -/
theorem isHalf_of_codeOf {c : Char} (hlow : 0xd800 ≤ codeOf c) (hhigh : codeOf c < 0xe000) : isHalf c = true := by
  by_contra hc
  rw [codeOf_of_not_isHalf (Bool.eq_false_iff.mpr hc)] at hlow hhigh
  have hvalid := toNat_valid c
  omega

theorem isHighHalf_of_codeOf {c : Char} (hlow : 0xd800 ≤ codeOf c) (hhigh : codeOf c < 0xdc00) : isHighHalf c = true := by
  rw [isHighHalf, isHalf_of_codeOf hlow (Nat.lt_trans hhigh (by decide)), decide_eq_true hhigh]
  rfl

theorem isLowHalf_of_codeOf {c : Char} (hlow : 0xdc00 ≤ codeOf c) (hhigh : codeOf c < 0xe000) : isLowHalf c = true := by
  rw [isLowHalf, isHalf_of_codeOf (Nat.le_trans (by decide) hlow) hhigh, decide_eq_true hlow]
  rfl

/-- What lies beyond the basic plane is no half of a pair. -/
theorem codeOf_of_large {c : Char} (h : 0x10000 ≤ codeOf c) : codeOf c = c.toNat := by
  by_cases hc : isHalf c = true
  · obtain ⟨hlow, hhigh⟩ := isHalf_iff.mp hc
    have hcode := codeOf_of_isHalf hc
    omega
  · exact codeOf_of_not_isHalf (Bool.eq_false_iff.mpr hc)

theorem charOf_of_half {code : Nat} (hlow : 0xd800 ≤ code) (hhigh : code < 0xe000) :
    charOf code = Char.ofNat (code - 0xd800 + 0x10f000) := by
  rw [charOf, if_pos]
  · rfl
  · rw [Bool.and_eq_true, decide_eq_true_iff, decide_eq_true_iff]
    exact ⟨hlow, hhigh⟩

theorem charOf_of_not_half {code : Nat} (h : ¬(0xd800 ≤ code ∧ code < 0xe000)) : charOf code = Char.ofNat code := by
  rw [charOf, if_neg]
  rw [Bool.and_eq_true, decide_eq_true_iff, decide_eq_true_iff]
  exact h

/-- A character is got back from its code if the code is that of one unit. -/
theorem charOf_codeOf {c : Char} (h : codeOf c < 0x10000) : charOf (codeOf c) = c := by
  by_cases hc : isHalf c = true
  · obtain ⟨hlow, hhigh⟩ := isHalf_iff.mp hc
    have hcode := codeOf_of_isHalf hc
    have hstand : codeOf c - 0xd800 + 0x10f000 = c.toNat := by omega
    rw [charOf_of_half (by omega) (by omega), hstand, Char.ofNat_toNat]
  · rw [charOf_of_not_half fun h => hc (isHalf_of_codeOf h.1 h.2), codeOf_of_not_isHalf (Bool.eq_false_iff.mpr hc),
      Char.ofNat_toNat]

end Text

namespace Json

open Text

theorem hexDigit?_digitChar {k : Nat} (h : k < 16) : hexDigit? k.digitChar = some k := by
  have hall : ∀ k < 16, hexDigit? (Nat.digitChar k) = some k := by decide
  exact hall k h

/-- The four digits of a unit. -/
theorem toList_unit {n : Nat} (h : n < 0x10000) : (hex 4 n).toList =
    [(n / 16 / 16 / 16).digitChar, (n / 16 / 16 % 16).digitChar, (n / 16 % 16).digitChar, (n % 16).digitChar] := by
  rw [toList_hex, numeral_succ (by decide) (by decide), numeral_succ (by decide) (by decide),
    numeral_succ (by decide) (by decide), numeral_one (by omega)]
  rfl

/-- Four digits and more are read as the unit that the four are written for. -/
theorem readUnit?_hex {n : Nat} (h : n < 0x10000) (rest : List Char) : readUnit? ((hex 4 n).toList ++ rest) = some n := by
  have hsum : ((n / 16 / 16 / 16 * 16 + n / 16 / 16 % 16) * 16 + n / 16 % 16) * 16 + n % 16 = n := by omega
  rw [toList_unit h]
  show readUnit? (_ :: _ :: _ :: _ :: rest) = some n
  rw [readUnit?, hexDigit?_digitChar (by omega), hexDigit?_digitChar (Nat.mod_lt _ (by decide)),
    hexDigit?_digitChar (Nat.mod_lt _ (by decide)), hexDigit?_digitChar (Nat.mod_lt _ (by decide))]
  show some _ = some n
  rw [hsum]

theorem length_hex {n : Nat} (h : n < 0x10000) : (hex 4 n).toList.length = 4 := by
  rw [toList_hex, length_numeral (by decide) (by decide) h]

/-- Whether what follows half of a pair is read on its own: it is no escape of a second half. -/
def Apart (rest : List Char) : Prop :=
  ∀ more, rest = '\\' :: 'u' :: more → ∃ unit, readUnit? more = some unit ∧ ¬(0xdc00 ≤ unit ∧ unit < 0xe000)

theorem toList_unitEscape (n : Nat) : (unitEscape n).toList = '\\' :: 'u' :: (hex 4 n).toList := String.toList_append

/-- An escaped unit is read back as its character, if no second half follows a first. -/
theorem readUnitEscape_unit {n : Nat} {rest : List Char} (hn : n < 0x10000) (hrest : rest ≠ [])
    (hapart : 0xd800 ≤ n → n < 0xdc00 → Apart rest) :
    readUnitEscape ('u' :: ((hex 4 n).toList ++ rest)) = .ok (charOf n, rest) := by
  have hlength : ¬((hex 4 n).toList ++ rest).length ≤ 4 := by
    have hpos := List.length_pos_iff.mpr hrest
    rw [List.length_append, length_hex hn]
    omega
  have hdrop : ((hex 4 n).toList ++ rest).drop 4 = rest := List.drop_left' (length_hex hn)
  simp only [readUnitEscape, List.drop_succ_cons, List.drop_zero, if_neg hlength, readUnit?_hex hn, hdrop]
  split
  case h_1 more =>
    split
    case isTrue hpair =>
      simp only [Bool.and_eq_true, decide_eq_true_eq] at hpair
      obtain ⟨unit, hunit, hlow⟩ := hapart hpair.1.1 hpair.1.2 more rfl
      have hnot : ¬(decide (0xdc00 ≤ unit) && decide (unit < 0xe000)) = true := by simpa using hlow
      simp only [hunit, if_neg hnot]
    case isFalse => rfl
  case h_2 => rfl

/-- Two escaped halves are read back as the one character that they stand for. -/
theorem readUnitEscape_pair {high low : Nat} {rest : List Char} (hhigh : 0xd800 ≤ high ∧ high < 0xdc00)
    (hlow : 0xdc00 ≤ low ∧ low < 0xe000) (hrest : rest ≠ []) :
    readUnitEscape ('u' :: ((hex 4 high).toList ++ ((unitEscape low).toList ++ rest))) =
      .ok (Char.ofNat (0x10000 + (high - 0xd800) * 0x400 + (low - 0xdc00)), rest) := by
  have hfirst : high < 0x10000 := Nat.lt_trans hhigh.2 (by decide)
  have hsecond : low < 0x10000 := Nat.lt_trans hlow.2 (by decide)
  have hpos := List.length_pos_iff.mpr hrest
  have hlength : ¬((hex 4 high).toList ++ '\\' :: 'u' :: ((hex 4 low).toList ++ rest)).length ≤ 4 := by
    simp only [List.length_append, List.length_cons, length_hex hfirst, length_hex hsecond]
    omega
  have hmore : 6 < ('\\' :: 'u' :: ((hex 4 low).toList ++ rest)).length := by
    simp only [List.length_append, List.length_cons, length_hex hsecond]
    omega
  have hdrop : ((hex 4 high).toList ++ '\\' :: 'u' :: ((hex 4 low).toList ++ rest)).drop 4 =
      '\\' :: 'u' :: ((hex 4 low).toList ++ rest) := List.drop_left' (length_hex hfirst)
  have hend : ((hex 4 low).toList ++ rest).drop 4 = rest := List.drop_left' (length_hex hsecond)
  rw [toList_unitEscape, List.cons_append, List.cons_append]
  simp only [readUnitEscape, List.drop_succ_cons, List.drop_zero, if_neg hlength, readUnit?_hex hfirst, hdrop,
    readUnit?_hex hsecond, hend, hhigh, hlow, hmore, decide_true, Bool.and_self, if_true]

def written (c : Char) : List Char := (if isAsciiPlain c then c.toString else escape c).toList

theorem toList_quoted (s : String) : (quoted s).toList = '"' :: (s.toList.flatMap written ++ ['"']) := by
  rw [quoted, quotedWith, String.toList_append, String.toList_append, String.toList_join, List.flatMap_map]
  rfl

/-- The letter of numeric escapes is none of the letters that stand for characters. -/
theorem ne_u_of_letterEscape? {c l : Char} (h : letterEscape? l = some c) : l ≠ 'u' := by
  rintro rfl
  have hnone : letterEscape? 'u' = none := by decide
  rw [hnone] at h
  cases h

inductive Spelling (c : Char) : List Char → Prop
  | plain (h : isAsciiPlain c = true) : Spelling c [c]
  | letter {l : Char} (h : letterEscape? l = some c) : Spelling c ['\\', l]
  | unit (h : codeOf c < 0x10000) : Spelling c (unitEscape (codeOf c)).toList
  | pair {high low : Nat} (hhigh : 0xd800 ≤ high ∧ high < 0xdc00) (hlow : 0xdc00 ≤ low ∧ low < 0xe000)
      (h : 0x10000 + (high - 0xd800) * 0x400 + (low - 0xdc00) = c.toNat) :
      Spelling c ((unitEscape high).toList ++ (unitEscape low).toList)

/-- A character beyond the first plane is spelled as two halves. -/
theorem Spelling.beyond {c : Char} (h : 0x10000 ≤ codeOf c) :
    Spelling c ((unitEscape (0xd800 + (c.toNat - 0x10000) / 0x400)).toList ++
      (unitEscape (0xdc00 + (c.toNat - 0x10000) % 0x400)).toList) := by
  rw [codeOf_of_large h] at h
  have hvalid := toNat_valid c
  -- The units get names: sums with large numbers in them are counted out when a proof about them is checked.
  obtain ⟨high, hhigh⟩ : ∃ high, high = 0xd800 + (c.toNat - 0x10000) / 0x400 := ⟨_, rfl⟩
  obtain ⟨low, hlow⟩ : ∃ low, low = 0xdc00 + (c.toNat - 0x10000) % 0x400 := ⟨_, rfl⟩
  rw [← hhigh, ← hlow]
  exact .pair (by omega) (by omega) (by omega)

/-- What is written for a character is a spelling of it. -/
theorem spelling_written (c : Char) : Spelling c (written c) := by
  rw [written]
  by_cases hplain : isAsciiPlain c = true
  · rw [if_pos hplain, Char.toString, String.toList_singleton]
    exact .plain hplain
  rw [if_neg hplain, escape]
  split
  · next h => exact h ▸ .letter rfl
  split
  · next h => exact h ▸ .letter rfl
  split
  · next h => exact h ▸ .letter rfl
  split
  · next h => exact h ▸ .letter rfl
  split
  · next h => exact h ▸ .letter rfl
  split
  · next h => exact h ▸ .letter rfl
  split
  · next h => exact h ▸ .letter rfl
  split
  · next h => exact .unit h
  · next h =>
    rw [String.toList_append]
    exact .beyond (Nat.le_of_not_lt h)

namespace Spelling

theorem ne_nil {c : Char} {cs : List Char} (h : Spelling c cs) : cs ≠ [] := by
  cases h with
  | plain => exact List.cons_ne_nil _ _
  | letter => exact List.cons_ne_nil _ _
  | unit => exact toList_unitEscape _ ▸ List.cons_ne_nil _ _
  | pair => exact List.append_ne_nil_of_left_ne_nil (toList_unitEscape _ ▸ List.cons_ne_nil _ _) _

theorem apart {c : Char} {cs rest : List Char} (h : Spelling c cs) (hc : isLowHalf c = false) : Apart (cs ++ rest) := by
  intro more hmore
  cases h with
  | plain hplain =>
    cases hmore
    exact absurd hplain (by decide)
  | letter hletter =>
    cases hmore
    exact absurd rfl (ne_u_of_letterEscape? hletter)
  | unit hunit =>
    rw [toList_unitEscape, List.cons_append, List.cons_append] at hmore
    obtain rfl := (List.cons.inj (List.cons.inj hmore).2).2
    exact ⟨codeOf c, readUnit?_hex hunit rest, fun h => Bool.eq_false_iff.mp hc (isLowHalf_of_codeOf h.1 h.2)⟩
  | @pair high low hhigh hlow h =>
    rw [toList_unitEscape, List.append_assoc, List.cons_append, List.cons_append] at hmore
    obtain rfl := (List.cons.inj (List.cons.inj hmore).2).2
    exact ⟨high, readUnit?_hex (Nat.lt_trans hhigh.2 (by decide)) _, fun h => Nat.not_lt.mpr h.1 hhigh.2⟩

end Spelling

variable {start : List Char} {fuel : Nat} {seen rest : List Char} {c : Char}

theorem readString_plain (h : isAsciiPlain c = true) :
    readString start (fuel + 1) seen (c :: rest) = readString start fuel (c :: seen) rest := by
  simp only [isAsciiPlain, Bool.and_eq_true, decide_eq_true_eq, bne_iff_ne, ne_eq] at h
  obtain ⟨⟨⟨hblank, -⟩, hquote⟩, hslash⟩ := h
  have hcontrol : ¬c.toNat < 0x20 := Nat.not_lt.mpr hblank
  rw [readString.eq_def]
  simp only [if_neg hquote, if_neg hslash, if_neg hcontrol]

theorem readString_letter {l : Char} (h : letterEscape? l = some c) :
    readString start (fuel + 1) seen ('\\' :: l :: rest) = readString start fuel (c :: seen) rest := by
  rw [readString, if_neg (by decide), if_pos rfl, h]
  exact ne_u_of_letterEscape? h

theorem readString_unitEscape {more : List Char} (h : readUnitEscape ('u' :: more) = .ok (c, rest)) :
    readString start (fuel + 1) seen ('\\' :: 'u' :: more) = readString start fuel (c :: seen) rest := by
  rw [readString, if_neg (by decide), if_pos rfl]
  show (readUnitEscape ('u' :: more)).bind _ = _
  rw [h]
  rfl

/-- A character is read from each of its spellings, unless it is half of a pair before the other half. -/
theorem readString_spelling {cs : List Char} (h : Spelling c cs) (hrest : rest ≠ [])
    (hapart : isHighHalf c = true → Apart rest) :
    readString start (fuel + 1) seen (cs ++ rest) = readString start fuel (c :: seen) rest := by
  cases h with
  | plain hplain => exact readString_plain hplain
  | letter hletter => exact readString_letter hletter
  | unit hunit =>
    have hread := readUnitEscape_unit hunit hrest fun hlow hhigh => hapart (isHighHalf_of_codeOf hlow hhigh)
    rw [charOf_codeOf hunit] at hread
    rw [toList_unitEscape]
    exact readString_unitEscape hread
  | pair hhigh hlow h =>
    have hread := readUnitEscape_pair hhigh hlow hrest
    rw [h, Char.ofNat_toNat] at hread
    rw [List.append_assoc, toList_unitEscape]
    exact readString_unitEscape hread

/-- Characters written one after the other are read back, if no two of them make a pair. -/
theorem readString_written {cs : List Char} (h : Unpaired cs) (hfuel : cs.length < fuel) :
    readString start fuel seen (cs.flatMap written ++ '"' :: rest) = .ok (String.ofList (seen.reverse ++ cs), rest) := by
  induction cs generalizing fuel seen with
  | nil =>
    obtain ⟨fuel, rfl⟩ := Nat.exists_eq_add_one_of_ne_zero (Nat.ne_of_gt hfuel)
    rw [List.flatMap_nil, List.nil_append, readString.eq_def, List.append_nil]
    rfl
  | cons c cs ih =>
    obtain ⟨fuel, rfl⟩ := Nat.exists_eq_add_one_of_ne_zero (Nat.ne_of_gt (Nat.zero_lt_of_lt hfuel))
    -- A first half is read on its own if the next character is no second half, or if the text ends.
    have hapart : isHighHalf c = true → Apart (cs.flatMap written ++ '"' :: rest) := by
      intro hc
      cases cs with
      | nil =>
        intro more hmore
        cases hmore
      | cons d cs =>
        have hd := (List.isChain_cons_cons.mp h).1
        rw [List.flatMap_cons, List.append_assoc]
        exact (spelling_written d).apart (Bool.eq_false_iff.mpr fun hlow => hd ⟨hc, hlow⟩)
    have hrest : cs.flatMap written ++ '"' :: rest ≠ [] := List.append_ne_nil_of_right_ne_nil _ (List.cons_ne_nil _ _)
    rw [List.flatMap_cons, List.append_assoc, readString_spelling (spelling_written c) hrest hapart,
      ih h.tail (Nat.lt_of_succ_lt_succ hfuel), List.reverse_cons, List.append_assoc]
    rfl

theorem length_le_written (cs : List Char) : cs.length ≤ (cs.flatMap written).length := by
  induction cs with
  | nil => exact Nat.le_refl 0
  | cons c cs ih =>
    have hc := List.length_pos_iff.mpr (spelling_written c).ne_nil
    rw [List.flatMap_cons, List.length_append, List.length_cons]
    omega

/-- A quoted text is read as the text, if no two halves of a pair stand side by side in it. -/
theorem readString_quoted {s : String} (h : Unpaired s.toList) (hfuel : (quoted s).toList.length ≤ fuel) :
    ∃ body, (quoted s).toList ++ rest = '"' :: body ∧ ∀ start, readString start fuel [] body = .ok (s, rest) := by
  have hlength := length_le_written s.toList
  rw [toList_quoted, List.length_cons, List.length_append] at hfuel
  refine ⟨s.toList.flatMap written ++ '"' :: rest, ?_, ?_⟩
  · rw [toList_quoted, List.cons_append, List.append_assoc]
    rfl
  · intro start
    rw [readString_written h (by omega), List.reverse_nil, List.nil_append, String.ofList_toList]

/-- Reading an escape takes at least one character. -/
theorem length_readUnitEscape {cs : List Char} (h : readUnitEscape cs = .ok (c, rest)) : rest.length < cs.length := by
  -- Whatever is read, the letter is gone, and what is left is a part of what stood behind it.
  have hdigits : 4 < (cs.drop 1).length ∧ rest.length ≤ (cs.drop 1).length := by
    unfold readUnitEscape at h
    simp only at h
    split at h
    · cases h
    next hlength =>
    refine ⟨Nat.lt_of_not_le hlength, ?_⟩
    split at h
    · cases h
    have hdrop : ((cs.drop 1).drop 4).length ≤ (cs.drop 1).length := (List.drop_sublist _ _).length_le
    split at h
    · next more hmore =>
      have hafter : (more.drop 4).length ≤ more.length := (List.drop_sublist _ _).length_le
      have hlength : more.length + 2 ≤ (cs.drop 1).length := by rwa [hmore] at hdrop
      split at h
      · split at h
        · cases h
        split at h
        · rw [← (Prod.mk.inj (Except.ok.inj h)).2]
          omega
        · rw [← (Prod.mk.inj (Except.ok.inj h)).2]
          exact hdrop
      · rw [← (Prod.mk.inj (Except.ok.inj h)).2]
        exact hdrop
    · rw [← (Prod.mk.inj (Except.ok.inj h)).2]
      exact hdrop
  rw [List.length_drop] at hdigits
  omega

/-- What a string is read from is longer than the string. -/
theorem length_readString {s : String} {cs : List Char} (h : readString start fuel seen cs = .ok (s, rest)) :
    s.toList.length + rest.length < seen.length + cs.length := by
  fun_induction readString start fuel seen cs with
  | case1 | case2 | case4 | case7 | case8 => cases h
  | case3 fuel seen rest' =>
    cases h
    simp
  | case5 fuel seen more hquote ih =>
    -- A numeric escape gives one character and takes more than one.
    obtain ⟨⟨c, rest'⟩, hunit, hread⟩ := Except.bind_ok h
    have hlength := ih c rest' hread
    have hless := length_readUnitEscape hunit
    simp only [List.length_cons] at hlength hless ⊢
    omega
  | case6 fuel seen e more hquote hunit c hletter ih =>
    have hlength := ih h
    simp only [List.length_cons] at hlength ⊢
    omega
  | case9 fuel seen c more hquote hslash hcontrol ih =>
    have hlength := ih h
    simp only [List.length_cons] at hlength ⊢
    omega

end Json

end EntityViews
