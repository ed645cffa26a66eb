import EntityViews.Calendar.Reader
import EntityViews.Number.Decimal
import EntityViews.Text.Quoted
import Mathlib.Algebra.Group.Nat.Defs

/-!
Numerals: the digits of a whole number, filled up with zeros to a width, and what reading them gives back. Dates and
offsets are written in numerals of base ten, code points in numerals of base sixteen.
-/

namespace EntityViews

theorem ne_of_isDigit {c d : Char} (hc : c.isDigit = true) (hd : d.isDigit = false) : c ≠ d := by
  rintro rfl
  exact Bool.false_ne_true (hd.symm.trans hc)

theorem toNat_of_isDigit {c : Char} (h : c.isDigit = true) : 48 ≤ c.toNat ∧ c.toNat ≤ 57 := Char.isDigit_iff_toNat.mp h

def numeral (base width n : Nat) : List Char :=
  List.replicate (width - (Nat.toDigits base n).length) '0' ++ Nat.toDigits base n

theorem toList_padLeft (width n : Nat) : (padLeft width '0' (decimalText n)).toList = numeral 10 width n := by
  rw [padLeft, decimalText, String.toList_append, String.toList_ofList, String.toList_ofList, String.length_ofList]
  rfl

theorem toList_hex (width n : Nat) : (Text.hex width n).toList = numeral 16 width n := String.toList_ofList

theorem length_numeral {base width n : Nat} (hbase : 1 < base) (hwidth : 0 < width) (h : n < base ^ width) :
    (numeral base width n).length = width := by
  have hdigits := (Nat.length_toDigits_le_iff hbase hwidth).mpr h
  rw [numeral, List.length_append, List.length_replicate]
  omega

/-- The last digit of a numeral is the remainder by its base, those before it are a numeral of the quotient. -/
theorem numeral_succ {base width n : Nat} (hbase : 1 < base) (hwidth : 0 < width) :
    numeral base (width + 1) n = numeral base width (n / base) ++ [(n % base).digitChar] := by
  rcases Nat.lt_or_ge n base with hn | hn
  · have hzeros : width = (width - 1) + 1 := by omega
    have hzero : Nat.toDigits base 0 = ['0'] := Nat.toDigits_of_lt_base (Nat.zero_lt_of_lt hbase)
    rw [numeral, numeral, Nat.toDigits_of_lt_base hn, Nat.div_eq_of_lt hn, Nat.mod_eq_of_lt hn, hzero, hzeros]
    simp [List.replicate_succ']
  · rw [numeral, numeral, Nat.toDigits_of_base_le hbase hn, List.length_append, List.length_singleton, Nat.add_sub_add_right,
      List.append_assoc]

theorem numeral_one {base n : Nat} (h : n < base) : numeral base 1 n = [n.digitChar] := by
  rw [numeral, Nat.toDigits_of_lt_base h]
  rfl

theorem isDigit_of_mem_numeral {width n : Nat} {c : Char} (h : c ∈ numeral 10 width n) : c.isDigit = true := by
  rcases List.mem_append.mp h with h | h
  · rw [List.eq_of_mem_replicate h]
    rfl
  · exact Nat.isDigit_of_mem_toDigits (by decide) (by decide) h

theorem ofDigitChars_numeral (width n : Nat) : Nat.ofDigitChars 10 (numeral 10 width n) 0 = n := by
  rw [numeral, Nat.ofDigitChars_append, Nat.ofDigitChars_replicate_zero, Nat.mul_zero]
  exact Nat.ofDigitChars_ten_toDigits

theorem numeral_ne_nil (base width n : Nat) : numeral base width n ≠ [] :=
  List.append_ne_nil_of_right_ne_nil _ Nat.toDigits_ne_nil

theorem isEmpty_numeral (base width n : Nat) : (numeral base width n).isEmpty = false :=
  List.isEmpty_eq_false_iff.mpr (numeral_ne_nil base width n)

/-- A numeral begins with a digit. -/
theorem exists_numeral (width n : Nat) : ∃ c cs, numeral 10 width n = c :: cs ∧ c.isDigit = true := by
  obtain ⟨c, cs, hn⟩ := List.exists_cons_of_ne_nil (numeral_ne_nil 10 width n)
  exact ⟨c, cs, hn, isDigit_of_mem_numeral (hn ▸ List.mem_cons_self)⟩

theorem readDigits_append {ds : List Char} (hds : ∀ c ∈ ds, c.isDigit = true) (rest : List Char) (acc : Nat) :
    readDigits ds.length (ds ++ rest) acc = some (Nat.ofDigitChars 10 ds acc, rest) := by
  induction ds generalizing acc with
  | nil => rfl
  | cons c ds ih =>
    rw [List.length_cons, List.cons_append, readDigits, if_pos (hds c List.mem_cons_self), Nat.ofDigitChars_cons]
    exact ih (fun d hd => hds d (List.mem_cons_of_mem _ hd)) _

/-- As many digits as a numeral has are read as its number. -/
theorem readDigits_numeral {width n : Nat} (hwidth : 0 < width) (h : n < 10 ^ width) (rest : List Char) :
    readDigits width (numeral 10 width n ++ rest) 0 = some (n, rest) := by
  have hdigits : ∀ c ∈ numeral 10 width n, c.isDigit = true := fun _ hc => isDigit_of_mem_numeral hc
  have hread := readDigits_append hdigits rest 0
  rwa [length_numeral (by decide) hwidth h, ofDigitChars_numeral] at hread

theorem readDigits_numeral_nil {width n : Nat} (hwidth : 0 < width) (h : n < 10 ^ width) :
    readDigits width (numeral 10 width n) 0 = some (n, []) := by
  have hread := readDigits_numeral hwidth h []
  rwa [List.append_nil] at hread

/-! ### Whole numbers -/

/-- Only zero is written with a zero in front. -/
theorem exists_toDigits {n : Nat} (h : n ≠ 0) : ∃ c cs, Nat.toDigits 10 n = c :: cs ∧ c.isDigit = true ∧ c ≠ '0' := by
  induction n using Nat.strongRecOn with
  | ind n ih =>
    rcases Nat.lt_or_ge n 10 with hn | hn
    · have hdigit : ∀ d < 10, d ≠ 0 → d.digitChar.isDigit = true ∧ d.digitChar ≠ '0' := by decide
      exact ⟨n.digitChar, [], Nat.toDigits_of_lt_base hn, hdigit n hn h⟩
    · obtain ⟨c, cs, hdigits, hc⟩ := ih (n / 10) (by omega) (by omega)
      refine ⟨c, cs ++ [(n % 10).digitChar], ?_, hc⟩
      rw [Nat.toDigits_of_base_le (by decide) hn, hdigits, List.cons_append]

theorem isDigit_of_mem_toDigits {n : Nat} {c : Char} (h : c ∈ Nat.toDigits 10 n) : c.isDigit = true :=
  Nat.isDigit_of_mem_toDigits (by decide) (by decide) h

theorem exists_digit (n : Nat) : ∃ c cs, Nat.toDigits 10 n = c :: cs ∧ c.isDigit = true := by
  obtain ⟨c, cs, hn⟩ := List.exists_cons_of_ne_nil (@Nat.toDigits_ne_nil n 10)
  exact ⟨c, cs, hn, isDigit_of_mem_toDigits (hn ▸ List.mem_cons_self)⟩

theorem digitValue?_of_isDigit {c : Char} (h : c.isDigit = true) : Text.digitValue? c = some (c.toNat - '0'.toNat) := by
  have hall : ∀ d < 10, Text.digitValue? (Char.ofNat (48 + d)) = some d := by decide
  obtain ⟨hzero, hnine⟩ := toNat_of_isDigit h
  have hd := hall (c.toNat - 48) (by omega)
  rwa [Nat.add_sub_cancel' (by omega), Char.ofNat_toNat] at hd

/-- Digits are read as their number. -/
theorem readWhole?_digits {ds : List Char} (hds : ∀ c ∈ ds, c.isDigit = true) {afterDigit : Bool} {n count : Nat}
    (h : afterDigit = true ∨ ds ≠ []) :
    readWhole? ds afterDigit n count = some (Nat.ofDigitChars 10 ds n, count + ds.length, []) := by
  induction ds generalizing afterDigit n count with
  | nil =>
    obtain rfl := h.resolve_right (absurd rfl)
    rfl
  | cons c ds ih =>
    rw [readWhole?, digitValue?_of_isDigit (hds c List.mem_cons_self)]
    simp only
    rw [ih (fun d hd => hds d (List.mem_cons_of_mem _ hd)) (.inl rfl), Nat.ofDigitChars_cons, List.length_cons,
      Nat.add_right_comm, Nat.add_assoc]

/-- Where nothing is to be trimmed the text stays. -/
theorem trimBy_eq_self {p : Char → Bool} {cs : List Char} (h : ∀ c ∈ cs, p c = false) : Text.trimBy p cs = cs := by
  have hdrop : ∀ {cs : List Char}, (∀ c ∈ cs, p c = false) → cs.dropWhile p = cs := by
    intro cs h
    cases cs with
    | nil => rfl
    | cons c cs => rw [List.dropWhile_cons, if_neg (Bool.eq_false_iff.mp (h c List.mem_cons_self))]
  rw [Text.trimBy, hdrop h, hdrop fun c hc => h c (List.mem_reverse.mp hc), List.reverse_reverse]

theorem toList_intText (n : Int) :
    (intText n).toList = (if n < 0 then ['-'] else []) ++ Nat.toDigits 10 n.natAbs := by
  rw [intText, decimalText]
  split
  · rw [String.toList_append]
    exact congrArg ('-' :: ·) String.toList_ofList
  · exact String.toList_ofList

theorem isAsciiBlank_of_isDigit {c : Char} (h : c.isDigit = true) : Text.isAsciiBlank c = false := by
  obtain ⟨hzero, hnine⟩ := toNat_of_isDigit h
  rw [Text.isAsciiBlank, beq_false_of_ne (ne_of_isDigit h rfl), Bool.false_or, Bool.and_eq_false_iff]
  exact .inr (decide_eq_false (by omega))

/-- A whole number is read from its digits and sign, if it does not have too many digits. -/
theorem wholeNumber_intText {n : Int} (h : (Nat.toDigits 10 n.natAbs).length ≤ digitLimit) :
    wholeNumber (intText n) = .ok n := by
  have hblank : ∀ c ∈ (intText n).toList, (if c.toNat < 0x80 then Text.isAsciiBlank c else Text.isBlank c) = false := by
    intro c hc
    rw [toList_intText, List.mem_append] at hc
    rcases hc with hc | hc
    · split at hc
      · rw [List.mem_singleton.mp hc]
        rfl
      · cases hc
    · have hdigit := isDigit_of_mem_toDigits hc
      obtain ⟨_, hnine⟩ := toNat_of_isDigit hdigit
      rw [if_pos (by omega), isAsciiBlank_of_isDigit hdigit]
  have hsigned : Decimal.signed (intText n).toList = (decide (n < 0), Nat.toDigits 10 n.natAbs) := by
    rw [toList_intText]
    split
    case isTrue hneg =>
      rw [decide_eq_true hneg]
      rfl
    case isFalse hneg =>
      rw [decide_eq_false hneg, List.nil_append]
      -- A digit is no sign.
      unfold Decimal.signed
      split
      · next heq => exact absurd (isDigit_of_mem_toDigits (heq ▸ List.mem_cons_self)) (by decide)
      · next heq => exact absurd (isDigit_of_mem_toDigits (heq ▸ List.mem_cons_self)) (by decide)
      · rfl
  have hdigits : readWhole? (Nat.toDigits 10 n.natAbs) false 0 0 =
      some (n.natAbs, (Nat.toDigits 10 n.natAbs).length, []) := by
    rw [readWhole?_digits (fun _ hc => isDigit_of_mem_toDigits hc) (.inr Nat.toDigits_ne_nil), Nat.zero_add,
      Nat.ofDigitChars_ten_toDigits]
  have hsign : (if decide (n < 0) = true then -(n.natAbs : Int) else n.natAbs) = n := by
    by_cases hneg : n < 0
    · rw [if_pos (decide_eq_true hneg)]
      omega
    · rw [if_neg (mt of_decide_eq_true hneg)]
      omega
  rw [wholeNumber, trimBy_eq_self hblank, hsigned]
  simp only [hdigits, if_neg (Nat.not_lt.mpr h), List.isEmpty_nil, Bool.not_true, Bool.false_eq_true, if_false, hsign]

/-! ### Zeros at the end -/

/-- The zeros that a coefficient loses at its end go into its exponent. -/
theorem Shortest.trim_value (fuel : Nat) (g : Digits) : ∃ k : Nat, (trim fuel g).exponent = g.exponent + k ∧
    g.coefficient = (trim fuel g).coefficient * 10 ^ k := by
  induction fuel generalizing g with
  | zero =>
    refine ⟨0, ?_, ?_⟩
    · rw [trim]
      omega
    · rw [trim, Nat.pow_zero, Nat.mul_one]
  | succ fuel ih =>
    rw [trim]
    split
    · rename_i hzero
      obtain ⟨k, hexponent, hcoefficient⟩ := ih ⟨g.coefficient / 10, g.exponent + 1⟩
      dsimp only at hexponent hcoefficient
      have hten : g.coefficient = g.coefficient / 10 * 10 := by omega
      refine ⟨k + 1, ?_, ?_⟩
      · rw [hexponent]
        omega
      · calc g.coefficient = g.coefficient / 10 * 10 := hten
          _ = (trim fuel ⟨g.coefficient / 10, g.exponent + 1⟩).coefficient * 10 ^ k * 10 := by rw [← hcoefficient]
          _ = _ := by rw [Nat.mul_assoc, Nat.pow_succ]
    · refine ⟨0, ?_, ?_⟩
      · omega
      · rw [Nat.pow_zero, Nat.mul_one]

end EntityViews
