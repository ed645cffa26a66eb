import EntityViews.Proofs.Rereading
import EntityViews.Proofs.Shortest

/-!
The texts of binary numbers, read again. A text has digits, a point with more digits, or an exponent, or both of these. Main
statement: read as a decimal, or in a JSON text, the text of a number is the number.
-/

namespace EntityViews

/-! ### Numerals with a point or an exponent -/

def pointBefore : List Char → List Char
  | [] => []
  | d :: ds => '.' :: d :: ds

inductive PowerText : List Char → ℤ → Prop
  | absent : PowerText [] 0
  | present (width : ℕ) (x : ℤ) : PowerText ('e' :: (if x < 0 then '-' else '+') :: numeral 10 width x.natAbs) x

/-- A numeral of digits that has a point or an exponent. It opens with a zero only if this is its whole part. -/
structure Figures where
  whole : List Char
  fraction : List Char
  power : List Char
  shift : ℤ
  wholeDigits : ∀ c ∈ whole, c.isDigit = true
  opens : whole = ['0'] ∨ ∃ c cs, whole = c :: cs ∧ c ≠ '0'
  fractionDigits : ∀ c ∈ fraction, c.isDigit = true
  written : PowerText power shift
  marked : fraction ≠ [] ∨ power ≠ []

def EndsDigits (rest : List Char) : Prop := ∀ c ∈ rest.head?, Text.digitValue? c = none

section Parts

variable {ds rest : List Char}

theorem isSome_digitValue? {c : Char} (h : c.isDigit = true) : (Text.digitValue? c).isSome = true := by
  rw [digitValue?_of_isDigit h]
  rfl

theorem not_isDigit_of_digitValue? {c : Char} (h : Text.digitValue? c = none) : c.isDigit = false := by
  rw [Bool.eq_false_iff]
  intro hc
  cases h.symm.trans (digitValue?_of_isDigit hc)

theorem endsDigits_nil : EndsDigits [] := by
  rintro c ⟨⟩

theorem Json.Closed.endsDigits (h : Json.Closed rest) : EndsDigits rest := by
  intro c hc
  rcases h c hc with rfl | rfl | rfl <;> decide

/-- A run of characters ends where the digits end. -/
theorem EndsDigits.takeWhile {p : Char → Bool} (hp : ∀ c, Text.digitValue? c = none → p c = false)
    (hds : ∀ c ∈ ds, p c = true) (h : EndsDigits rest) :
    (ds ++ rest).takeWhile p = ds ∧ (ds ++ rest).dropWhile p = rest := by
  rw [List.takeWhile_append_of_pos hds, List.dropWhile_append_of_pos hds]
  cases rest with
  | nil => exact ⟨List.append_nil ds, rfl⟩
  | cons c rest =>
    have hc : ¬p c = true := Bool.eq_false_iff.mp (hp c (h c rfl))
    rw [List.takeWhile_cons_of_neg hc, List.dropWhile_cons_of_neg hc, List.append_nil]
    exact ⟨rfl, rfl⟩

theorem EndsDigits.not_digit (h : EndsDigits rest) :
    rest.takeWhile Char.isDigit = [] ∧ rest.dropWhile Char.isDigit = rest :=
  @EndsDigits.takeWhile [] rest Char.isDigit (fun _ => not_isDigit_of_digitValue?) (fun _ h => absurd h List.not_mem_nil) h

/-- Digits are read one after the other, each ten times as much as the next. -/
theorem foldl_digits {f : Option ℕ → Char → Option ℕ} {n : ℕ}
    (hf : ∀ n c, c.isDigit = true → f (some n) c = some (10 * n + (c.toNat - '0'.toNat)))
    (hds : ∀ c ∈ ds, c.isDigit = true) : ds.foldl f (some n) = some (Nat.ofDigitChars 10 ds n) := by
  induction ds generalizing n with
  | nil => rfl
  | cons c ds ih =>
    rw [List.foldl_cons, hf n c (hds c List.mem_cons_self), Nat.ofDigitChars_cons]
    exact ih fun d hd => hds d (List.mem_cons_of_mem _ hd)

theorem digitsValue?_digits (hds : ∀ c ∈ ds, c.isDigit = true) :
    Decimal.digitsValue? ds = some (Nat.ofDigitChars 10 ds 0) := by
  apply foldl_digits _ hds
  intro n c hc
  rw [digitValue?_of_isDigit hc]

namespace PowerText

variable {x : ℤ}

theorem endsDigits (h : PowerText ds x) (hrest : EndsDigits rest) : EndsDigits (ds ++ rest) := by
  cases h with
  | absent => exact hrest
  | present width x =>
    rintro c ⟨⟩
    decide

/-- What is written as a power is read as this power. -/
theorem exponentPart? (h : PowerText ds x) : Decimal.exponentPart? ds = some x := by
  cases h with
  | absent => rfl
  | present width x =>
    have hdigits : ∀ c ∈ numeral 10 width x.natAbs, c.isDigit = true := fun _ hc => isDigit_of_mem_numeral hc
    have hvalue := digitsValue?_digits hdigits
    have hne := isEmpty_numeral 10 width x.natAbs
    rw [ofDigitChars_numeral] at hvalue
    by_cases hx : x < 0
    · rw [if_pos hx]
      simp only [Decimal.exponentPart?, Decimal.signed, hne, hvalue]
      exact congrArg some (show -(x.natAbs : ℤ) = x by omega)
    · rw [if_neg hx]
      simp only [Decimal.exponentPart?, Decimal.signed, hne, hvalue]
      exact congrArg some (show (x.natAbs : ℤ) = x by omega)

/-- In a JSON text an exponent ends with its value. -/
theorem readExponent (h : PowerText ds x) (hrest : Json.Closed rest) : Json.readExponent (ds ++ rest) = (ds, rest) := by
  cases h with
  | absent => exact Json.readExponent_of_closed hrest
  | present width x =>
    have hdigits : ∀ c ∈ numeral 10 width x.natAbs, c.isDigit = true := fun _ hc => isDigit_of_mem_numeral hc
    obtain ⟨htake, hdrop⟩ := hrest.endsDigits.takeWhile (fun _ => not_isDigit_of_digitValue?) hdigits
    have hne := isEmpty_numeral 10 width x.natAbs
    by_cases hx : x < 0
    · simp [Json.readExponent, if_pos hx, htake, hdrop, hne]
    · simp [Json.readExponent, if_neg hx, htake, hdrop, hne]

end PowerText

end Parts

namespace Figures

variable (f : Figures)

def chars : List Char := f.whole ++ (pointBefore f.fraction ++ f.power)

def coefficient : ℕ := Nat.ofDigitChars 10 (f.whole ++ f.fraction) 0

def exponent : ℤ := f.shift - f.fraction.length

/-- A numeral opens with a digit. -/
theorem exists_whole : ∃ c cs, f.whole = c :: cs ∧ c.isDigit = true := by
  have hne : f.whole ≠ [] := by
    rcases f.opens with h | ⟨c, cs, h, -⟩ <;> rw [h] <;> nofun
  obtain ⟨c, cs, h⟩ := List.exists_cons_of_ne_nil hne
  exact ⟨c, cs, h, f.wholeDigits c (h ▸ List.mem_cons_self)⟩

theorem exists_chars : ∃ c cs, f.chars = c :: cs ∧ c.isDigit = true := by
  obtain ⟨c, cs, h, hc⟩ := f.exists_whole
  exact ⟨c, cs ++ (pointBefore f.fraction ++ f.power), by rw [chars, h, List.cons_append], hc⟩

def isMark (c : Char) : Bool := c.isDigit || c = '.' || c = 'e' || c = '-' || c = '+'

theorem isMark_of_isDigit {c : Char} (h : c.isDigit = true) : isMark c = true := by
  rw [isMark, h]
  rfl

/-- A point and the digits behind it are marks of a number. -/
theorem isMark_pointBefore {ds : List Char} (h : ∀ c ∈ ds, c.isDigit = true) : ∀ c ∈ pointBefore ds, isMark c = true := by
  cases ds with
  | nil => nofun
  | cons d ds =>
    intro c hc
    rcases List.mem_cons.mp hc with rfl | hc
    · rfl
    · exact isMark_of_isDigit (h c hc)

theorem isMark_powerText {ds : List Char} {x : ℤ} (h : PowerText ds x) : ∀ c ∈ ds, isMark c = true := by
  cases h with
  | absent => nofun
  | present width x =>
    intro c hc
    rcases List.mem_cons.mp hc with rfl | hc
    · rfl
    rcases List.mem_cons.mp hc with rfl | hc
    · split <;> rfl
    · exact isMark_of_isDigit (isDigit_of_mem_numeral hc)

/-- A figure is written with marks of numbers only. -/
theorem isMark_chars : ∀ c ∈ f.chars, isMark c = true := by
  intro c hc
  rw [chars, List.mem_append, List.mem_append] at hc
  rcases hc with hc | hc | hc
  · exact isMark_of_isDigit (f.wholeDigits c hc)
  · exact isMark_pointBefore f.fractionDigits c hc
  · exact isMark_powerText f.written c hc

/-- The point of a fraction ends the digits before it; without a fraction, what follows ends them. -/
theorem endsDigits_pointBefore {rest : List Char} (h : EndsDigits rest) : EndsDigits (pointBefore f.fraction ++ rest) := by
  cases f.fraction with
  | nil => exact h
  | cons d ds =>
    rintro c ⟨⟩
    decide

/-! ### Read as decimals -/

theorem endsDigits_power : EndsDigits f.power := by
  have hpower := f.written.endsDigits endsDigits_nil
  rwa [List.append_nil] at hpower

/-- The characters of a figure are read as its coefficient and its exponent. -/
theorem numeral? (negative : Bool) : Decimal.numeral? negative f.chars = some (.finite negative f.coefficient f.exponent) := by
  have hp : ∀ c : Char, Text.digitValue? c = none → (Text.digitValue? c).isSome = false := by
    intro c hc
    rw [hc]
    rfl
  have hdigits : ∀ c ∈ f.whole ++ f.fraction, c.isDigit = true := by
    intro c hc
    exact (List.mem_append.mp hc).elim (f.wholeDigits c) (f.fractionDigits c)
  have hwhole : f.whole.isEmpty = false := by
    obtain ⟨d, ds, hd, -⟩ := f.exists_whole
    rw [hd]
    rfl
  -- What is made of the parts, once they are told apart.
  have hparts : ∀ {fraction power : List Char}, fraction = f.fraction → power = f.power →
      (if f.whole.isEmpty && fraction.isEmpty then none else
        (Decimal.digitsValue? (f.whole ++ fraction)).bind fun c => (Decimal.exponentPart? power).bind fun e =>
          some (Decimal.finite negative c (e - fraction.length))) = some (.finite negative f.coefficient f.exponent) := by
    rintro _ _ rfl rfl
    rw [hwhole, digitsValue?_digits hdigits, f.written.exponentPart?]
    rfl
  have hpower := f.endsDigits_power
  have hwritten := f.written
  obtain ⟨htake, hdrop⟩ := (f.endsDigits_pointBefore hpower).takeWhile hp fun c hc => isSome_digitValue? (f.wholeDigits c hc)
  rw [chars, Decimal.numeral?, htake, hdrop]
  cases hfraction : f.fraction with
  | nil =>
    rw [pointBefore, List.nil_append]
    generalize f.power = power at *
    generalize f.shift = shift at hwritten
    cases hwritten with
    | absent => exact hparts hfraction.symm rfl
    | present width x => exact hparts hfraction.symm rfl
  | cons d ds =>
    obtain ⟨htakeFraction, hdropFraction⟩ := hpower.takeWhile hp fun c hc => isSome_digitValue? (f.fractionDigits c hc)
    rw [hfraction] at htakeFraction hdropFraction
    exact hparts (htakeFraction.trans hfraction.symm) hdropFraction

theorem isMark_cases {c : Char} (h : isMark c = true) : c.isDigit = true ∨ c = '.' ∨ c = 'e' ∨ c = '-' ∨ c = '+' := by
  simpa [isMark, or_assoc] using h

/-- No mark of a number is blank, and none joins digits. -/
theorem not_isBlank_of_isMark {c : Char} (h : isMark c = true) : Text.isBlank c = false ∧ c ≠ '_' := by
  have hrange : 33 ≤ c.toNat ∧ c.toNat < 0x80 ∧ c ≠ '_' := by
    rcases isMark_cases h with hc | rfl | rfl | rfl | rfl
    · obtain ⟨hzero, hnine⟩ := toNat_of_isDigit hc
      exact ⟨by omega, by omega, ne_of_isDigit hc rfl⟩
    all_goals decide
  refine ⟨?_, hrange.2.2⟩
  simp [Text.isBlank, Text.inRanges]
  omega

/-- No word opens like a numeral. -/
theorem toLower_ne_of_isDigit {c : Char} (h : c.isDigit = true) : c.toLower ≠ 'i' ∧ c.toLower ≠ 'n' ∧ c.toLower ≠ 's' := by
  have hall : ∀ d < 10, (Char.ofNat (48 + d)).toLower ≠ 'i' ∧ (Char.ofNat (48 + d)).toLower ≠ 'n' ∧
      (Char.ofNat (48 + d)).toLower ≠ 's' := by decide
  obtain ⟨hzero, hnine⟩ := toNat_of_isDigit h
  have hd := hall (c.toNat - 48) (by omega)
  rwa [Nat.add_sub_cancel' hzero, Char.ofNat_toNat] at hd

def signed (negative : Bool) (f : Figures) : List Char := Json.sign negative ++ f.chars

theorem isMark_signed (negative : Bool) : ∀ c ∈ f.signed negative, isMark c = true := by
  intro c hc
  rcases List.mem_append.mp hc with hc | hc
  · cases negative with
    | true =>
      rw [List.mem_singleton.mp hc]
      rfl
    | false => cases hc
  · exact f.isMark_chars c hc

/-- The sign of a figure is split from it as it was put before it. -/
theorem signed_eq (negative : Bool) : Decimal.signed (f.signed negative) = (negative, f.chars) := by
  cases negative with
  | true => rfl
  | false =>
    obtain ⟨c, cs, hcs, hc⟩ := f.exists_chars
    show Decimal.signed f.chars = _
    rw [hcs, Decimal.signed]
    · rintro _ ⟨⟩
      exact absurd hc (by decide)
    · rintro _ ⟨⟩
      exact absurd hc (by decide)

/-- A numeral is read as its coefficient and its power of ten. -/
theorem read? (negative : Bool) :
    Decimal.read? (String.ofList (f.signed negative)) = some (.finite negative f.coefficient f.exponent) := by
  have htrim : Text.trimBy Text.isBlank (f.signed negative) = f.signed negative :=
    trimBy_eq_self fun c hc => (not_isBlank_of_isMark (f.isMark_signed negative c hc)).1
  have hfilter : (f.signed negative).filter (· != '_') = f.signed negative := by
    rw [List.filter_eq_self]
    intro c hc
    exact bne_iff_ne.mpr (not_isBlank_of_isMark (f.isMark_signed negative c hc)).2
  obtain ⟨c, cs, hcs, hc⟩ := f.exists_chars
  obtain ⟨hi, hn, hs⟩ := toLower_ne_of_isDigit hc
  have hnumeral := f.numeral? negative
  rw [Decimal.read?, String.toList_ofList, htrim, hfilter, f.signed_eq]
  dsimp only
  rw [hcs] at hnumeral ⊢
  rw [if_neg (by simp [hi]), if_neg (by simp [hn]), if_neg (by simp [hs]), hnumeral]

/-! ### Read in JSON texts -/

variable {rest : List Char}

/-- A JSON reader takes the digits behind the point and leaves the power. -/
theorem readFraction (h : Json.Closed rest) :
    Json.readFraction (pointBefore f.fraction ++ (f.power ++ rest)) = (pointBefore f.fraction, f.power ++ rest) := by
  have hends := f.written.endsDigits h.endsDigits
  cases hfraction : f.fraction with
  | nil =>
    have hwritten := f.written
    generalize f.power = power at *
    generalize f.shift = shift at hwritten
    cases hwritten with
    | absent => exact Json.readFraction_of_closed h
    | present width x => rfl
  | cons d ds =>
    have hdigits := hfraction ▸ f.fractionDigits
    obtain ⟨htake, hdrop⟩ := hends.takeWhile (fun _ => not_isDigit_of_digitValue?)
      fun c hc => hdigits c (List.mem_cons_of_mem d hc)
    rw [pointBefore, List.cons_append, List.cons_append, Json.readFraction, if_pos (hdigits d List.mem_cons_self), htake,
      hdrop]

/-- A JSON reader takes a figure for the float that is nearest to it. -/
theorem readNumber (negative : Bool) (h : Json.Closed rest) :
    Json.readNumber (f.signed negative ++ rest) = .ok (.float (.ofDecimal negative f.coefficient f.exponent), rest) := by
  have hopens : ∃ c cs, f.chars ++ rest = c :: cs ∧ c.isDigit = true := by
    obtain ⟨c, cs, hcs, hc⟩ := f.exists_chars
    exact ⟨c, cs ++ rest, by rw [hcs, List.cons_append], hc⟩
  have hwhole : Json.readWhole? (f.chars ++ rest) = some (f.whole, pointBefore f.fraction ++ (f.power ++ rest)) := by
    have hends := f.endsDigits_pointBefore (f.written.endsDigits h.endsDigits)
    rw [chars, List.append_assoc, List.append_assoc]
    exact Json.readWhole?_digits f.wholeDigits f.opens hends.not_digit
  have hmarked : ((pointBefore f.fraction).isEmpty && f.power.isEmpty) = false := by
    rw [Bool.and_eq_false_iff, List.isEmpty_eq_false_iff, List.isEmpty_eq_false_iff]
    refine f.marked.imp_left ?_
    cases f.fraction with
    | nil => exact fun hne => absurd rfl hne
    | cons d ds => exact fun _ => List.cons_ne_nil _ _
  have htext : Binary64.ofText? (String.ofList (Json.sign negative ++ f.whole ++ pointBefore f.fraction ++ f.power)) =
      some (.ofDecimal negative f.coefficient f.exponent) := by
    have hread := f.read? negative
    rw [signed, chars, ← List.append_assoc, ← List.append_assoc] at hread
    rw [Binary64.ofText?, hread]
    rfl
  rw [signed, List.append_assoc, Json.readNumber_parts hopens hwhole (f.readFraction h) (f.written.readExponent h), hmarked,
    htext]
  rfl

/-! ### The layouts of numbers -/

def value : ℚ := f.coefficient * 10 ^ f.exponent

def Spell (s : String) (x : ℚ) : Prop := ∃ f : Figures, s.toList = f.chars ∧ f.value = x

section Layouts

theorem Spell.of_parts {s : String} {x : ℚ} (whole fraction : List Char) {power : List Char} {shift : ℤ}
    (wholeDigits : ∀ c ∈ whole, c.isDigit = true) (opens : whole = ['0'] ∨ ∃ c cs, whole = c :: cs ∧ c ≠ '0')
    (fractionDigits : ∀ c ∈ fraction, c.isDigit = true) (written : PowerText power shift)
    (marked : fraction ≠ [] ∨ power ≠ []) (htext : s.toList = whole ++ (pointBefore fraction ++ power))
    (hvalue : (Nat.ofDigitChars 10 (whole ++ fraction) 0 : ℚ) * 10 ^ (shift - fraction.length) = x) : Spell s x :=
  ⟨⟨whole, fraction, power, shift, wholeDigits, opens, fractionDigits, written, marked⟩, htext, hvalue⟩

theorem isDigit_zero : ∀ c ∈ ['0'], c.isDigit = true := List.forall_mem_singleton.mpr rfl

theorem pointBefore_of_ne_nil {ds : List Char} (h : ds ≠ []) : pointBefore ds = '.' :: ds := by
  obtain ⟨d, ds, rfl⟩ := List.exists_cons_of_ne_nil h
  rfl

variable {ds : List Char} {k : ℤ} (hdigits : ∀ d ∈ ds, d.isDigit = true) (hopens : ∃ d more, ds = d :: more ∧ d ≠ '0')

include hopens in
theorem opens_append (zeros : List Char) : ∃ d more, ds ++ zeros = d :: more ∧ d ≠ '0' := by
  obtain ⟨d, more, rfl, hd⟩ := hopens
  exact ⟨d, more ++ zeros, List.cons_append, hd⟩

include hopens in
theorem opens_take {n : ℕ} (hn : 0 < n) : ∃ d more, ds.take n = d :: more ∧ d ≠ '0' := by
  obtain ⟨n, rfl⟩ := Nat.exists_eq_add_one_of_ne_zero hn.ne'
  obtain ⟨d, more, rfl, hd⟩ := hopens
  exact ⟨d, more.take n, List.take_succ_cons, hd⟩

include hdigits hopens

/-- In exponent form the first digit is whole, and all others are the fraction. -/
theorem spell_exponential (style : FloatStyle) :
    Spell (exponential style ds (ds.length + k)) (Nat.ofDigitChars 10 ds 0 * 10 ^ k) := by
  have hlength : 0 < ds.length := by
    obtain ⟨d, more, rfl, -⟩ := hopens
    exact Nat.succ_pos _
  have hfraction : (if ds.length ≤ 1 then "" else "." ++ String.ofList (ds.drop 1)).toList = pointBefore (ds.drop 1) := by
    split
    case isTrue hone =>
      rw [List.drop_of_length_le hone]
      rfl
    case isFalse hmore =>
      rw [pointBefore_of_ne_nil (mt List.drop_eq_nil_iff.mp hmore), String.toList_append, String.toList_ofList,
        String.toList_ofList]
      rfl
  have hsign : (if (ds.length : ℤ) + k - 1 < 0 then "-" else "+").toList =
      [if (ds.length : ℤ) + k - 1 < 0 then '-' else '+'] := by split <;> rfl
  refine .of_parts (ds.take 1) (ds.drop 1) (fun d hd => hdigits d (List.mem_of_mem_take hd)) (.inr (opens_take hopens one_pos))
    (fun d hd => hdigits d (List.mem_of_mem_drop hd)) (.present style.exponentWidth (ds.length + k - 1))
    (.inr (List.cons_ne_nil _ _)) ?_ ?_
  · simp only [exponential, exponentText, String.toList_append, String.toList_ofList, hfraction, toList_padLeft, hsign,
      List.append_assoc]
    rfl
  · rw [List.take_append_drop, List.length_drop]
    congr 2
    omega

/-- Digits followed by zeros are a figure of their number times a power of ten. -/
theorem spell_positional : Spell (positional ds (ds.length + k)) (Nat.ofDigitChars 10 ds 0 * 10 ^ k) := by
  have hne : ds ≠ [] := by
    obtain ⟨d, more, rfl, -⟩ := hopens
    exact List.cons_ne_nil _ _
  have hzeros : ∀ {n : ℕ} {d}, d ∈ List.replicate n '0' → d.isDigit = true := by
    intro n d hd
    rw [List.eq_of_mem_replicate hd]
    rfl
  rw [positional]
  generalize hpoint : (ds.length : ℤ) + k = point
  split
  case isTrue hleft =>
    -- All digits are behind the point.
    have hfraction : List.replicate (-point).toNat '0' ++ ds ≠ [] := List.append_ne_nil_of_right_ne_nil _ hne
    refine .of_parts ['0'] (List.replicate (-point).toNat '0' ++ ds) isDigit_zero (.inl rfl)
      (fun d hd => (List.mem_append.mp hd).elim hzeros (hdigits d)) .absent (.inl hfraction) ?_ ?_
    · rw [pointBefore_of_ne_nil hfraction, String.toList_append, String.toList_ofList, String.toList_ofList, List.append_nil]
      rfl
    · rw [List.singleton_append, ← List.cons_append, ← List.replicate_succ, Nat.ofDigitChars_append,
        Nat.ofDigitChars_replicate_zero, Nat.mul_zero, List.length_append, List.length_replicate]
      congr 2
      omega
  case isFalse hright =>
    obtain ⟨n, rfl⟩ := Int.eq_ofNat_of_zero_le (show 0 ≤ point by omega)
    rw [Int.toNat_natCast]
    split
    case isTrue hwhole =>
      -- All digits are before the point, perhaps with zeros behind them.
      refine .of_parts (ds ++ List.replicate (n - ds.length) '0') ['0']
        (fun d hd => (List.mem_append.mp hd).elim (hdigits d) hzeros) (.inr (opens_append hopens _)) isDigit_zero .absent
        (.inl (List.cons_ne_nil _ _)) ?_ ?_
      · rw [String.toList_append, String.toList_ofList]
        rfl
      · obtain rfl : k = (n - ds.length : ℕ) := by omega
        have hzero : ∀ x, Nat.ofDigitChars 10 ['0'] x = 10 * x := fun x => rfl
        rw [Nat.ofDigitChars_append, Nat.ofDigitChars_append, Nat.ofDigitChars_replicate_zero, hzero, List.length_singleton,
          Nat.cast_one, zero_sub, zpow_neg_one, zpow_natCast]
        push_cast
        ring
    case isFalse hwhole =>
      -- The point is between two digits.
      have hfraction : ds.drop n ≠ [] := mt List.drop_eq_nil_iff.mp hwhole
      refine .of_parts (ds.take n) (ds.drop n) (fun d hd => hdigits d (List.mem_of_mem_take hd))
        (.inr (opens_take hopens (by omega))) (fun d hd => hdigits d (List.mem_of_mem_drop hd)) .absent (.inl hfraction) ?_ ?_
      · rw [pointBefore_of_ne_nil hfraction, String.toList_append, String.toList_append, String.toList_ofList,
          String.toList_ofList, String.toList_ofList, List.append_nil, List.append_assoc]
        rfl
      · rw [List.take_append_drop, List.length_drop]
        congr 2
        omega

end Layouts

end Figures

namespace Binary64

variable {m : ℕ} {e : ℤ} {negative : Bool}

/-- The text of a number that is not zero spells its digits. -/
theorem spell_text (style : FloatStyle) (hm : 0 < m) (hr : Represents m e) :
    ∃ s, (finite negative m e).text style = (if negative then "-" else "") ++ s ∧
      Figures.Spell s (Shortest.digits m e).value := by
  have hcoefficient : (Shortest.digits m e).coefficient ≠ 0 := by
    intro hzero
    have hpos := (Shortest.digits_nearest hm hr).pos hm
    rw [Shortest.Digits.value, hzero, Nat.cast_zero, zero_mul] at hpos
    exact hpos.false
  have hdigits : ∀ d ∈ Nat.toDigits 10 (Shortest.digits m e).coefficient, d.isDigit = true :=
    fun _ hd => isDigit_of_mem_toDigits hd
  have hopens : ∃ d more, Nat.toDigits 10 (Shortest.digits m e).coefficient = d :: more ∧ d ≠ '0' := by
    obtain ⟨d, more, hds, -, hd⟩ := exists_toDigits hcoefficient
    exact ⟨d, more, hds, hd⟩
  have hpositional := @Figures.spell_positional _ (Shortest.digits m e).exponent hdigits hopens
  have hexponential := @Figures.spell_exponential _ (Shortest.digits m e).exponent hdigits hopens style
  rw [Nat.ofDigitChars_ten_toDigits] at hpositional hexponential
  rw [text]
  dsimp only
  rw [if_neg hm.ne']
  split
  · exact ⟨_, rfl, hpositional⟩
  · exact ⟨_, rfl, hexponential⟩

/-- The text of a number is a numeral with its sign, and the decimal that it stands for is rounded to the number. -/
theorem exists_figures (style : FloatStyle) (hr : Represents m e) : ∃ f : Figures,
    ((finite negative m e).text style).toList = f.signed negative ∧
      ofDecimal negative f.coefficient f.exponent = finite negative m e := by
  have hsign : (if negative then "-" else "").toList = Json.sign negative := by
    cases negative <;> rfl
  rcases Nat.eq_zero_or_pos m with rfl | hm
  · have hleast : e = minExponent := hr.full.resolve_right (by decide)
    refine ⟨⟨['0'], ['0'], [], 0, Figures.isDigit_zero, .inl rfl, Figures.isDigit_zero, .absent,
      .inl (List.cons_ne_nil _ _)⟩, ?_, ?_⟩
    · rw [text]
      dsimp only
      rw [if_pos rfl, String.toList_append, hsign]
      rfl
    · rw [hleast]
      rfl
  · obtain ⟨s, htext, f, hs, hvalue⟩ := @spell_text _ _ negative style hm hr
    refine ⟨f, ?_, ?_⟩
    · rw [htext, String.toList_append, hsign, hs]
      rfl
    · have hnearest := Shortest.digits_nearest hm hr
      rw [← hvalue] at hnearest
      exact ofDecimal_eq hr hnearest negative hm

/-- A number is read from its text. -/
theorem ofText?_text (style : FloatStyle) (hr : Represents m e) :
    ofText? ((finite negative m e).text style) = some (finite negative m e) := by
  obtain ⟨f, htext, hvalue⟩ := @exists_figures _ _ negative style hr
  have hread := f.read? negative
  rw [← htext, String.ofList_toList] at hread
  rw [ofText?, hread]
  exact congrArg some hvalue

end Binary64

end EntityViews
