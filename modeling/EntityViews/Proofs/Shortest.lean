import EntityViews.Proofs.Numerals
import EntityViews.Proofs.Rounding

/-!
The shortest decimals of binary numbers. Seventeen digits are always enough, since the decimals of so many lie closer together
than the numbers do, so the search does not run out. Main statement: the decimal that it ends with is rounded to the number.
-/

namespace EntityViews.Shortest

open Binary64

/-! ### The place of the first digit -/

/-- A power as a ratio of powers with whole exponents, one of which is zero. -/
theorem zpow_eq_ratio (b : ℚ) (k : ℤ) : b ^ k = b ^ k.toNat / b ^ (-k).toNat := by
  rcases le_total 0 k with hk | hk
  · obtain ⟨n, rfl⟩ := Int.eq_ofNat_of_zero_le hk
    simp
  · obtain ⟨n, hn⟩ := Int.eq_ofNat_of_zero_le (neg_nonneg.mpr hk)
    obtain rfl : k = -(n : ℤ) := by omega
    simp

def firstGuess (l : ℤ) : ℤ := (l * 30103).fdiv 100000 - 2

/-- For the logarithms of all numbers the guess is not beyond the place. -/
theorem firstGuess_le {l : ℤ} (hlow : -1100 ≤ l) (hhigh : l < 1100) : (10 : ℚ) ^ firstGuess l ≤ 2 ^ (l - 1) := by
  have hall : ∀ i < 2200, Nat.pow 10 (firstGuess ((i : ℕ) - 1100)).toNat * Nat.pow 2 (-((i : ℤ) - 1100 - 1)).toNat ≤
      Nat.pow 2 ((i : ℤ) - 1100 - 1).toNat * Nat.pow 10 (-firstGuess ((i : ℤ) - 1100)).toNat := by decide +kernel
  obtain ⟨i, hi⟩ := Int.eq_ofNat_of_zero_le (show 0 ≤ l + 1100 by omega)
  obtain rfl : l = (i : ℤ) - 1100 := by omega
  have hcase := hall i (by omega)
  rw [zpow_eq_ratio, zpow_eq_ratio 2, div_le_div_iff₀ (by positivity) (by positivity)]
  exact_mod_cast hcase

/-- Raising an exponent stops before its power gets larger than the number. -/
theorem raise_le {n d : ℕ} (hd : 0 < d) {x : ℤ} (fuel : ℕ) (h : (10 : ℚ) ^ x ≤ n / d) :
    (10 : ℚ) ^ raise n d fuel x ≤ n / d := by
  induction fuel generalizing x with
  | zero => exact h
  | succ fuel ih =>
    rw [raise]
    split
    case isFalse => exact h
    case isTrue hle =>
      apply ih
      have hone : (1 : ℚ) ≤ n / d * (10 : ℕ) ^ (-(x + 1)) := by
        rw [← scaled_ratio (by decide), one_le_div (Nat.cast_pos.mpr (scaled_pos (by decide) hd _))]
        exact_mod_cast hle
      rwa [Nat.cast_ofNat, zpow_neg, ← div_eq_mul_inv, one_le_div (zpow_pos (by norm_num) _)] at hone

/-- The first digit of a ratio is not left of the place that is told for it. -/
theorem leadingExponent_le {n d : ℕ} (hn : 0 < n) (hd : 0 < d) (hlow : (2 : ℚ) ^ (-1074 : ℤ) ≤ n / d)
    (hhigh : (n : ℚ) / d < 2 ^ (1024 : ℤ)) : (10 : ℚ) ^ leadingExponent n d ≤ n / d := by
  obtain ⟨habove, hbelow⟩ := ratio_bounds hn hd
  have hleast : (-1074 : ℤ) < n.log2 - d.log2 + 1 :=
    (zpow_lt_zpow_iff_right₀ (one_lt_two (α := ℚ))).mp (hlow.trans_lt hbelow)
  have hmost : (n.log2 : ℤ) - d.log2 - 1 < 1024 :=
    (zpow_lt_zpow_iff_right₀ (one_lt_two (α := ℚ))).mp (habove.trans hhigh)
  exact raise_le hd 5 ((firstGuess_le (by omega) (by omega)).trans habove.le)

/-! ### Decimals near a number -/

variable {m c : ℕ} {e k : ℤ}

theorem interval_unit_pos (m : ℕ) (e : ℤ) : 0 < (interval m e).unit := scaled_pos two_pos one_pos (e - 2)

/-- The ends of an interval and the value in it. -/
theorem interval_ratios (hm : 0 < m) (e : ℤ) :
    ((interval m e).low : ℚ) / (interval m e).unit = (m - reachBelow m e) * 2 ^ e ∧
    ((interval m e).value : ℚ) / (interval m e).unit = m * 2 ^ e ∧
    ((interval m e).high : ℚ) / (interval m e).unit = (m + 1 / 2) * 2 ^ e := by
  have hquarter : ((scaled 2 1 1 (e - 2)).1 : ℚ) / (scaled 2 1 1 (e - 2)).2 = 2 ^ e / 4 := by
    rw [scaled_ratio two_pos, Nat.cast_one, div_one, one_mul, Nat.cast_ofNat, zpow_sub₀ two_ne_zero]
    norm_num
  have hscale : ∀ n : ℕ, ((n * (scaled 2 1 1 (e - 2)).1 : ℕ) : ℚ) / (scaled 2 1 1 (e - 2)).2 = n * (2 ^ e / 4) := by
    intro n
    rw [Nat.cast_mul, mul_div_assoc, hquarter]
  refine ⟨?_, ?_, ?_⟩
  · rw [interval, hscale, reachBelow, Nat.pow_eq]
    by_cases hfirst : m = 2 ^ 52 ∧ minExponent < e
    · rw [if_pos hfirst, if_pos hfirst, Nat.cast_sub (by omega)]
      push_cast
      ring
    · rw [if_neg hfirst, if_neg hfirst, Nat.cast_sub (by omega)]
      push_cast
      ring
  · rw [interval, hscale]
    push_cast
    ring
  · rw [interval, hscale]
    push_cast
    ring

/-- What an interval holds lies between its ends, which count only where the interval is closed. -/
theorem Interval.holds_iff_between {i : Interval} (hunit : 0 < i.unit) : i.holds c k = true ↔
    (i.low : ℚ) / i.unit ≤ c * 10 ^ k ∧ (c : ℚ) * 10 ^ k ≤ i.high / i.unit ∧
    (i.closed = false → (i.low : ℚ) / i.unit < c * 10 ^ k ∧ (c : ℚ) * 10 ^ k < i.high / i.unit) := by
  have hunit' : (0 : ℚ) < i.unit := Nat.cast_pos.mpr hunit
  have hpos : (0 : ℚ) < (scaled 10 (c * i.unit) 1 k).2 := Nat.cast_pos.mpr (scaled_pos (by decide) one_pos k)
  have hscaled : ((scaled 10 (c * i.unit) 1 k).1 : ℚ) = c * 10 ^ k * i.unit * (scaled 10 (c * i.unit) 1 k).2 := by
    rw [← div_eq_iff hpos.ne', scaled_ratio (by decide)]
    push_cast
    ring
  rw [Interval.holds]
  generalize scaled 10 (c * i.unit) 1 k = s at *
  -- The tests are on whole numbers, with both sides multiplied by what is positive.
  have hle : ∀ n : ℕ, n * s.2 ≤ s.1 ↔ (n : ℚ) / i.unit ≤ c * 10 ^ k := by
    intro n
    rw [div_le_iff₀ hunit', ← mul_le_mul_iff_left₀ hpos, ← hscaled]
    exact_mod_cast Iff.rfl
  have hge : ∀ n : ℕ, s.1 ≤ n * s.2 ↔ c * 10 ^ k ≤ (n : ℚ) / i.unit := by
    intro n
    rw [le_div_iff₀ hunit', ← mul_le_mul_iff_left₀ hpos, ← hscaled]
    exact_mod_cast Iff.rfl
  cases i.closed with
  | true =>
    rw [if_pos rfl, Bool.and_eq_true, decide_eq_true_iff, decide_eq_true_iff, hle, hge]
    constructor
    · rintro ⟨hl, hh⟩
      exact ⟨hl, hh, fun hopen => absurd hopen.symm Bool.false_ne_true⟩
    · rintro ⟨hl, hh, -⟩
      exact ⟨hl, hh⟩
  | false =>
    rw [if_neg Bool.false_ne_true, Bool.and_eq_true, decide_eq_true_iff, decide_eq_true_iff, ← not_le, ← not_le, hge, hle,
      not_le, not_le]
    constructor
    · rintro ⟨hl, hh⟩
      exact ⟨hl.le, hh.le, fun _ => ⟨hl, hh⟩⟩
    · rintro ⟨-, -, hstrict⟩
      exact hstrict rfl

/-- An interval holds the decimals that its number is nearest to. -/
theorem holds_iff (hm : 0 < m) : (interval m e).holds c k = true ↔ Nearest m e ((c : ℚ) * 10 ^ k) := by
  obtain ⟨hlow, -, hhigh⟩ := interval_ratios hm e
  have hclosed : (interval m e).closed = false ↔ m % 2 = 1 := by
    rw [show (interval m e).closed = (m % 2 == 0) from rfl, beq_eq_false_iff_ne]
    omega
  rw [Interval.holds_iff_between (interval_unit_pos m e), hlow, hhigh, hclosed]
  constructor
  · rintro ⟨hl, hh, hodd⟩
    exact ⟨hl, hh, hodd⟩
  · intro h
    exact ⟨h.low, h.high, h.odd⟩

/-- The neighbour that is taken lies in the interval. -/
theorem holds_of_neighbour? {i : Interval} (h : i.neighbour? k = some c) : i.holds c k = true := by
  rw [Interval.neighbour?] at h
  split at h
  case h_1 hfirst hnext =>
    rcases Nat.mod_two_eq_zero_or_one ((scaled 10 i.value i.unit (-k)).1 / (scaled 10 i.value i.unit (-k)).2) with hq | hq
    all_goals
      rw [hq] at h
      split_ifs at h <;> cases h <;> assumption
  case h_2 hfirst hnext =>
    cases h
    exact hfirst
  case h_3 hfirst hnext =>
    cases h
    exact hnext
  case h_4 => cases h

/-- If a coefficient below or above lies in the interval, one is taken. -/
theorem exists_neighbour? {i : Interval}
    (h : i.holds ((scaled 10 i.value i.unit (-k)).1 / (scaled 10 i.value i.unit (-k)).2) k = true ∨
      i.holds ((scaled 10 i.value i.unit (-k)).1 / (scaled 10 i.value i.unit (-k)).2 + 1) k = true) :
    ∃ c, i.neighbour? k = some c := by
  rw [Interval.neighbour?]
  split
  case h_1 | h_2 | h_3 => exact ⟨_, rfl⟩
  case h_4 hfirst hnext =>
    rw [hfirst, hnext] at h
    exact h.elim nofun nofun

/-- What is closer to a number than the numbers below it is nearest to it. -/
theorem nearest_of_close {x : ℚ} (hlow : (m - reachBelow m e) * 2 ^ e < x) (hhigh : x < (m + reachBelow m e) * 2 ^ e) :
    Nearest m e x := by
  have hhalf : (m + reachBelow m e) * 2 ^ e ≤ ((m : ℚ) + 1 / 2) * 2 ^ e :=
    mul_le_mul_of_nonneg_right (by linarith [reachBelow_le m e]) (two_zpow_pos e).le
  exact ⟨hlow.le, (hhigh.trans_le hhalf).le, fun _ => ⟨hlow, hhigh.trans_le hhalf⟩⟩

/-- Where the step between decimals has sixteen digits less than a number, half of it does not lead away from the number. -/
theorem half_step_lt (hr : Represents m e) (hstep : (10 : ℚ) ^ k * 10 ^ 16 ≤ m * 2 ^ e) :
    (10 : ℚ) ^ k / 2 < reachBelow m e * 2 ^ e := by
  have hpower := two_zpow_pos e
  rw [reachBelow]
  split
  case isTrue hfirst =>
    rw [hfirst.1] at hstep
    push_cast at hstep
    linarith
  case isFalse =>
    have hbits : (m : ℚ) < 2 ^ 53 := by exact_mod_cast hr.bits
    have hmul : (m : ℚ) * 2 ^ e < 2 ^ 53 * 2 ^ e := mul_lt_mul_of_pos_right hbits hpower
    linarith

/-- There one of the two decimals next to the number is nearest to it. -/
theorem neighbour?_of_step (hm : 0 < m) (hr : Represents m e) (hstep : (10 : ℚ) ^ k * 10 ^ 16 ≤ m * 2 ^ e) :
    ∃ c, (interval m e).neighbour? k = some c := by
  have hten : (0 : ℚ) < 10 ^ k := zpow_pos (by norm_num) k
  have hpos := scaled_pos (show 0 < 10 by decide) (interval_unit_pos m e) (-k) (n := (interval m e).value)
  have hratio : ((scaled 10 (interval m e).value (interval m e).unit (-k)).1 : ℚ) /
      (scaled 10 (interval m e).value (interval m e).unit (-k)).2 = m * 2 ^ e / 10 ^ k := by
    rw [scaled_ratio (by decide), (interval_ratios hm e).2.1, Nat.cast_ofNat, zpow_neg, div_eq_mul_inv _ ((10 : ℚ) ^ k)]
  apply exists_neighbour?
  rw [holds_iff hm, holds_iff hm]
  generalize scaled 10 (interval m e).value (interval m e).unit (-k) = s at *
  have hbelow : ((s.1 / s.2 : ℕ) : ℚ) * 10 ^ k ≤ m * 2 ^ e := by
    rw [← le_div_iff₀ hten, ← hratio, le_div_iff₀ (Nat.cast_pos.mpr hpos)]
    exact_mod_cast Nat.div_mul_le_self s.1 s.2
  have habove : (m : ℚ) * 2 ^ e < ((s.1 / s.2 + 1 : ℕ) : ℚ) * 10 ^ k := by
    rw [← div_lt_iff₀ hten, ← hratio, ← div_lt_iff_ratio_lt hpos]
    exact Nat.lt_succ_self _
  have hhalf := half_step_lt hr hstep
  have hreach : (0 : ℚ) < reachBelow m e * 2 ^ e := lt_trans (by positivity) hhalf
  -- The number lies in one of the two halves between them.
  rcases le_or_gt ((m : ℚ) * 2 ^ e - ((s.1 / s.2 : ℕ) : ℚ) * 10 ^ k) (10 ^ k / 2) with hnear | hfar
  · left
    apply nearest_of_close
    · rw [sub_mul]
      linarith
    · rw [add_mul]
      linarith
  · right
    rw [Nat.cast_add_one, add_mul, one_mul] at habove ⊢
    apply nearest_of_close
    · rw [sub_mul]
      linarith
    · rw [add_mul]
      linarith

/-! ### The search -/

def Digits.value (g : Digits) : ℚ := g.coefficient * 10 ^ g.exponent

theorem value_trim (fuel : ℕ) (g : Digits) : (trim fuel g).value = g.value := by
  obtain ⟨k, hexponent, hcoefficient⟩ := trim_value fuel g
  rw [Digits.value, Digits.value, hexponent, hcoefficient, zpow_add₀ (by norm_num), zpow_natCast]
  push_cast
  ring

/-- A search that gets to where decimals lie close together ends at one that is nearest to the number. -/
theorem search_nearest (hm : 0 < m) (hr : Represents m e) (lead : ℤ) {fuel j : ℕ} (hj : j < fuel)
    (hstep : (10 : ℚ) ^ (k - j) * 10 ^ 16 ≤ m * 2 ^ e) : Nearest m e (search (interval m e) lead fuel k).value := by
  induction fuel generalizing k j with
  | zero => exact absurd hj (Nat.not_lt_zero j)
  | succ fuel ih =>
    rw [search]
    cases hfound : (interval m e).neighbour? k with
    | some c =>
      have hheld := (holds_iff hm).mp (holds_of_neighbour? hfound)
      rw [value_trim]
      exact hheld
    | none =>
      cases j with
      | zero =>
        rw [Nat.cast_zero, sub_zero] at hstep
        obtain ⟨c, hc⟩ := neighbour?_of_step hm hr hstep
        cases hfound.symm.trans hc
      | succ j =>
        refine ih (Nat.lt_of_succ_lt_succ hj) ?_
        rwa [show k - 1 - (j : ℤ) = k - ((j + 1 : ℕ) : ℤ) by omega]

/-- The digits of a float are nearest to this float. -/
theorem digits_nearest (hm : 0 < m) (hr : Represents m e) : Nearest m e (digits m e).value := by
  obtain ⟨-, hvalue, -⟩ := interval_ratios hm e
  have hpower := two_zpow_pos e
  have hone : (1 : ℚ) ≤ m := Nat.one_le_cast.mpr hm
  have hbits : (m : ℚ) < 2 ^ 53 := by exact_mod_cast hr.bits
  have hlow : (2 : ℚ) ^ (-1074 : ℤ) ≤ m * 2 ^ e :=
    calc (2 : ℚ) ^ (-1074 : ℤ) ≤ 2 ^ e := zpow_le_zpow_right₀ one_le_two hr.least
      _ ≤ m * 2 ^ e := le_mul_of_one_le_left hpower.le hone
  have hhigh : (m : ℚ) * 2 ^ e < 2 ^ (1024 : ℤ) :=
    calc (m : ℚ) * 2 ^ e < 2 ^ 53 * 2 ^ e := mul_lt_mul_of_pos_right hbits hpower
      _ ≤ 2 ^ 53 * 2 ^ (971 : ℤ) := mul_le_mul_of_nonneg_left (zpow_le_zpow_right₀ one_le_two hr.most) (by norm_num)
      _ = 2 ^ (1024 : ℤ) := by rw [← zpow_natCast, ← zpow_add₀ two_ne_zero]; rfl
  have hpos : 0 < (interval m e).value := by
    have hratio : (0 : ℚ) < (interval m e).value / (interval m e).unit := hvalue ▸ by positivity
    rw [div_pos_iff_of_pos_right (Nat.cast_pos.mpr (interval_unit_pos m e))] at hratio
    exact_mod_cast hratio
  have hlead := leadingExponent_le hpos (interval_unit_pos m e) (hvalue.symm ▸ hlow) (hvalue.symm ▸ hhigh)
  rw [hvalue] at hlead
  rw [digits]
  refine search_nearest hm hr _ (show 16 < 17 by decide) ?_
  rwa [zpow_sub₀ (by norm_num), zpow_natCast, div_mul_cancel₀ _ (by norm_num)]

end EntityViews.Shortest
