import EntityViews.Number.Decimal
import EntityViews.Proofs.Numerals
import Mathlib.Algebra.Order.Field.Power
import Mathlib.Algebra.Order.Floor.Ring
import Mathlib.Data.Rat.Cast.Order
import Mathlib.Tactic.FieldSimp
import Mathlib.Tactic.Linarith
import Mathlib.Tactic.NormNum
import Mathlib.Tactic.Positivity
import Mathlib.Tactic.Ring

/-!
Rounding to binary numbers. Around each number lie the rationals that are nearer to it than to its neighbours. Main statement:
these are rounded to the number, however the ratio or the decimal is put that stands for them.
-/

namespace EntityViews

/-! ### Ratios -/

theorem scaled_pos {b n d : ℕ} (hb : 0 < b) (hd : 0 < d) (e : ℤ) : 0 < (scaled b n d e).2 := by
  rw [scaled]
  split
  · exact hd
  · exact Nat.mul_pos hd (Nat.pow_pos hb)

/-- A ratio that is scaled stands for the product with the power. -/
theorem scaled_ratio {b : ℕ} (hb : 0 < b) (n d : ℕ) (e : ℤ) :
    ((scaled b n d e).1 : ℚ) / (scaled b n d e).2 = n / d * (b : ℚ) ^ e := by
  have hbase : (b : ℚ) ≠ 0 := Nat.cast_ne_zero.mpr hb.ne'
  rw [scaled]
  split
  case isTrue he =>
    obtain ⟨k, rfl⟩ := Int.eq_ofNat_of_zero_le he
    simp only [Nat.pow_eq, Int.toNat_natCast, Nat.cast_mul, Nat.cast_pow, zpow_natCast]
    ring
  case isFalse he =>
    obtain ⟨k, hk⟩ := Int.eq_ofNat_of_zero_le (show 0 ≤ -e by omega)
    obtain rfl : e = -(k : ℤ) := by omega
    simp only [Nat.pow_eq, neg_neg, Int.toNat_natCast, Nat.cast_mul, Nat.cast_pow, zpow_neg, zpow_natCast]
    rw [div_mul_eq_div_div, div_eq_mul_inv]

theorem div_lt_iff_ratio_lt {n d k : ℕ} (hd : 0 < d) : n / d < k ↔ (n : ℚ) / d < k := by
  rw [Nat.div_lt_iff_lt_mul hd, div_lt_iff₀ (Nat.cast_pos.mpr hd)]
  exact_mod_cast Iff.rfl

/-- What is no more than a half away, in whole numbers. -/
theorem roundQuotient_of_bounds {n d k : ℕ} (hd : 0 < d) (hbelow : 2 * k * d ≤ 2 * n + d) (habove : 2 * n ≤ 2 * k * d + d)
    (hties : k % 2 = 1 → 2 * k * d < 2 * n + d ∧ 2 * n < 2 * k * d + d) : roundQuotient n d = k := by
  have hdivision : d * (n / d) + n % d = n := Nat.div_add_mod n d
  have hrest : n % d < d := Nat.mod_lt n hd
  rw [roundQuotient]
  generalize n / d = q at *
  generalize n % d = r at *
  have hle : q ≤ k := by
    by_contra hlt
    have hmul : d * (k + 1) ≤ d * q := Nat.mul_le_mul_left d (by omega)
    have hexpand : d * (k + 1) = k * d + d := by ring
    have hassoc : 2 * k * d = 2 * (k * d) := by ring
    omega
  have hge : k ≤ q + 1 := by
    by_contra hlt
    have hmul : d * (q + 2) ≤ d * k := Nat.mul_le_mul_left d (by omega)
    have hexpand : d * (q + 2) = d * q + 2 * d := by ring
    have hassoc : 2 * k * d = 2 * (d * k) := by ring
    omega
  -- The number is the quotient or the next one; the remainder tells which.
  obtain rfl | rfl : k = q ∨ k = q + 1 := by omega
  · have hassoc : 2 * k * d = 2 * (d * k) := by ring
    split_ifs <;> omega
  · have hassoc : 2 * (q + 1) * d = 2 * (d * q) + 2 * d := by ring
    split_ifs <;> omega

/-- A ratio rounds to a whole number that is no more than a half away, and to an odd one only if it is less than that. -/
theorem roundQuotient_eq {n d k : ℕ} (hd : 0 < d) (hlow : (k : ℚ) - 1 / 2 ≤ n / d) (hhigh : (n : ℚ) / d ≤ k + 1 / 2)
    (hodd : k % 2 = 1 → (k : ℚ) - 1 / 2 < n / d ∧ (n : ℚ) / d < k + 1 / 2) : roundQuotient n d = k := by
  have hd' : (0 : ℚ) < d := Nat.cast_pos.mpr hd
  have hbelow : 2 * k * d ≤ 2 * n + d := by
    rw [le_div_iff₀ hd'] at hlow
    have hdoubled : 2 * (k : ℚ) * d ≤ 2 * n + d := by linarith
    exact_mod_cast hdoubled
  have habove : 2 * n ≤ 2 * k * d + d := by
    rw [div_le_iff₀ hd'] at hhigh
    have hdoubled : 2 * (n : ℚ) ≤ 2 * k * d + d := by linarith
    exact_mod_cast hdoubled
  refine roundQuotient_of_bounds hd hbelow habove ?_
  intro hk
  obtain ⟨hleft, hright⟩ := hodd hk
  rw [lt_div_iff₀ hd'] at hleft
  rw [div_lt_iff₀ hd'] at hright
  have hleft' : 2 * (k : ℚ) * d < 2 * n + d := by linarith
  have hright' : 2 * (n : ℚ) < 2 * k * d + d := by linarith
  exact ⟨by exact_mod_cast hleft', by exact_mod_cast hright'⟩

namespace Binary64

/-! ### Binary numbers -/

structure Represents (m : ℕ) (e : ℤ) : Prop where
  bits : m < 2 ^ 53
  least : minExponent ≤ e
  most : e ≤ maxExponent
  full : e = minExponent ∨ 2 ^ 52 ≤ m

def reachBelow (m : ℕ) (e : ℤ) : ℚ := if m = 2 ^ 52 ∧ minExponent < e then 1 / 4 else 1 / 2

/-- Whether a rational is no farther from `m * 2 ^ e` than from any other number, and nearer if `m` is odd. -/
structure Nearest (m : ℕ) (e : ℤ) (x : ℚ) : Prop where
  low : (m - reachBelow m e) * 2 ^ e ≤ x
  high : x ≤ (m + 1 / 2) * 2 ^ e
  odd : m % 2 = 1 → (m - reachBelow m e) * 2 ^ e < x ∧ x < (m + 1 / 2) * 2 ^ e

theorem two_zpow_pos (e : ℤ) : (0 : ℚ) < 2 ^ e := zpow_pos (by norm_num) e

/-- The binary logarithms of its parts tell a ratio up to a factor of four. -/
theorem ratio_bounds {n d : ℕ} (hn : 0 < n) (hd : 0 < d) :
    (2 : ℚ) ^ ((n.log2 : ℤ) - d.log2 - 1) < n / d ∧ (n : ℚ) / d < 2 ^ ((n.log2 : ℤ) - d.log2 + 1) := by
  have hd' : (0 : ℚ) < d := Nat.cast_pos.mpr hd
  have hnlow : (2 : ℚ) ^ (n.log2 : ℤ) ≤ n := by exact_mod_cast Nat.log2_self_le hn.ne'
  have hnhigh : (n : ℚ) < 2 ^ ((n.log2 : ℤ) + 1) := by exact_mod_cast @Nat.lt_log2_self n
  have hdlow : (2 : ℚ) ^ (d.log2 : ℤ) ≤ d := by exact_mod_cast Nat.log2_self_le hd.ne'
  have hdhigh : (d : ℚ) < 2 ^ ((d.log2 : ℤ) + 1) := by exact_mod_cast @Nat.lt_log2_self d
  constructor
  · rw [lt_div_iff₀ hd']
    calc (2 : ℚ) ^ ((n.log2 : ℤ) - d.log2 - 1) * d
        < 2 ^ ((n.log2 : ℤ) - d.log2 - 1) * 2 ^ ((d.log2 : ℤ) + 1) := mul_lt_mul_of_pos_left hdhigh (two_zpow_pos _)
      _ = 2 ^ (n.log2 : ℤ) := by rw [← zpow_add₀ two_ne_zero]; congr 1; omega
      _ ≤ n := hnlow
  · rw [div_lt_iff₀ hd']
    calc (n : ℚ) < 2 ^ ((n.log2 : ℤ) + 1) := hnhigh
      _ = 2 ^ ((n.log2 : ℤ) - d.log2 + 1) * 2 ^ (d.log2 : ℤ) := by rw [← zpow_add₀ two_ne_zero]; congr 1; omega
      _ ≤ 2 ^ ((n.log2 : ℤ) - d.log2 + 1) * d := mul_le_mul_of_nonneg_left hdlow (two_zpow_pos _).le

/-- At the exponent of a ratio its whole part has 53 bits, or fewer if the exponent is the least one. -/
theorem exponentFor_spec {n d : ℕ} (hn : 0 < n) (hd : 0 < d) :
    minExponent ≤ exponentFor n d ∧ (n : ℚ) / d < 2 ^ (exponentFor n d + 53) ∧
      (exponentFor n d = minExponent ∨ (2 : ℚ) ^ (exponentFor n d + 52) ≤ n / d) := by
  obtain ⟨hlow, hhigh⟩ := ratio_bounds hn hd
  rw [exponentFor]
  set e : ℤ := (n.log2 : ℤ) - d.log2 - 52 with he
  have hquotient : (scaled 2 n d (-e)).1 / (scaled 2 n d (-e)).2 < Nat.pow 2 52 ↔ (n : ℚ) / d < 2 ^ (e + 52) := by
    rw [div_lt_iff_ratio_lt (scaled_pos two_pos hd _), scaled_ratio two_pos, Nat.cast_ofNat, zpow_neg, ← div_eq_mul_inv,
      div_lt_iff₀ (two_zpow_pos e), zpow_add₀ two_ne_zero, mul_comm]
    norm_num
  -- `f` is the exponent before it is held up to the least one.
  have hexact : ∀ f : ℤ, (n : ℚ) / d < 2 ^ (f + 53) → (2 : ℚ) ^ (f + 52) ≤ n / d →
      minExponent ≤ max f minExponent ∧ (n : ℚ) / d < 2 ^ (max f minExponent + 53) ∧
        (max f minExponent = minExponent ∨ (2 : ℚ) ^ (max f minExponent + 52) ≤ n / d) := by
    intro f hbelow habove
    refine ⟨le_max_right _ _, hbelow.trans_le (zpow_le_zpow_right₀ one_le_two (by omega)), ?_⟩
    rcases le_total f minExponent with hf | hf
    · exact .inl (max_eq_right hf)
    · rw [max_eq_left hf]
      exact .inr habove
  simp only [hquotient]
  split
  case isTrue hlt =>
    refine hexact (e - 1) ?_ ?_
    · rwa [show e - 1 + 53 = e + 52 by omega]
    · rw [show e - 1 + 52 = (n.log2 : ℤ) - d.log2 - 1 by omega]
      exact hlow.le
  case isFalse hge =>
    refine hexact e ?_ (not_lt.mp hge)
    rwa [show e + 53 = (n.log2 : ℤ) - d.log2 + 1 by omega]

variable {m : ℕ} {e : ℤ} {x : ℚ}

theorem reachBelow_le (m : ℕ) (e : ℤ) : reachBelow m e ≤ 1 / 2 := by
  rw [reachBelow]
  split <;> norm_num

namespace Nearest

/-- What is nearest to a number, in units of its last place. -/
theorem quotient (h : Nearest m e x) : (m : ℚ) - reachBelow m e ≤ x / 2 ^ e ∧ x / 2 ^ e ≤ m + 1 / 2 ∧
    (m % 2 = 1 → (m : ℚ) - reachBelow m e < x / 2 ^ e ∧ x / 2 ^ e < m + 1 / 2) := by
  rw [le_div_iff₀ (two_zpow_pos e), div_le_iff₀ (two_zpow_pos e), lt_div_iff₀ (two_zpow_pos e), div_lt_iff₀ (two_zpow_pos e)]
  exact ⟨h.low, h.high, h.odd⟩

/-- What is nearest to a number that is not zero is at least half of its last place. -/
theorem half_le (h : Nearest m e x) (hm : 0 < m) : 1 / 2 * 2 ^ e ≤ x := by
  have hone : (1 : ℚ) ≤ m := Nat.one_le_cast.mpr hm
  rw [← le_div_iff₀ (two_zpow_pos e)]
  linarith [h.quotient.1, reachBelow_le m e]

theorem pos (h : Nearest m e x) (hm : 0 < m) : 0 < x :=
  (mul_pos (by norm_num) (two_zpow_pos e)).trans_le (h.half_le hm)

theorem lt (h : Nearest m e x) (hr : Represents m e) : x < 2 ^ (e + 53) := by
  have hbits : (m : ℚ) + 1 ≤ 2 ^ 53 := by exact_mod_cast hr.bits
  have hquotient : x / 2 ^ e < 2 ^ 53 := by linarith [h.quotient.2.1]
  rw [div_lt_iff₀ (two_zpow_pos e)] at hquotient
  rwa [add_comm e, zpow_add₀ two_ne_zero]

end Nearest

/-- The exponent of what is nearest to a number is that of the number, or the one below for what lies below a number at which
the mantissas begin again. -/
theorem exponentFor_nearest {n d : ℕ} (hn : 0 < n) (hd : 0 < d) (hr : Represents m e) (h : Nearest m e ((n : ℚ) / d)) :
    exponentFor n d = e ∨
      exponentFor n d = e - 1 ∧ m = 2 ^ 52 ∧ minExponent < e ∧ (n : ℚ) / d / 2 ^ e < 2 ^ 52 := by
  obtain ⟨hleast, hbelow, habove⟩ := exponentFor_spec hn hd
  generalize exponentFor n d = f at *
  have hfe : f ≤ e := by
    rcases habove with hf | hf
    · exact hf ▸ hr.least
    · have hlt := (zpow_lt_zpow_iff_right₀ (one_lt_two (α := ℚ))).mp (hf.trans_lt (h.lt hr))
      omega
  rcases hfe.lt_or_eq with hlt | heq
  · right
    have hmin : minExponent < e := hleast.trans_lt hlt
    have hfull : (4503599627370496 : ℚ) ≤ m := by exact_mod_cast hr.full.resolve_left hmin.ne'
    have hlow := h.quotient.1
    have hreach := reachBelow_le m e
    have hquotient : (n : ℚ) / d / 2 ^ e < 2 ^ (f - e + 53) := by
      rw [div_lt_iff₀ (two_zpow_pos e), ← zpow_add₀ two_ne_zero]
      rwa [show f - e + 53 + e = f + 53 by omega]
    -- Two places below, the quotient would be less than half of a full mantissa.
    have hf : f = e - 1 := by
      by_contra hne
      have hsmall : (2 : ℚ) ^ (f - e + 53) ≤ 2 ^ (51 : ℤ) := zpow_le_zpow_right₀ one_le_two (by omega)
      norm_num at hsmall
      linarith
    rw [hf, show e - 1 - e + 53 = 52 by omega] at hquotient
    norm_num at hquotient
    refine ⟨hf, ?_, hmin, by norm_num; exact hquotient⟩
    by_contra hne
    have hstep : 4503599627370497 ≤ m := by
      have hbits := hr.full.resolve_left hmin.ne'
      omega
    have hnext : (4503599627370497 : ℚ) ≤ m := by exact_mod_cast hstep
    linarith
  · exact .inl heq

theorem scaled_div (n : ℕ) {d : ℕ} (hd : 0 < d) (f : ℤ) : 0 < (scaled 2 n d (-f)).2 ∧
    ((scaled 2 n d (-f)).1 : ℚ) / (scaled 2 n d (-f)).2 = n / d / 2 ^ f := by
  refine ⟨scaled_pos two_pos hd _, ?_⟩
  rw [scaled_ratio two_pos, Nat.cast_ofNat, zpow_neg, div_eq_mul_inv _ ((2 : ℚ) ^ f)]

/-- In units of the last place of a number, what is nearest to it is rounded to its mantissa. -/
theorem roundQuotient_nearest {n d : ℕ} (hd : 0 < d) (h : Nearest m e ((n : ℚ) / d)) :
    roundQuotient (scaled 2 n d (-e)).1 (scaled 2 n d (-e)).2 = m := by
  obtain ⟨hlow, hhigh, hodd⟩ := h.quotient
  obtain ⟨hpos, hs⟩ := scaled_div n hd e
  have hreach := reachBelow_le m e
  refine roundQuotient_eq hpos ?_ (hs ▸ hhigh) ?_
  · rw [hs]
    linarith
  · intro hm2
    -- Only an even mantissa has denser numbers below it.
    have hhalf : reachBelow m e = 1 / 2 := by
      rw [reachBelow, if_neg]
      rintro ⟨rfl, -⟩
      norm_num at hm2
    rw [hs, ← hhalf]
    exact ⟨(hodd hm2).1, hhalf ▸ (hodd hm2).2⟩

/-- One place below, the mantissa at which the mantissas begin again is twice as great. -/
theorem roundQuotient_below {n d : ℕ} (hd : 0 < d) (h : Nearest m e ((n : ℚ) / d)) (hm : m = 2 ^ 52) (hmin : minExponent < e)
    (hbelow : (n : ℚ) / d / 2 ^ e < 2 ^ 52) :
    roundQuotient (scaled 2 n d (-(e - 1))).1 (scaled 2 n d (-(e - 1))).2 = Nat.pow 2 53 := by
  obtain ⟨hpos, hs⟩ := scaled_div n hd (e - 1)
  have hdouble : (n : ℚ) / d / 2 ^ (e - 1) = 2 * (n / d / 2 ^ e) := by
    rw [zpow_sub_one₀ two_ne_zero]
    field_simp
  have hquarter : (2 : ℚ) ^ 52 - 1 / 4 ≤ n / d / 2 ^ e := by
    have hlow := h.quotient.1
    rw [show reachBelow m e = 1 / 4 from if_pos ⟨hm, hmin⟩, hm] at hlow
    exact_mod_cast hlow
  norm_num at hbelow hquarter
  refine roundQuotient_eq hpos ?_ ?_ (by norm_num)
  · rw [hs, hdouble]
    norm_num
    linarith
  · rw [hs, hdouble]
    norm_num
    linarith

/-- A ratio is rounded to the number that it is nearest to. -/
theorem ofRatio_eq (negative : Bool) {n d : ℕ} (hd : 0 < d) (hm : 0 < m) (hr : Represents m e)
    (h : Nearest m e ((n : ℚ) / d)) : ofRatio negative n d = .finite negative m e := by
  have hn : 0 < n := by
    have hpos := h.pos hm
    rw [div_pos_iff_of_pos_right (Nat.cast_pos.mpr hd)] at hpos
    exact_mod_cast hpos
  have hmost : ¬maxExponent < e := not_lt.mpr hr.most
  rw [ofRatio, if_neg hn.ne']
  rcases exponentFor_nearest hn hd hr h with hexponent | ⟨hexponent, hm52, hmin, hbelow⟩
  · simp only [hexponent, roundQuotient_nearest hd h, if_neg (Nat.ne_of_lt hr.bits), if_neg hmost, Nat.pow_eq]
  · -- Rounding carries over to the next place.
    simp only [hexponent, roundQuotient_below hd h hm52 hmin hbelow, if_true, sub_add_cancel, if_neg hmost, hm52, Nat.pow_eq]

/-- The power of ten above a whole number that is not zero. -/
theorem decimalLength_bounds {c : ℕ} (hc : 0 < c) :
    (10 : ℚ) ^ ((decimalLength c : ℤ) - 1) ≤ c ∧ (c : ℚ) < 10 ^ (decimalLength c : ℤ) := by
  have hpos : 0 < decimalLength c := List.length_pos_iff.mpr Nat.toDigits_ne_nil
  constructor
  · obtain ⟨l, hl⟩ := Nat.exists_eq_add_one_of_ne_zero hpos.ne'
    rw [hl, Nat.cast_add_one, add_sub_cancel_right, zpow_natCast]
    rcases Nat.eq_zero_or_pos l with rfl | hl0
    · exact_mod_cast hc
    · have hnot : ¬decimalLength c ≤ l := by omega
      rw [decimalLength, Nat.length_toDigits_le_iff (by decide) hl0, not_lt] at hnot
      exact_mod_cast hnot
  · exact_mod_cast (Nat.length_toDigits_le_iff (by decide) hpos).mp le_rfl

section Decimals

variable {c : ℕ} {k : ℤ} (hr : Represents m e) (h : Nearest m e ((c : ℚ) * 10 ^ k))

include hr h

/-- No number that is not zero is as small as what is rounded to zero out of hand. -/
theorem least_magnitude (hm : 0 < m) (hc : 0 < c) : ¬k + decimalLength c < -330 := by
  intro hlt
  have hten : (0 : ℚ) < 10 ^ k := zpow_pos (by norm_num) k
  have hexponent : (-1075 : ℤ) ≤ e - 1 := by
    have hminimum := hr.least
    rw [minExponent] at hminimum
    omega
  have hhalf : (2 : ℚ) ^ (-1075 : ℤ) ≤ c * 10 ^ k := by
    calc (2 : ℚ) ^ (-1075 : ℤ) ≤ 2 ^ (e - 1) := zpow_le_zpow_right₀ one_le_two hexponent
      _ = 1 / 2 * 2 ^ e := by rw [zpow_sub_one₀ two_ne_zero]; ring
      _ ≤ c * 10 ^ k := h.half_le hm
  have htiny : (c : ℚ) * 10 ^ k < 10 ^ (-330 : ℤ) := by
    calc (c : ℚ) * 10 ^ k
        < 10 ^ (decimalLength c : ℤ) * 10 ^ k := mul_lt_mul_of_pos_right (decimalLength_bounds hc).2 hten
      _ = 10 ^ (k + decimalLength c) := by rw [← zpow_add₀ (by norm_num), add_comm]
      _ ≤ 10 ^ (-330 : ℤ) := zpow_le_zpow_right₀ (by norm_num) (by omega)
  have hpowers : (10 : ℚ) ^ (-330 : ℤ) ≤ 2 ^ (-1075 : ℤ) := by
    rw [zpow_neg, zpow_neg]
    apply inv_anti₀ (by positivity)
    exact_mod_cast (by decide +kernel : 2 ^ 1075 ≤ 10 ^ 330)
  exact absurd (htiny.trans_le hpowers) (not_lt.mpr hhalf)

/-- No number is as great as what is rounded to infinity out of hand. -/
theorem greatest_magnitude (hc : 0 < c) : ¬310 < k + decimalLength c := by
  intro hlt
  have hten : (0 : ℚ) < 10 ^ k := zpow_pos (by norm_num) k
  have hlarge : (10 : ℚ) ^ (310 : ℤ) ≤ c * 10 ^ k := by
    calc (10 : ℚ) ^ (310 : ℤ) ≤ 10 ^ ((decimalLength c : ℤ) - 1 + k) := zpow_le_zpow_right₀ (by norm_num) (by omega)
      _ = 10 ^ ((decimalLength c : ℤ) - 1) * 10 ^ k := zpow_add₀ (by norm_num) _ _
      _ ≤ c * 10 ^ k := mul_le_mul_of_nonneg_right (decimalLength_bounds hc).1 hten.le
  have hexponent : e + 53 ≤ (1024 : ℤ) := by
    have hmaximum := hr.most
    rw [maxExponent] at hmaximum
    omega
  have hfinite : (c : ℚ) * 10 ^ k < 2 ^ (1024 : ℤ) := (h.lt hr).trans_le (zpow_le_zpow_right₀ one_le_two hexponent)
  have hpowers : (2 : ℚ) ^ (1024 : ℤ) ≤ 10 ^ (310 : ℤ) := by exact_mod_cast (by decide +kernel : 2 ^ 1024 ≤ 10 ^ 310)
  exact absurd (hfinite.trans_le hpowers) (not_lt.mpr hlarge)

/-- A decimal is rounded to the number that it is nearest to. -/
theorem ofDecimal_eq (negative : Bool) (hm : 0 < m) : ofDecimal negative c k = .finite negative m e := by
  have hc : 0 < c := by
    have hpos := (pos_iff_pos_of_mul_pos (h.pos hm)).mpr (zpow_pos (by norm_num) k)
    exact_mod_cast hpos
  have hratio : ((scaled 10 c 1 k).1 : ℚ) / (scaled 10 c 1 k).2 = c * 10 ^ k := by
    rw [scaled_ratio (by decide), Nat.cast_one, div_one, Nat.cast_ofNat]
  simp only [ofDecimal, hc.ne', least_magnitude hr h hm hc, greatest_magnitude hr h hc, decide_false, Bool.or_self,
    Bool.false_eq_true, if_false]
  exact ofRatio_eq negative (scaled_pos (by decide) one_pos k) hm hr (hratio ▸ h)

end Decimals

end Binary64

end EntityViews
