import Mathlib.Algebra.Group.Int.Defs
import Mathlib.Algebra.Group.Nat.Defs
import EntityViews.Proofs.Keys
import EntityViews.Proofs.Numerals
import EntityViews.Proofs.Truth

/-!
Whole numbers as keys. As a magnitude a number loses the zeros at its end and no more than these, so that whole numbers
are the same key only if they are equal; then a database that compares them as numbers and a table of keys agree.
-/

namespace EntityViews

def Magnitude.whole : Magnitude → Int
  | .finite coefficient exponent => coefficient * 10 ^ exponent.toNat
  | _ => 0

theorem Magnitude.whole_ofInt (n : Int) : (Magnitude.ofInt n).whole = n := by
  unfold Magnitude.ofInt Magnitude.ofDigits
  split
  · rename_i hzero
    have hn : n = 0 := Int.natAbs_eq_zero.mp hzero
    rw [whole, hn, Int.zero_mul]
  · obtain ⟨k, hexponent, hcoefficient⟩ := Shortest.trim_value (n.natAbs.log2 + 1) ⟨n.natAbs, 0⟩
    dsimp only at hexponent hcoefficient
    -- The exponent counts the zeros that were taken off.
    have hk : (Shortest.trim (n.natAbs.log2 + 1) ⟨n.natAbs, 0⟩).exponent.toNat = k := by omega
    have habs : ((Shortest.trim (n.natAbs.log2 + 1) ⟨n.natAbs, 0⟩).coefficient : Int) * 10 ^ k = n.natAbs := by
      exact_mod_cast hcoefficient.symm
    rw [whole, hk]
    by_cases hn : n < 0
    · rw [if_pos (decide_eq_true hn), Int.neg_mul, habs]
      omega
    · rw [if_neg (by simpa using hn), habs]
      omega

theorem Magnitude.ofInt_injective : Function.Injective Magnitude.ofInt :=
  Function.LeftInverse.injective Magnitude.whole_ofInt

theorem Magnitude.ofInt_ne_nan (n : Int) (origin : Option Nat) : Magnitude.ofInt n ≠ .nan origin := by
  unfold Magnitude.ofInt Magnitude.ofDigits
  split <;> nofun

namespace Value

/-- Integers are the same value if they are the same number. -/
theorem same_ints {a b : Int} : (Value.int a).same (.int b) = true ↔ a = b := by
  rw [same, Scalar.same_iff]
  constructor
  · rintro ⟨h, _⟩
    exact Magnitude.ofInt_injective (Canon.magnitude.inj h)
  · rintro rfl
    refine ⟨rfl, ?_⟩
    intro h
    exact Magnitude.ofInt_ne_nan a none (Canon.magnitude.inj h)

def isReference : Value → Bool
  | .int _ | .null => true
  | _ => false

theorem reference_cases {v : Value} (h : v.isReference = true) : v = .null ∨ ∃ n, v = .int n := by
  unfold isReference at h
  split at h
  · exact Or.inr ⟨_, rfl⟩
  · exact Or.inl rfl
  · cases h

/-- References are the same value if they are equal. -/
theorem same_iff_eq {a b : Value} (ha : a.isReference = true) (hb : b.isReference = true) : a.same b = true ↔ a = b := by
  obtain rfl | ⟨m, rfl⟩ := reference_cases ha <;> obtain rfl | ⟨n, rfl⟩ := reference_cases hb
  · exact ⟨fun _ => rfl, fun _ => rfl⟩
  · exact ⟨nofun, nofun⟩
  · exact ⟨nofun, nofun⟩
  · rw [same_ints]
    constructor
    · rintro rfl
      rfl
    · intro h
      cases h
      rfl

end Value

/-- A list of keys that all refer to rows loses none of them when each is taken once. -/
theorem mem_distinctKeys_iff {keys : List Value} (h : ∀ k ∈ keys, k.isReference = true) {k : Value} :
    k ∈ distinctKeys keys ↔ k ∈ keys := by
  have hstep : ∀ (keys seen : List Value), (∀ k ∈ keys, k.isReference = true) → (∀ k ∈ seen, k.isReference = true) →
      (k ∈ keys.foldl (fun seen k => if seen.any (·.same k) then seen else seen ++ [k]) seen ↔ k ∈ seen ∨ k ∈ keys) := by
    intro keys
    induction keys with
    | nil =>
      intro seen _ _
      simp
    | cons key rest ih =>
      intro seen hkeys hseen
      have hkey : key.isReference = true := hkeys key List.mem_cons_self
      have hrest : ∀ k ∈ rest, k.isReference = true := fun k hk => hkeys k (List.mem_cons_of_mem _ hk)
      -- A key that is passed over is the same value as one that is there, and for references that is to be equal to it.
      rw [List.foldl_cons]
      split
      · rename_i hany
        obtain ⟨other, hother, hsame⟩ := List.any_eq_true.mp hany
        have he : other = key := (Value.same_iff_eq (hseen other hother) hkey).mp hsame
        rw [ih seen hrest hseen, List.mem_cons]
        constructor
        · rintro (h | h)
          · exact Or.inl h
          · exact Or.inr (Or.inr h)
        · rintro (h | rfl | h)
          · exact Or.inl h
          · exact Or.inl (he ▸ hother)
          · exact Or.inr h
      · have hmore : ∀ k ∈ seen ++ [key], k.isReference = true := by
          intro k hk
          rcases List.mem_append.mp hk with hk | hk
          · exact hseen k hk
          · rwa [List.mem_singleton.mp hk]
        rw [ih _ hrest hmore, List.mem_append, List.mem_singleton, List.mem_cons, or_assoc]
  have hall := hstep keys [] h nofun
  rw [distinctKeys, hall]
  simp

def Contents.ComparesIntegers (db : Contents) : Prop := ∀ a b : Int, db.compares .eq (.int a) (.int b) = (a == b)

/-- Where integers are compared as integers, references are joined if they are equal and not null. -/
theorem Contents.joins_iff {db : Contents} (h : db.ComparesIntegers) {a b : Value} (ha : a.isReference = true)
    (hb : b.isReference = true) : db.Joins a b ↔ a = b ∧ b ≠ .null := by
  obtain rfl | ⟨m, rfl⟩ := Value.reference_cases ha <;> obtain rfl | ⟨n, rfl⟩ := Value.reference_cases hb
  · exact ⟨nofun, fun h => absurd rfl h.2⟩
  · exact ⟨nofun, nofun⟩
  · exact ⟨nofun, nofun⟩
  · have hcompare : db.compare .eq (.int m) (.int n) = .ofBool (m == n) := congrArg Truth.ofBool (h m n)
    rw [Joins, hcompare]
    by_cases he : m = n
    · simp [he, Truth.ofBool]
    · simp [he, Truth.ofBool]

end EntityViews
