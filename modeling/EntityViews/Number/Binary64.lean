/-!
Binary floating-point numbers of 53 significant bits, held exactly, and rounding into them.
-/

namespace EntityViews

/-- A 64-bit binary floating-point number; `finite` stands for `± mantissa * 2 ^ exponent`. -/
inductive Binary64
  /-- Not a number. Two of them are one and the same only if they have one origin. -/
  | nan (origin : Option Nat)
  | infinite (negative : Bool)
  | finite (negative : Bool) (mantissa : Nat) (exponent : Int)
deriving DecidableEq

/-- `n / d` rounded to the nearest natural number, a tie to the even one. -/
def roundQuotient (n d : Nat) : Nat :=
  let q := n / d
  let r := n % d
  if 2 * r < d then q else if d < 2 * r then q + 1 else q + q % 2

/-- The pair `n * b ^ e, d`, or `n, d * b ^ (-e)` for a negative `e`: both stand for `n / d * b ^ e`. -/
def scaled (b n d : Nat) (e : Int) : Nat × Nat :=
  if 0 ≤ e then (n * Nat.pow b e.toNat, d) else (n, d * Nat.pow b (-e).toNat)

namespace Binary64

def minExponent : Int := -1074

def maxExponent : Int := 971

def zero (negative : Bool) : Binary64 := .finite negative 0 minExponent

/-- The exponent at which `n / d` has 53 significant bits, or the least one. -/
def exponentFor (n d : Nat) : Int :=
  let e : Int := (n.log2 : Int) - d.log2 - 52
  let s := scaled 2 n d (-e)
  let e := if s.1 / s.2 < Nat.pow 2 52 then e - 1 else e
  max e minExponent

/-- The number nearest to `± n / d`, ties to even; beyond the greatest finite number it is infinite. -/
def ofRatio (negative : Bool) (n d : Nat) : Binary64 :=
  if n = 0 then zero negative else
  let e := exponentFor n d
  let s := scaled 2 n d (-e)
  let m := roundQuotient s.1 s.2
  let (m, e) := if m = Nat.pow 2 53 then (Nat.pow 2 52, e + 1) else (m, e)
  if maxExponent < e then .infinite negative else .finite negative m e

/-- How many decimal digits a positive number has; zero has one. -/
def decimalLength (n : Nat) : Nat := (Nat.toDigits 10 n).length

/-- The number nearest to `± coefficient * 10 ^ exponent`. -/
def ofDecimal (negative : Bool) (coefficient : Nat) (exponent : Int) : Binary64 :=
  let magnitude := exponent + decimalLength coefficient
  if coefficient = 0 || magnitude < -330 then zero negative
  else if 310 < magnitude then .infinite negative
  else
    let s := scaled 10 coefficient 1 exponent
    ofRatio negative s.1 s.2

def ofInt (n : Int) : Binary64 := ofRatio (n < 0) n.natAbs 1

def ratio? : Binary64 → Option (Int × Nat)
  | .finite negative m e =>
    let s := scaled 2 m 1 e
    some (if negative then -(s.1 : Int) else s.1, s.2)
  | _ => none

def isZero : Binary64 → Bool
  | .finite _ m _ => m == 0
  | _ => false

end Binary64

end EntityViews
