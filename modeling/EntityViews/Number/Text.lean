import EntityViews.Number.Shortest

/-!
How numbers are written: whole numbers, and the layout of a shortest decimal.
-/

namespace EntityViews

/-- Where a style of writing binary numbers changes from positional to exponent form, and what it calls the numbers that
have no digits. -/
structure FloatStyle where
  positionalFrom : Int
  positionalBelow : Int
  exponentWidth : Nat
  nan : String
  infinity : String

/-- Numbers in values and messages: positional from `10 ^ -4` to below `10 ^ 16`, exponents of two digits at least. -/
def FloatStyle.plain : FloatStyle := ⟨-4, 16, 2, "nan", "inf"⟩

def FloatStyle.json : FloatStyle := ⟨-4, 16, 2, "NaN", "Infinity"⟩

def padLeft (width : Nat) (fill : Char) (s : String) : String :=
  String.ofList (List.replicate (width - s.length) fill) ++ s

def decimalText (n : Nat) : String := String.ofList (Nat.toDigits 10 n)

def intText (n : Int) : String := if n < 0 then "-" ++ decimalText n.natAbs else decimalText n.natAbs

def exponentText (width : Nat) (x : Int) : String :=
  (if x < 0 then "-" else "+") ++ padLeft width '0' (decimalText x.natAbs)

/-- Digits with the point after the first `point` of them, zeros filling up on either side. -/
def positional (digits : List Char) (point : Int) : String :=
  if point ≤ 0 then
    "0." ++ String.ofList (List.replicate (-point).toNat '0' ++ digits)
  else if digits.length ≤ point.toNat then
    String.ofList (digits ++ List.replicate (point.toNat - digits.length) '0') ++ ".0"
  else
    String.ofList (digits.take point.toNat) ++ "." ++ String.ofList (digits.drop point.toNat)

/-- Digits with the point after the first of them and a power of ten behind. -/
def exponential (style : FloatStyle) (digits : List Char) (point : Int) : String :=
  let fraction := if digits.length ≤ 1 then "" else "." ++ String.ofList (digits.drop 1)
  String.ofList (digits.take 1) ++ fraction ++ "e" ++ exponentText style.exponentWidth (point - 1)

namespace Binary64

/-- The shortest text that reads back as the number. -/
def text (style : FloatStyle) : Binary64 → String
  | .nan _ => style.nan
  | .infinite negative => (if negative then "-" else "") ++ style.infinity
  | .finite negative m e =>
    let sign := if negative then "-" else ""
    if m = 0 then sign ++ "0.0" else
    let g := Shortest.digits m e
    let digits := Nat.toDigits 10 g.coefficient
    let point : Int := digits.length + g.exponent
    if style.positionalFrom < point ∧ point ≤ style.positionalBelow then sign ++ positional digits point
    else sign ++ exponential style digits point

end Binary64

end EntityViews
