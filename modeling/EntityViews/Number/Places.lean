import EntityViews.Number.Text

/-!
Numbers with a chosen count of digits: behind the point, or significant ones. Ties go to the even digit.
-/

namespace EntityViews

/-- How a chosen count of digits is laid out: behind the point, with one digit before the point and a power of ten, or
whichever of the two suits the magnitude. -/
inductive FloatLayout
  | places
  | scientific
  | general

/-- Coefficient and decimal exponent of `n / d` rounded to `count + 1` significant digits. -/
def significant (count n d : Nat) : Nat × Int :=
  if n = 0 then (0, 0) else
  let x := Shortest.leadingExponent n d
  let s := scaled 10 n d (count - x)
  let c := roundQuotient s.1 s.2
  if c = Nat.pow 10 (count + 1) then (Nat.pow 10 count, x + 1) else (c, x)

/-- Digits with a point after the first `whole` of them; without digits behind it the point is kept only on demand. -/
def pointed (keepPoint : Bool) (whole : Nat) (digits : List Char) : List Char :=
  let fraction := digits.drop whole
  digits.take whole ++ (if fraction.isEmpty && !keepPoint then [] else '.' :: fraction)

def paddedDigits (width coefficient : Nat) : List Char := (padLeft width '0' (decimalText coefficient)).toList

/-- Digits without the zeros at their end, but no fewer than `least`. -/
def trimZeros (least : Nat) (digits : List Char) : List Char :=
  let kept := (digits.reverse.dropWhile (· = '0')).reverse
  if kept.length < least then digits.take least else kept

namespace FloatLayout

/-- One digit before the point, the others behind it, and a power of ten. -/
def scientificText (keepPoint : Bool) (digits : List Char) (x : Int) : String :=
  String.ofList (pointed keepPoint 1 digits) ++ "e" ++ exponentText 2 x

/-- The text of `n / d`. In the general layout zeros at the end are left out unless the point is kept. -/
def text (layout : FloatLayout) (count : Nat) (keepPoint : Bool) (n d : Nat) : String :=
  match layout with
  | places =>
    let digits := paddedDigits (count + 1) (roundQuotient (n * Nat.pow 10 count) d)
    String.ofList (pointed keepPoint (digits.length - count) digits)
  | scientific =>
    let (c, x) := significant count n d
    scientificText keepPoint (paddedDigits (count + 1) c) x
  | general =>
    let count := max 1 count
    let (c, x) := significant (count - 1) n d
    let zeros := List.replicate (-x).toNat '0'
    let digits := paddedDigits count c
    let trimmed := fun least => if keepPoint then digits else trimZeros least digits
    if x < -4 || count ≤ x then scientificText keepPoint (trimmed 1) x
    else if x < 0 then String.ofList (pointed keepPoint 1 (zeros ++ trimmed 1))
    else String.ofList (pointed keepPoint (x.toNat + 1) (trimmed (x.toNat + 1)))

end FloatLayout

def Binary64.magnitudeText (layout : FloatLayout) (count : Nat) (keepPoint : Bool) (x : Binary64) : String :=
  match x, x.ratio? with
  | .nan _, _ => "nan"
  | _, some (n, d) => layout.text count keepPoint n.natAbs d
  | _, none => "inf"

def Binary64.isNegative : Binary64 → Bool
  | .nan _ => false
  | .infinite negative => negative
  | .finite negative _ _ => negative

end EntityViews
