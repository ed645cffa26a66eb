import EntityViews.Number.Text
import EntityViews.Text.Classes

/-!
Exact decimal numbers that keep their exponent, and their scientific notation.
-/

namespace EntityViews

/-- A decimal number; `finite` stands for `± coefficient * 10 ^ exponent` and keeps trailing zeros. -/
inductive Decimal
  | finite (negative : Bool) (coefficient : Nat) (exponent : Int)
  | infinite (negative : Bool)
  /-- Not a number. Two of them are one and the same only if they have one origin. -/
  | nan (negative signaling : Bool) (payload : String) (origin : Option Nat)
deriving DecidableEq

namespace Decimal

/-- Positional while the exponent is at most zero and the leading digit is no smaller than `10 ^ -6`. -/
def finiteText (coefficient : Nat) (exponent : Int) : String :=
  let digits := Nat.toDigits 10 coefficient
  let left : Int := exponent + digits.length
  let point : Int := if exponent ≤ 0 ∧ -6 < left then left else 1
  let body :=
    if point ≤ 0 then "0." ++ String.ofList (List.replicate (-point).toNat '0' ++ digits)
    else if digits.length ≤ point.toNat then
      String.ofList (digits ++ List.replicate (point.toNat - digits.length) '0')
    else String.ofList (digits.take point.toNat) ++ "." ++ String.ofList (digits.drop point.toNat)
  if left = point then body else body ++ "E" ++ exponentText 1 (left - point)

def text : Decimal → String
  | .finite negative c e => (if negative then "-" else "") ++ finiteText c e
  | .infinite negative => (if negative then "-" else "") ++ "Infinity"
  | .nan negative signaling payload _ =>
    (if negative then "-" else "") ++ (if signaling then "sNaN" else "NaN") ++ payload

/-- The value of a list of digits of any script, `none` if one is no digit. -/
def digitsValue? (cs : List Char) : Option Nat :=
  cs.foldl (fun acc c => match acc, Text.digitValue? c with
    | some n, some d => some (10 * n + d)
    | _, _ => none) (some 0)

def signed : List Char → Bool × List Char
  | '-' :: rest => (true, rest)
  | '+' :: rest => (false, rest)
  | rest => (false, rest)

def exponentPart? : List Char → Option Int
  | [] => some 0
  | c :: rest =>
    if c = 'e' || c = 'E' then
      let (negative, ds) := signed rest
      if ds.isEmpty then none
      else (digitsValue? ds).map fun n => if negative then -(n : Int) else n
    else none

/-- A numeral without sign: digits with at most one point and at least one digit, then an exponent. -/
def numeral? (negative : Bool) (cs : List Char) : Option Decimal :=
  let isDigit := fun c => (Text.digitValue? c).isSome
  let whole := cs.takeWhile isDigit
  let rest := cs.dropWhile isDigit
  let fraction := match rest with
    | '.' :: more => more.takeWhile isDigit
    | _ => []
  let tail := match rest with
    | '.' :: more => more.dropWhile isDigit
    | _ => rest
  if whole.isEmpty && fraction.isEmpty then none
  else do
    let c ← digitsValue? (whole ++ fraction)
    let e ← exponentPart? tail
    return .finite negative c (e - fraction.length)

/-- The payload of a NaN: digits, written without leading zeros. -/
def payload? (cs : List Char) : Option String :=
  if cs.isEmpty then some "" else (digitsValue? cs).map fun n => if n = 0 then "" else decimalText n

/-- Reads a decimal of any size: blanks around it and underscores within do not count. -/
def read? (s : String) : Option Decimal :=
  let cs := (Text.trimBy Text.isBlank s.toList).filter (· != '_')
  let (negative, body) := signed cs
  let lower := body.map Char.toLower
  if lower = "inf".toList || lower = "infinity".toList then some (.infinite negative)
  else if lower.take 3 = "nan".toList then (payload? (body.drop 3)).map (.nan negative false · none)
  else if lower.take 4 = "snan".toList then (payload? (body.drop 4)).map (.nan negative true · none)
  else numeral? negative body

def maxLeading : Int := Nat.pow 10 18 - 1

def minExponent : Int := -2 * Nat.pow 10 18 + 3

/-- Whether the digits of a number lie where decimals have digits. -/
def isInRange : Decimal → Bool
  | .finite _ c e => e + Binary64.decimalLength c - 1 ≤ maxLeading && minExponent ≤ e
  | _ => true

/-- Reads a decimal whose digits lie in range. -/
def ofText? (s : String) : Option Decimal := (read? s).filter isInRange

def toBinary64 : Decimal → Binary64
  | .finite negative c e => .ofDecimal negative c e
  | .infinite negative => .infinite negative
  | .nan _ _ _ _ => .nan none

/-- The whole part of a finite number, `none` if it has more than `limit` digits. -/
def whole? (limit : Nat) (negative : Bool) (coefficient : Nat) (exponent : Int) : Option Int :=
  let leading := exponent + Binary64.decimalLength coefficient
  if coefficient = 0 || leading ≤ 0 then some 0
  else if limit < leading then none
  else
    let s := scaled 10 coefficient 1 exponent
    some (if negative then -((s.1 / s.2 : Nat) : Int) else (s.1 / s.2 : Nat))

def isZero : Decimal → Bool
  | .finite _ c _ => c == 0
  | _ => false

end Decimal

/-- Reads a binary number from its plain decimal text. -/
def Binary64.ofText? (s : String) : Option Binary64 :=
  (Decimal.read? s).map Decimal.toBinary64

/-- Why a text stands for no whole number. -/
inductive NumeralFault
  | malformed
  /-- It has more digits than are read. -/
  | tooLong (digits : Nat)

def digitLimit : Nat := 4300

/-- Reads digits of any script with single underscores between them: their number, how many there are, and what follows
them; `none` if an underscore stands anywhere else. -/
def readWhole? : List Char → Bool → Nat → Nat → Option (Nat × Nat × List Char)
  | [], afterDigit, n, count => if afterDigit then some (n, count, []) else none
  | c :: rest, afterDigit, n, count =>
    match Text.digitValue? c with
    | some d => readWhole? rest true (10 * n + d) (count + 1)
    | none =>
      if !afterDigit then none
      else if c = '_' then readWhole? rest false n count
      else some (n, count, c :: rest)

/-- A whole number: blanks around it, a sign, digits of any script with single underscores between them. -/
def wholeNumber (s : String) : Except NumeralFault Int :=
  let blank := fun (c : Char) => if c.toNat < 0x80 then Text.isAsciiBlank c else Text.isBlank c
  let (negative, body) := Decimal.signed (Text.trimBy blank s.toList)
  match readWhole? body false 0 0 with
  | none => .error .malformed
  | some (n, count, rest) =>
    if digitLimit < count then .error (.tooLong count)
    else if !rest.isEmpty then .error .malformed
    else .ok (if negative then -(n : Int) else n)

end EntityViews
