import EntityViews.Number.Text
import EntityViews.Text.Surrogate

/-!
Templates with percent directives. A directive stands for a value: after the percent sign come a key in round brackets,
flags, a width, a precision behind a point, a letter for the size that has no meaning, and the letter of the conversion;
all but the last may be missing. Two percent signs stand for one.
-/

namespace EntityViews

inductive DirectiveFault
  | unclosedKey
  | unfinished
  | unsupported (c : Char) (position : Nat)
  | widthTooBig
  | precisionTooBig

/-- A width or precision: given in digits, or taken from the values. -/
inductive Measure
  | absent
  | given (n : Nat)
  | taken
  /-- More than can be counted; the directive is not read any further. -/
  | tooBig

structure DirectiveFlags where
  leftAligned : Bool
  plusSign : Bool
  blankSign : Bool
  alternate : Bool
  zeroFilled : Bool

inductive DirectiveKey
  | absent
  | named (name : String)
  | unclosed

/-- A directive; without a conversion the template ends within it. -/
structure Directive where
  key : DirectiveKey
  flags : DirectiveFlags
  width : Measure
  precision : Measure
  conversion : Option Char
  /-- The position of the conversion in the template. -/
  position : Nat

inductive DirectivePiece
  | literal (c : Char)
  | directive (d : Directive)

namespace Directive

def widthLimit : Nat := Nat.pow 2 63 - 1

def precisionLimit : Nat := Nat.pow 2 31 - 1

/-- The text up to the bracket that closes `depth` open ones, and what follows it; brackets inside come in pairs. -/
def closing : Nat → List Char → Option (List Char × List Char)
  | _, [] => none
  | depth, c :: rest =>
    if c = ')' && depth ≤ 1 then some ([], rest)
    else
      let depth := if c = '(' then depth + 1 else if c = ')' then depth - 1 else depth
      (closing depth rest).map fun r => (c :: r.1, r.2)

def readKey : List Char → DirectiveKey × List Char
  | '(' :: rest =>
    match closing 1 rest with
    | some (name, rest) => (.named (String.ofList name), rest)
    | none => (.unclosed, [])
  | rest => (.absent, rest)

def isFlag (c : Char) : Bool := c == '-' || c == '+' || c == ' ' || c == '#' || c == '0'

def flagsOf (cs : List Char) : DirectiveFlags :=
  ⟨cs.contains '-', cs.contains '+', cs.contains ' ', cs.contains '#', cs.contains '0'⟩

def digitsNumber (cs : List Char) : Nat := cs.foldl (fun n c => 10 * n + (c.toNat - '0'.toNat)) 0

def isDigit (c : Char) : Bool := '0' ≤ c && c ≤ '9'

/-- A measure of at most `limit`: an asterisk or a run of digits. -/
def readMeasure (limit : Nat) : List Char → Measure × List Char
  | '*' :: rest => (.taken, rest)
  | cs =>
    let digits := cs.takeWhile isDigit
    if digits.isEmpty then (.absent, cs)
    else if limit < digitsNumber digits then (.tooBig, [])
    else (.given (digitsNumber digits), cs.dropWhile isDigit)

/-- A precision behind a point, zero if nothing follows the point. -/
def readPrecision : List Char → Measure × List Char
  | '.' :: rest =>
    match readMeasure precisionLimit rest with
    | (.absent, rest) => (.given 0, rest)
    | measured => measured
  | rest => (.absent, rest)

def dropSize : List Char → List Char
  | c :: rest => if c = 'h' || c = 'l' || c = 'L' then rest else c :: rest
  | [] => []

/-- Reads what follows a percent sign in a template of some length: a directive and the rest. -/
def read (length : Nat) (cs : List Char) : Directive × List Char :=
  let (key, cs) := readKey cs
  let flags := flagsOf (cs.takeWhile isFlag)
  let (width, cs) := readMeasure widthLimit (cs.dropWhile isFlag)
  let (precision, cs) := readPrecision cs
  match dropSize cs with
  | [] => (⟨key, flags, width, precision, none, length⟩, [])
  | c :: rest => (⟨key, flags, width, precision, some c, length - rest.length - 1⟩, rest)

def pieces (length : Nat) : Nat → List Char → List DirectivePiece
  | 0, _ | _, [] => []
  | fuel + 1, '%' :: '%' :: rest => .literal '%' :: pieces length fuel rest
  | fuel + 1, '%' :: rest =>
    let (d, rest) := read length rest
    .directive d :: pieces length fuel rest
  | fuel + 1, c :: rest => .literal c :: pieces length fuel rest

def parse (template : String) : List DirectivePiece :=
  pieces template.length template.length template.toList

end Directive

def DirectiveFault.message : DirectiveFault → String
  | unclosedKey => "incomplete format key"
  | unfinished => "incomplete format"
  | unsupported c position =>
    "unsupported format character '" ++ (if 31 ≤ c.toNat && c.toNat < 127 then c.toString else "?") ++ "' (0x" ++
      String.ofList (Nat.toDigits 16 (Text.codeOf c)) ++ ") at index " ++ decimalText position
  | widthTooBig => "width too big"
  | precisionTooBig => "precision too big"

end EntityViews
