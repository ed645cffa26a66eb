import EntityViews.Value.Number
import EntityViews.Number.Places

/-!
Messages: templates of directives filled in with values. The values are used up from the left; with a single map instead,
directives with a key take its items.
-/

namespace EntityViews.Log

/-- A field before it is laid out: what stands in front of the filling zeros, and what stands behind them. -/
structure Field where
  lead : String
  body : String
  numeric : Bool

def Field.laidOut (f : Field) (width : Nat) (flags : DirectiveFlags) : String :=
  let size := f.lead.length + f.body.length
  let fill := fun c => String.ofList (List.replicate (width - size) c)
  if flags.leftAligned then f.lead ++ f.body ++ fill ' '
  else if f.numeric && flags.zeroFilled then f.lead ++ fill '0' ++ f.body
  else fill ' ' ++ f.lead ++ f.body

/-- The sign of a number; a number that is not negative has one only on demand. -/
def signText (flags : DirectiveFlags) (negative : Bool) : String :=
  if negative then "-" else if flags.plusSign then "+" else if flags.blankSign then " " else ""

def upperAscii (s : String) : String := String.ofList (s.toList.map Char.toUpper)

/-- Base and mark of the integer conversions. -/
def integerBase? : Char → Option (Nat × String)
  | 'd' | 'i' | 'u' => some (10, "")
  | 'o' => some (8, "0o")
  | 'x' => some (16, "0x")
  | 'X' => some (16, "0X")
  | _ => none

def floatLayout? (c : Char) : Option FloatLayout :=
  match c.toLower with
  | 'e' => some .scientific
  | 'f' => some .places
  | 'g' => some .general
  | _ => none

/-- The field of an integer: at least as many digits as the precision says. -/
def integerField (conversion : Char) (base : Nat) (mark : String) (flags : DirectiveFlags) (least : Nat) (n : Int) :
    Field :=
  let digits := padLeft least '0' (String.ofList (Nat.toDigits base n.natAbs))
  ⟨signText flags (n < 0) ++ (if flags.alternate then mark else ""),
    if conversion = 'X' then upperAscii digits else digits, true⟩

def floatField (conversion : Char) (layout : FloatLayout) (flags : DirectiveFlags) (count : Nat) (x : Binary64) :
    Field :=
  let text := x.magnitudeText layout count flags.alternate
  ⟨signText flags x.isNegative, if conversion.isUpper then upperAscii text else text, true⟩

def character (v : Value) : Except Fault Char :=
  match v, v.integer? with
  | _, some n =>
    if n < 0 || 0x110000 ≤ n then .error .overflow else .ok (Text.charOf n.toNat)
  | v, none =>
    match v.asText?.map String.toList with
    | some [c] => .ok c
    | _ => .error .mistyped

/-- The field that a directive makes of a value. -/
def field (d : Directive) (conversion : Char) (precision : Option Nat) (v : Value) : Except Fault Field :=
  let cut := fun (s : String) => match precision with
    | some n => String.ofList (s.toList.take n)
    | none => s
  match integerBase? conversion, floatLayout? conversion with
  | some (base, mark), _ => do
    let n ← if base = 10 then v.truncated else
      match v.integer? with
      | some n => .ok n
      | none => .error .mistyped
    if base = 10 && digitLimit < Binary64.decimalLength n.natAbs then throw (.longNumeral none)
    return integerField conversion base mark d.flags (precision.getD 0) n
  | none, some layout => do return floatField conversion layout d.flags (precision.getD 6) (← v.binary)
  | none, none =>
    match conversion with
    | 's' => .ok ⟨"", cut v.plain, false⟩
    | 'r' => .ok ⟨"", cut v.shown, false⟩
    | 'a' => .ok ⟨"", cut (Text.inAscii v.shown), false⟩
    | 'c' => do return ⟨"", (← character v).toString, false⟩
    | c => .error (.directive (.unsupported c d.position))

/-- What the directives of a template take their values from. -/
structure Supply where
  left : List Value
  map? : Option (List (Value × Value))

/-- A single map that holds anything is a supply by keys. -/
def Supply.ofArgs : List Value → Supply
  | [.map (e :: rest)] => ⟨[.map (e :: rest)], some (e :: rest)⟩
  | args => ⟨args, none⟩

abbrev Fill := StateT Supply (Except Fault)

def take : Fill Value := do
  match (← get).left with
  | [] => throw .mistyped
  | v :: rest =>
    modify fun s => { s with left := rest }
    return v

/-- Makes the item of a key the next and only value. -/
def select : DirectiveKey → Fill Unit
  | .absent => return
  | key => do
    match (← get).map?, key with
    | none, _ => throw .mistyped
    | some entries, .named name =>
      match lookup? (.text name) entries with
      | some v => modify fun s => { s with left := [v] }
      | none => throw .absentKey
    | _, _ => throw (.directive .unclosedKey)

/-- A measure as a number; what is taken from the values must be an integer of at most `limit`. -/
def measure (tooBig : DirectiveFault) (limit : Nat) : Measure → Fill (Option Int)
  | .absent => return none
  | .given n => return some n
  | .tooBig => throw (.directive tooBig)
  | .taken => do
    match (← take).integer? with
    | none => throw .mistyped
    | some n =>
      if n < -(limit : Int) - 1 || limit < n then throw .overflow
      return some n

/-- The text of a part of a template. A width below zero asks for the left side; a precision below zero counts as zero. -/
def fillPiece : DirectivePiece → Fill String
  | .literal c => return c.toString
  | .directive d => do
    select d.key
    let width := (← measure .widthTooBig Directive.widthLimit d.width).getD 0
    let precision := (← measure .precisionTooBig Directive.precisionLimit d.precision).map Int.toNat
    match d.conversion with
    | none => throw (.directive .unfinished)
    | some c =>
      let f ← field d c precision (← take)
      return f.laidOut width.natAbs { d.flags with leftAligned := d.flags.leftAligned || width < 0 }

/-- The message of a template; without values the template itself. All values have to be used. -/
def message (template : String) (args : List Value) : Except Fault String :=
  if args.isEmpty then .ok template else do
    let (texts, supply) ← ((Directive.parse template).mapM fillPiece).run (Supply.ofArgs args)
    if supply.map?.isNone && !supply.left.isEmpty then throw .mistyped
    return String.join texts

end EntityViews.Log
