import EntityViews.Fault

/-!
The numbers that values stand for.
-/

namespace EntityViews

namespace Value

/-- The integer that a value is: truth values and levels count as integers. -/
def integer? : Value → Option Int
  | .int n => some n
  | .bool b => some (if b then 1 else 0)
  | .level l => some l.value
  | _ => none

/-- The most digits that the whole part of a decimal is worked out to. -/
def wholeLimit : Nat := 100000

def truncated : Value → Except Fault Int
  | .float (.nan _) => .error (.nanInteger true)
  | .float x =>
    match x.ratio? with
    | some (n, d) => .ok (n.tdiv d)
    | none => .error .overflow
  | .decimal (.nan _ _ _ _) => .error (.nanInteger false)
  | .decimal (.infinite _) => .error .overflow
  | .decimal (.finite negative c e) =>
    match Decimal.whole? wholeLimit negative c e with
    | some n => .ok n
    | none => .error (.longNumeral none)
  | v =>
    match v.integer? with
    | some n => .ok n
    | none => .error .mistyped

/-- The whole number that a value stands for; a text may spell one. -/
def wholeNumber : Value → Except Fault Int
  | .text s => (EntityViews.wholeNumber s).mapError (.ofNumeral (String.ofList ((Text.quoted s).toList.take 200)))
  | .columnKind k => .error (.notInteger (Scalar.columnKind k).shown)
  | v => v.truncated

def binary : Value → Except Fault Binary64
  | .float x => .ok x
  | .decimal (.nan _ true _ _) => .error .signallingNan
  | .decimal d => .ok d.toBinary64
  | v =>
    match v.integer? with
    | some n =>
      match Binary64.ofInt n with
      | .infinite _ => .error .overflow
      | x => .ok x
    | none => .error .mistyped

end Value

end EntityViews
