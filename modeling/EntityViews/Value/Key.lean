import EntityViews.Value

/-!
Values as keys: which of them can be one, when two are the same key, and look-up by key. Numbers are the same key when
they are equal as numbers, points in time with offsets when they are the same instant.
-/

namespace EntityViews

/-- A number as it counts in comparisons; `finite` stands for `coefficient * 10 ^ exponent`. -/
inductive Magnitude
  | finite (coefficient exponent : Int)
  | infinite (negative : Bool)
  | nan (origin : Option Nat)

/-- A finite number with no zeros at the end of its coefficient. -/
def Magnitude.ofDigits (negative : Bool) (coefficient : Nat) (exponent : Int) : Magnitude :=
  if coefficient = 0 then .finite 0 0
  else
    let g := Shortest.trim (coefficient.log2 + 1) ⟨coefficient, exponent⟩
    .finite (if negative then -(g.coefficient : Int) else g.coefficient) g.exponent

def Magnitude.ofInt (n : Int) : Magnitude := .ofDigits (n < 0) n.natAbs 0

/-- Binary numbers are decimal ones: `2 ^ -k` is `5 ^ k * 10 ^ -k`. -/
def Magnitude.ofBinary : Binary64 → Magnitude
  | .nan origin => .nan origin
  | .infinite negative => .infinite negative
  | .finite negative m e =>
    if 0 ≤ e then .ofDigits negative (m * Nat.pow 2 e.toNat) 0 else .ofDigits negative (m * Nat.pow 5 (-e).toNat) e

def Magnitude.ofDecimal : Decimal → Magnitude
  | .nan _ _ _ origin => .nan origin
  | .infinite negative => .infinite negative
  | .finite negative c e => .ofDigits negative c e

def Scalar.magnitude? : Scalar → Option Magnitude
  | .bool b => some (.ofInt (if b then 1 else 0))
  | .int n => some (.ofInt n)
  | .level l => some (.ofInt l.value)
  | .float x => some (.ofBinary x)
  | .decimal d => some (.ofDecimal d)
  | _ => none

def Magnitude.same : Magnitude → Magnitude → Bool
  | .finite c e, .finite d f => c == d && e == f
  | .infinite a, .infinite b => a == b
  | .nan (some a), .nan (some b) => a == b
  | _, _ => false

/-- Whether two scalars are the same key. -/
def Scalar.same (a b : Scalar) : Bool :=
  match a.magnitude?, b.magnitude? with
  | some x, some y => x.same y
  | _, _ =>
    match a, b with
    | .null, .null => true
    | .text s, .text t => s == t
    | .text s, .columnKind k | .columnKind k, .text s => s == k.word
    | .columnKind k, .columnKind l => k == l
    | .date d, .date e => d == e
    | .datetime t, .datetime u => t.offset.isSome == u.offset.isSome && t.instant == u.instant
    | _, _ => false

namespace Value

mutual

/-- Whether two values are the same key. -/
def same : Value → Value → Bool
  | .scalar a, .scalar b => a.same b
  | .tuple items, .tuple others => sameItems items others
  | _, _ => false

def sameItems : List Value → List Value → Bool
  | [], [] => true
  | a :: as, b :: bs => a.same b && sameItems as bs
  | _, _ => false

end

mutual

def isKey : Value → Bool
  | .scalar (.decimal (.nan _ true _ _)) => false
  | .scalar _ => true
  | .tuple items => areKeys items
  | _ => false

def areKeys : List Value → Bool
  | [] => true
  | item :: rest => item.isKey && areKeys rest

end

end Value

def lookup? {α : Type} (key : Value) (entries : List (Value × α)) : Option α :=
  (entries.find? fun e => e.1.same key).map (·.2)

def assign {α : Type} (key : Value) (value : α) : List (Value × α) → List (Value × α)
  | [] => [(key, value)]
  | (k, v) :: rest => if k.same key then (k, value) :: rest else (k, v) :: assign key value rest

/-- Entries with later values of a key put in the place of its first. -/
def collect {α : Type} (pairs : List (Value × α)) : List (Value × α) :=
  pairs.foldl (fun entries p => assign p.1 p.2 entries) []

def distinctKeys (keys : List Value) : List Value :=
  keys.foldl (fun seen k => if seen.any (·.same k) then seen else seen ++ [k]) []

def distinct {α : Type} [DecidableEq α] (names : List α) : List α :=
  names.foldl (fun seen n => if n ∈ seen then seen else seen ++ [n]) []

def Value.field? (name : String) : Value → Option Value
  | .map entries => lookup? (.text name) entries
  | _ => none

end EntityViews
