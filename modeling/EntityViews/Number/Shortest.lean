import EntityViews.Number.Binary64

/-!
The shortest decimal that reads back as a given binary number: for growing digit counts the neighbours of the value on
the decimal grid are tried, and the first grid with a neighbour inside the rounding interval wins.
-/

namespace EntityViews.Shortest

structure Digits where
  coefficient : Nat
  exponent : Int

/-- Counts `x` up while `10 ^ (x + 1) ≤ n / d`. -/
def raise (n d : Nat) : Nat → Int → Int
  | 0, x => x
  | fuel + 1, x =>
    let s := scaled 10 n d (-(x + 1))
    if s.2 ≤ s.1 then raise n d fuel (x + 1) else x

/-- The decimal exponent of the leading digit of `n / d`. -/
def leadingExponent (n d : Nat) : Int :=
  raise n d 5 ((((n.log2 : Int) - d.log2) * 30103).fdiv 100000 - 2)

/-- The reals that round to a number, scaled by `unit`; the ends count iff `closed`. -/
structure Interval where
  low : Nat
  value : Nat
  high : Nat
  unit : Nat
  closed : Bool

/-- The rounding interval of `m * 2 ^ e`, in quarters of its last place. -/
def interval (m : Nat) (e : Int) : Interval :=
  let s := scaled 2 1 1 (e - 2)
  let below := if m = Nat.pow 2 52 ∧ Binary64.minExponent < e then 1 else 2
  ⟨(4 * m - below) * s.1, 4 * m * s.1, (4 * m + 2) * s.1, s.2, m % 2 == 0⟩

def Interval.holds (i : Interval) (c : Nat) (k : Int) : Bool :=
  let s := scaled 10 (c * i.unit) 1 k
  let low := i.low * s.2
  let high := i.high * s.2
  if i.closed then low ≤ s.1 && s.1 ≤ high else low < s.1 && s.1 < high

/-- The neighbour of the value on the grid of step `10 ^ k` that lies in the interval; of two the nearer, in a tie the
even one. -/
def Interval.neighbour? (i : Interval) (k : Int) : Option Nat :=
  let s := scaled 10 i.value i.unit (-k)
  let c := s.1 / s.2
  let rest := s.1 % s.2
  match i.holds c k, i.holds (c + 1) k with
  | true, true => some (if 2 * rest < s.2 then c else if s.2 < 2 * rest then c + 1 else c + c % 2)
  | true, false => some c
  | false, true => some (c + 1)
  | false, false => none

def trim : Nat → Digits → Digits
  | 0, g => g
  | fuel + 1, g =>
    if g.coefficient % 10 = 0 ∧ g.coefficient ≠ 0 then trim fuel ⟨g.coefficient / 10, g.exponent + 1⟩ else g

/-- Tries grids of `n`, `n + 1`, … digits. -/
def search (i : Interval) (lead : Int) : Nat → Int → Digits
  | 0, k => ⟨(scaled 10 i.value i.unit (-k)).1 / (scaled 10 i.value i.unit (-k)).2, k⟩
  | fuel + 1, k =>
    match i.neighbour? k with
    | some c => trim 20 ⟨c, k⟩
    | none => search i lead fuel (k - 1)

/-- The shortest decimal that rounds to `m * 2 ^ e`, for a positive `m`. -/
def digits (m : Nat) (e : Int) : Digits :=
  let i := interval m e
  let lead := leadingExponent i.value i.unit
  search i lead 17 lead

end EntityViews.Shortest
