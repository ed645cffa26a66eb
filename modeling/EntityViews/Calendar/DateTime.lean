import EntityViews.Calendar.Date

/-!
Times of day on a date, with an optional offset from universal time.
-/

namespace EntityViews

def microsPerSecond : Int := 1000000

def microsPerDay : Int := 86400 * microsPerSecond

/-- A span of less than a day either way, in microseconds. -/
structure Offset where
  micros : Int
  belowDay : -microsPerDay < micros ∧ micros < microsPerDay
deriving DecidableEq

def Offset.utc : Offset := ⟨0, by decide⟩

def Offset.make? (micros : Int) : Except CalendarFault Offset :=
  if h : -microsPerDay < micros ∧ micros < microsPerDay then .ok ⟨micros, h⟩ else .error (.offset micros)

structure DateTime where
  date : Date
  hour : Nat
  minute : Nat
  second : Nat
  micro : Nat
  offset : Option Offset
  inDay : hour < 24 ∧ minute < 60 ∧ second < 60 ∧ micro < 1000000
deriving DecidableEq

/-- Six digits behind a point, nothing for zero. -/
def microText (micro : Nat) : String :=
  if micro = 0 then "" else "." ++ padLeft 6 '0' (decimalText micro)

/-- Sign, hours and minutes; seconds and their fraction only when they are not zero. -/
def Offset.text (o : Offset) : String :=
  let n := o.micros.natAbs
  let two := fun k => padLeft 2 '0' (decimalText k)
  let seconds := n / 1000000
  let tail := if seconds % 60 = 0 ∧ n % 1000000 = 0 then "" else ":" ++ two (seconds % 60) ++ microText (n % 1000000)
  (if o.micros < 0 then "-" else "+") ++ two (seconds / 3600) ++ ":" ++ two (seconds / 60 % 60) ++ tail

namespace DateTime

def clockText (t : DateTime) : String :=
  let two := fun k => padLeft 2 '0' (decimalText k)
  two t.hour ++ ":" ++ two t.minute ++ ":" ++ two t.second ++ microText t.micro ++
    (match t.offset with | some o => o.text | none => "")

def textWith (separator : String) (t : DateTime) : String := t.date.text ++ separator ++ t.clockText

def text (t : DateTime) : String := t.textWith "T"

/-- The point in time on the date, or the first number that is out of range. -/
def make? (date : Date) (hour minute second micro : Nat) (offset : Option Offset) : Except CalendarFault DateTime :=
  if h : hour < 24 ∧ minute < 60 ∧ second < 60 ∧ micro < 1000000 then .ok ⟨date, hour, minute, second, micro, offset, h⟩
  else if 24 ≤ hour then .error .hour
  else if 60 ≤ minute then .error .minute
  else .error .second

/-- Microseconds since the first day of year 1, its offset taken off. -/
def instant (t : DateTime) : Int :=
  (t.date.ordinal : Int) * microsPerDay + ((t.hour * 3600 + t.minute * 60 + t.second : Nat) : Int) * microsPerSecond +
    t.micro - (match t.offset with | some o => o.micros | none => 0)

end DateTime

end EntityViews
