import EntityViews.Calendar.DateTime

/-!
Points in time by the seconds since the start of 1970.
-/

namespace EntityViews

namespace DateTime

def epochOrdinal : Int := 719163

def cycleDays : Int := 146097

/-- Year, month and day of any day of the calendar, continued before its first year. -/
def civil (ordinal : Int) : Int × Nat × Nat :=
  let (year, month, day) := Date.ofOrdinal ((ordinal - 1).fmod cycleDays + 1).toNat
  (year + 400 * (ordinal - 1).fdiv cycleDays, month, day)

/-- Whether the year counted from 1900 fits into 32 bits. -/
def isOnClock (year : Int) : Bool := -(Nat.pow 2 31 : Int) ≤ year - 1900 && year - 1900 < Nat.pow 2 31

def ofEpochMicros (micros : Int) : Except CalendarFault DateTime := do
  let (year, month, day) := civil (epochOrdinal + micros.fdiv microsPerDay)
  if !isOnClock year then throw .beyondCalendar
  if year < 1 then throw (.year year)
  let date ← Date.make? year.toNat month day
  let rest := (micros.fmod microsPerDay).toNat
  let seconds := rest / 1000000
  make? date (seconds / 3600) (seconds / 60 % 60) (seconds % 60) (rest % 1000000) (some Offset.utc)

/-- The fraction of a second `n / d` in microseconds: the product is a binary number again before it is rounded. -/
def fractionMicros (n d : Nat) : Nat :=
  match (Binary64.ofRatio false (n * 1000000) d).ratio? with
  | some (p, q) => roundQuotient p.toNat q
  | none => 0

def ofEpochSeconds (seconds : Binary64) : Except CalendarFault DateTime :=
  match seconds, seconds.ratio? with
  | .nan _, _ => .error .notANumber
  | _, none => .error .beyondClock
  | _, some (n, d) =>
    let whole := n.tdiv d
    if whole < -(Nat.pow 2 63 : Int) || Nat.pow 2 63 ≤ whole then .error .beyondClock
    else
      let micros : Int := fractionMicros (n.natAbs % d) d
      ofEpochMicros (whole * microsPerSecond + if n < 0 then -micros else micros)

end DateTime

end EntityViews
