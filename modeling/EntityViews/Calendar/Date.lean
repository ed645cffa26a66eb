import EntityViews.Number.Text

/-!
Days of the Gregorian calendar, years 1 to 9999, and their count from the first one.
-/

namespace EntityViews

/-- Why something is no point in time. -/
inductive CalendarFault
  | malformed (text : String)
  | year (y : Int)
  | month
  | day
  | hour
  | minute
  | second
  | offset (microseconds : Int)
  /-- A count of seconds that is no number. -/
  | notANumber
  /-- A count of seconds that no clock holds. -/
  | beyondClock
  /-- A count of seconds whose year no clock holds. -/
  | beyondCalendar

def isLeap (year : Nat) : Bool := year % 4 = 0 && (year % 100 ≠ 0 || year % 400 = 0)

def daysInMonth (year month : Nat) : Nat :=
  if month = 2 then (if isLeap year then 29 else 28)
  else if month = 4 || month = 6 || month = 9 || month = 11 then 30
  else 31

def namesDay (year month day : Nat) : Bool :=
  1 ≤ year && year ≤ 9999 && 1 ≤ month && month ≤ 12 && 1 ≤ day && day ≤ daysInMonth year month

structure Date where
  year : Nat
  month : Nat
  day : Nat
  isDay : namesDay year month day = true
deriving DecidableEq

namespace Date

def make? (year month day : Nat) : Except CalendarFault Date :=
  if h : namesDay year month day = true then .ok ⟨year, month, day, h⟩
  else if year = 0 || 9999 < year then .error (.year year)
  else if month = 0 || 12 < month then .error .month
  else .error .day

def daysBeforeYear (year : Nat) : Nat :=
  let y := year - 1
  y * 365 + y / 4 - y / 100 + y / 400

def daysBeforeMonth (year month : Nat) : Nat :=
  (List.range (month - 1)).foldl (fun days m => days + daysInMonth year (m + 1)) 0

/-- The number of the day, counted from 1 for the first day of year 1. -/
def ordinal (d : Date) : Nat := daysBeforeYear d.year + daysBeforeMonth d.year d.month + d.day

/-- The month and day of the `n`-th day of a year, counted from 0 in month `month`. -/
def monthAndDay (year : Nat) : Nat → Nat → Nat → Nat × Nat
  | 0, month, n => (month, n + 1)
  | fuel + 1, month, n =>
    let len := daysInMonth year month
    if n < len then (month, n + 1) else monthAndDay year fuel (month + 1) (n - len)

/-- Year, month and day of the `n`-th day; the year may lie beyond 9999. -/
def ofOrdinal (n : Nat) : Nat × Nat × Nat :=
  let n := n - 1
  let n400 := n / 146097
  let n := n % 146097
  let n100 := n / 36524
  let n := n % 36524
  let n4 := n / 1461
  let n := n % 1461
  let n1 := n / 365
  let n := n % 365
  let year := n400 * 400 + n100 * 100 + n4 * 4 + n1 + 1
  if n1 = 4 || n100 = 4 then (year - 1, 12, 31)
  else
    let md := monthAndDay year 12 1 n
    (year, md.1, md.2)

def weekday (year month day : Nat) : Nat :=
  (daysBeforeYear year + daysBeforeMonth year month + day + 6) % 7

/-- The number of the Monday that opens the first week of a year: the week that holds its first Thursday. -/
def firstMonday (year : Nat) : Int :=
  let first := daysBeforeYear year + 1
  let wd := weekday year 1 1
  let monday : Int := (first : Int) - wd
  if 3 < wd then monday + 7 else monday

/-- Weeks of a year: 53 if it opens on a Thursday, or on a Wednesday in a leap year. The year before the first one has
52. -/
def weeksIn (year : Nat) : Nat :=
  let wd := weekday year 1 1
  if year != 0 && (wd = 3 || (wd = 2 && isLeap year)) then 53 else 52

/-- Year, month and day of a day given by week and weekday, `none` if there is no such week or weekday. In the year before
the first one the days have no month. -/
def ofWeek? (year week day : Nat) : Option (Nat × Nat × Nat) :=
  if week = 0 || weeksIn year < week || day = 0 || 7 < day then none
  else if year = 0 then some (1, 0, 0)
  else some (ofOrdinal (firstMonday year + (week - 1 : Nat) * 7 + (day - 1 : Nat)).toNat)

def text (d : Date) : String :=
  padLeft 4 '0' (decimalText d.year) ++ "-" ++ padLeft 2 '0' (decimalText d.month) ++ "-" ++
    padLeft 2 '0' (decimalText d.day)

end Date

end EntityViews
