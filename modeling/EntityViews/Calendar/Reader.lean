import EntityViews.Calendar.DateTime
import EntityViews.Text.Surrogate

/-!
Reading dates and times: calendar dates and week dates with or without hyphens, any one character before the time, times
with or without colons, a fraction behind a point or comma, and an offset or `Z`. Texts are read as bytes, each of them
held as a character below 256; a zero byte ends a time.
-/

namespace EntityViews

def textBytes (cs : List Char) : List Char :=
  (String.ofList cs).toUTF8.toList.map fun b => Char.ofNat b.toNat

/-- The number that the first `n` characters write, with the rest; `none` if one is no ASCII digit. -/
def readDigits : Nat → List Char → Nat → Option (Nat × List Char)
  | 0, cs, acc => some (acc, cs)
  | n + 1, c :: cs, acc => if c.isDigit then readDigits n cs (10 * acc + (c.toNat - '0'.toNat)) else none
  | _ + 1, [], _ => none

def skipHyphen (expected : Bool) (cs : List Char) : Option (List Char) :=
  match expected, cs with
  | false, cs => some cs
  | true, '-' :: cs => some cs
  | true, _ => none

/-- A date: year, then month and day or a week with an optional weekday, with a hyphen before each part or before none.
What follows a complete date is not looked at. -/
def readDate? (cs : List Char) : Option (Nat × Nat × Nat) := do
  let (year, cs) ← readDigits 4 cs 0
  let hyphens := cs.head? = some '-'
  let cs := if hyphens then cs.drop 1 else cs
  match cs with
  | 'W' :: cs =>
    let (week, cs) ← readDigits 2 cs 0
    if cs.isEmpty then Date.ofWeek? year week 1
    else
      let cs ← skipHyphen hyphens cs
      let (day, _) ← readDigits 1 cs 0
      Date.ofWeek? year week day
  | cs =>
    let (month, cs) ← readDigits 2 cs 0
    let cs ← skipHyphen hyphens cs
    let (day, _) ← readDigits 2 cs 0
    return (year, month, day)

/-- Reads a date whose text has 7, 8 or 10 bytes. -/
def Date.ofText? (s : String) : Except CalendarFault Date :=
  let size := s.utf8ByteSize
  if size = 7 || size = 8 || size = 10 then
    match readDate? (textBytes s.toList) with
    | some (year, month, day) => Date.make? year month day
    | none => .error (.malformed s)
  else .error (.malformed s)

/-- How many characters belong to the date. In a week date a hyphen or digit may belong to either side: a hyphen before
two digits opens the time, and of an odd run of digits the last is the weekday. -/
def dateLength (cs : List Char) : Nat :=
  let digitAt := fun i => (cs[i]?.map Char.isDigit).getD false
  if cs.length = 7 then 7
  else if cs[4]? = some '-' then
    if cs[5]? = some 'W' then
      if cs[8]? = some '-' then (if 10 < cs.length && digitAt 10 then 8 else 10) else 8
    else 10
  else if cs[4]? = some 'W' then
    let run := 7 + ((cs.drop 7).takeWhile Char.isDigit).length
    if run < 9 then run else if run % 2 = 0 then 7 else 8
  else 8

/-- Numbers of a time of day, unchecked, and whether they used up the text. -/
structure ClockReading where
  hour : Nat
  minute : Nat
  second : Nat
  micro : Nat
  complete : Bool

def isFinished (cs : List Char) : Bool := cs.isEmpty || cs.head? = some '\x00'

/-- A fraction of a second: up to six digits count, more digits are passed over. -/
def readFraction (cs : List Char) : Option (Nat × Bool) := do
  let n := min 6 cs.length
  let (value, rest) ← readDigits n cs 0
  return (value * Nat.pow 10 (6 - n), isFinished (rest.dropWhile Char.isDigit))

/-- Pairs of digits for hour, minute and second, then a fraction. The character after the hour says whether colons stand
between them. A single character after a pair ends the reading. -/
def readPairs (colons : Option Bool) : Nat → List Nat → List Char → Option (List Nat × Nat × Bool)
  | 0, seen, cs => (readFraction cs).map fun f => (seen.reverse, f.1, f.2)
  | left + 1, seen, cs => do
    let (value, cs) ← readDigits 2 cs 0
    let seen := value :: seen
    match cs with
    | [] => return (seen.reverse, 0, true)
    | [c] => return (seen.reverse, 0, c = '\x00')
    | c :: rest =>
      let colons := colons.getD (c = ':')
      if colons && c = ':' then readPairs (some colons) left seen rest
      else if c = '.' || c = ',' then (readFraction rest).map fun f => (seen.reverse, f.1, f.2)
      else if !colons then readPairs (some colons) left seen cs
      else none

def readClock? (cs : List Char) : Option ClockReading :=
  (readPairs none 3 [] cs).map fun (pairs, micro, complete) =>
    ⟨pairs.getD 0 0, pairs.getD 1 0, pairs.getD 2 0, micro, complete⟩

/-- A time of day up to a sign or `Z`, and the offset from there on. Text between the time and an offset is passed over. -/
def readTime? (cs : List Char) : Option (ClockReading × Option Int) := do
  let opensOffset := fun c => c = '+' || c = '-' || c = 'Z'
  let clock ← readClock? (cs.takeWhile fun c => !opensOffset c)
  match cs.dropWhile fun c => !opensOffset c with
  | [] => if clock.complete then return (clock, none) else none
  | 'Z' :: rest => if isFinished rest then return (clock, some 0) else none
  | sign :: zone =>
    let z ← readClock? zone
    if !z.complete then none
    let seconds : Int := z.hour * 3600 + z.minute * 60 + z.second
    let micros := if seconds = 0 then 0 else seconds * microsPerSecond + z.micro
    return (clock, some (if sign = '-' then -micros else micros))

def byteCount (c : Char) : Nat :=
  if c.toNat < 0x80 then 1 else if c.toNat / 16 = 0xe then 3 else if c.toNat / 16 = 0xf then 4 else 2

/-- A text with a letter in place of half of a pair that stands where the time may be set off; halves anywhere else are
not read. -/
def withoutHalves? (cs : List Char) : Option (List Char) :=
  let isHalfAt := fun (i : Nat) => (cs[i]?.map Text.isHalf).getD false
  let cs := match [7, 8, 10].find? isHalfAt with
    | some i => cs.set i 'T'
    | none => cs
  if cs.any Text.isHalf then none else some cs

def DateTime.ofText? (s : String) : Except CalendarFault DateTime :=
  if s.length < 7 then .error (.malformed s) else
  let reading : Option ((Nat × Nat × Nat) × ClockReading × Option Int) := do
    let cs := textBytes (← withoutHalves? s.toList)
    let cut := dateLength cs
    let date ← readDate? (cs.take cut)
    match cs.drop cut with
    | [] => return (date, ⟨0, 0, 0, 0, true⟩, none)
    | c :: rest =>
      let time ← readTime? (rest.drop (byteCount c - 1))
      return (date, time)
  match reading with
  | none => .error (.malformed s)
  | some ((year, month, day), clock, zone) => do
    let offset ← match zone with
      | some micros => (Offset.make? micros).map some
      | none => pure none
    let date ← Date.make? year month day
    DateTime.make? date clock.hour clock.minute clock.second clock.micro offset

end EntityViews
