import EntityViews.Value.Key
import EntityViews.Text.Split
import EntityViews.Text.Surrogate

/-!
Reading JSON texts. A fault says what was expected and where; the place is kept as the number of characters from it to
the end until the whole text is at hand.
-/

namespace EntityViews.Json

inductive Problem
  | byteOrderMark
  | value
  | name
  | colon
  | comma
  | extra
  | unterminated
  | control
  | escape
  | unitEscape

def Problem.message : Problem → String
  | byteOrderMark => "Unexpected UTF-8 BOM (decode using utf-8-sig)"
  | value => "Expecting value"
  | name => "Expecting property name enclosed in double quotes"
  | colon => "Expecting ':' delimiter"
  | comma => "Expecting ',' delimiter"
  | extra => "Extra data"
  | unterminated => "Unterminated string starting at"
  | control => "Invalid control character at"
  | escape => "Invalid \\escape"
  | unitEscape => "Invalid \\uXXXX escape"

/-- A problem and where it is: line and column count from 1, the offset from 0. -/
structure SyntaxFault where
  problem : Problem
  line : Nat
  column : Nat
  offset : Nat

def SyntaxFault.message (f : SyntaxFault) : String :=
  f.problem.message ++ ": line " ++ decimalText f.line ++ " column " ++ decimalText f.column ++
    " (char " ++ decimalText f.offset ++ ")"

def SyntaxFault.at (text : List Char) (problem : Problem) (left : Nat) : SyntaxFault :=
  let before := text.take (text.length - left)
  ⟨problem, before.count '\n' + 1, (before.reverse.takeWhile (· != '\n')).length + 1, before.length⟩

/-- Why a text is not read: it is no JSON, it has a number of too many digits, or its values lie too deep in each
other. -/
inductive ReadFault
  | malformed (fault : SyntaxFault)
  | tooLong (digits : Nat)
  | tooDeep

/-- Where a reading ends early: at a problem with so many characters left, at a number of too many digits, or at a
bracket below too many others. -/
inductive Stop
  | problem (problem : Problem) (left : Nat)
  | tooLong (digits : Nat)
  | tooDeep

/-- How many brackets may be open at once. -/
def deepest : Nat := 985

abbrev Reading (α : Type) : Type := Except Stop α

def stopAt {α : Type} (problem : Problem) (left : Nat) : Reading α := .error (.problem problem left)

def isSpace (c : Char) : Bool := c = ' ' || c = '\t' || c = '\n' || c = '\r'

def skipSpace (cs : List Char) : List Char := cs.dropWhile isSpace

def hexDigit? (c : Char) : Option Nat :=
  if '0' ≤ c && c ≤ '9' then some (c.toNat - '0'.toNat)
  else if 'a' ≤ c && c ≤ 'f' then some (c.toNat - 'a'.toNat + 10)
  else if 'A' ≤ c && c ≤ 'F' then some (c.toNat - 'A'.toNat + 10)
  else none

def readUnit? : List Char → Option Nat
  | a :: b :: c :: d :: _ => do
    let a ← hexDigit? a
    let b ← hexDigit? b
    let c ← hexDigit? c
    let d ← hexDigit? d
    return ((a * 16 + b) * 16 + c) * 16 + d
  | _ => none

def letterEscape? : Char → Option Char
  | '"' => some '"'
  | '\\' => some '\\'
  | '/' => some '/'
  | 'b' => some '\x08'
  | 'f' => some '\x0c'
  | 'n' => some '\n'
  | 'r' => some '\r'
  | 't' => some '\t'
  | _ => none

/-- A numeric escape from its letter on: the character and what follows. Four digits are read, and four more after a
second escape if the two make up a pair. -/
def readUnitEscape (cs : List Char) : Reading (Char × List Char) :=
  let digits := cs.drop 1
  if digits.length ≤ 4 then stopAt .unitEscape cs.length else
  match readUnit? digits with
  | none => stopAt .unitEscape cs.length
  | some unit =>
    let rest := digits.drop 4
    match rest with
    | '\\' :: 'u' :: more =>
      if 0xd800 ≤ unit && unit < 0xdc00 && 6 < rest.length then
        match readUnit? more with
        | none => stopAt .unitEscape (more.length + 1)
        | some low =>
          if 0xdc00 ≤ low && low < 0xe000 then
            .ok (Char.ofNat (0x10000 + (unit - 0xd800) * 0x400 + (low - 0xdc00)), more.drop 4)
          else .ok (Text.charOf unit, rest)
      else .ok (Text.charOf unit, rest)
    | _ => .ok (Text.charOf unit, rest)

/-- A string after its opening quote; `start` is what is left at that quote. -/
def readString (start : List Char) : Nat → List Char → List Char → Reading (String × List Char)
  | 0, _, _ => stopAt .unterminated start.length
  | _ + 1, _, [] => stopAt .unterminated start.length
  | fuel + 1, seen, c :: rest =>
    if c = '"' then .ok (String.ofList seen.reverse, rest)
    else if c = '\\' then
      match rest with
      | [] => stopAt .unterminated start.length
      | 'u' :: _ => do
        let (c, rest) ← readUnitEscape rest
        readString start fuel (c :: seen) rest
      | e :: more =>
        match letterEscape? e with
        | some c => readString start fuel (c :: seen) more
        | none => stopAt .escape (rest.length + 1)
    else if c.toNat < 0x20 then stopAt .control (rest.length + 1)
    else readString start fuel (c :: seen) rest

/-- The fraction of a number: a point and at least one digit, else nothing. -/
def readFraction (cs : List Char) : List Char × List Char :=
  match cs with
  | '.' :: d :: rest =>
    if d.isDigit then ('.' :: d :: rest.takeWhile Char.isDigit, rest.dropWhile Char.isDigit) else ([], cs)
  | _ => ([], cs)

/-- The exponent of a number: a letter, perhaps a sign, and at least one digit, else nothing. -/
def readExponent (cs : List Char) : List Char × List Char :=
  match cs with
  | e :: rest =>
    if e = 'e' || e = 'E' then
      let (sign, rest) := match rest with
        | '+' :: more => (['+'], more)
        | '-' :: more => (['-'], more)
        | _ => ([], rest)
      let digits := rest.takeWhile Char.isDigit
      if digits.isEmpty then ([], cs) else (e :: sign ++ digits, rest.dropWhile Char.isDigit)
    else ([], cs)
  | _ => ([], cs)

/-- The whole part of a number: one zero, or digits that open with another one. -/
def readWhole? (cs : List Char) : Option (List Char × List Char) :=
  match cs with
  | '0' :: rest => some (['0'], rest)
  | c :: _ => if c.isDigit then some (cs.takeWhile Char.isDigit, cs.dropWhile Char.isDigit) else none
  | [] => none

/-- A number: whole if it has neither fraction nor exponent. -/
def readNumber (cs : List Char) : Reading (Value × List Char) :=
  let (negative, body) := match cs with
    | '-' :: rest => (true, rest)
    | _ => (false, cs)
  match readWhole? body with
  | none => stopAt .value cs.length
  | some (whole, rest) =>
    let (fraction, rest) := readFraction rest
    let (exponent, rest) := readExponent rest
    let sign := if negative then ['-'] else []
    if fraction.isEmpty && exponent.isEmpty then
      match wholeNumber (String.ofList (sign ++ whole)) with
      | .ok n => .ok (.int n, rest)
      | .error (.tooLong digits) => .error (.tooLong digits)
      | .error .malformed => stopAt .value cs.length
    else
      .ok (.float ((Binary64.ofText? (String.ofList (sign ++ whole ++ fraction ++ exponent))).getD (.nan none)), rest)

/-- Words that are values. All that are not a number have one origin. -/
def words : List (String × Value) :=
  [("null", .null), ("true", .bool true), ("false", .bool false), ("NaN", .float (.nan (some 0))),
    ("Infinity", .float (.infinite false)), ("-Infinity", .float (.infinite true))]

/-- The value of a word at the beginning. -/
def readWord? (cs : List Char) : Option (Value × List Char) :=
  words.findSome? fun w => if w.1.toList.isPrefixOf cs then some (w.2, cs.drop w.1.length) else none

mutual

/-- A value; `room` is how many brackets may still be opened. -/
def readValue (room : Nat) : Nat → List Char → Reading (Value × List Char)
  | 0, cs => stopAt .value cs.length
  | fuel + 1, cs =>
    match cs with
    | '"' :: rest => do
      let (s, rest) ← readString cs (fuel + 1) [] rest
      return (.text s, rest)
    | '[' :: rest =>
      if room = 0 then .error .tooDeep else
      match skipSpace rest with
      | ']' :: rest => .ok (.list [], rest)
      | rest => do
        let (items, rest) ← readItems (room - 1) fuel rest
        return (.list items, rest)
    | '\x7b' :: rest =>
      if room = 0 then .error .tooDeep else
      match skipSpace rest with
      | '\x7d' :: rest => .ok (.map [], rest)
      | rest => do
        let (entries, rest) ← readEntries (room - 1) fuel rest
        return (.map (collect entries), rest)
    | _ =>
      match readWord? cs with
      | some found => .ok found
      | none => readNumber cs

def readItems (room : Nat) : Nat → List Char → Reading (List Value × List Char)
  | 0, cs => stopAt .value cs.length
  | fuel + 1, cs => do
    let (item, rest) ← readValue room fuel cs
    match skipSpace rest with
    | ']' :: rest => return ([item], rest)
    | ',' :: rest =>
      let (items, rest) ← readItems room fuel (skipSpace rest)
      return (item :: items, rest)
    | rest => stopAt .comma rest.length

def readEntries (room : Nat) : Nat → List Char → Reading (List (Value × Value) × List Char)
  | 0, cs => stopAt .value cs.length
  | fuel + 1, cs =>
    match cs with
    | '"' :: rest => do
      let (name, rest) ← readString cs (fuel + 1) [] rest
      match skipSpace rest with
      | ':' :: rest =>
        let (value, rest) ← readValue room fuel (skipSpace rest)
        match skipSpace rest with
        | '\x7d' :: rest => return ([(.text name, value)], rest)
        | ',' :: rest =>
          let (entries, rest) ← readEntries room fuel (skipSpace rest)
          return ((.text name, value) :: entries, rest)
        | rest => stopAt .comma rest.length
      | rest => stopAt .colon rest.length
    | _ => stopAt .name cs.length

end

def readAll (cs : List Char) : Reading Value := do
  if cs.head? = some '\ufeff' then stopAt .byteOrderMark cs.length else
  let (value, rest) ← readValue deepest (2 * cs.length + 2) (skipSpace cs)
  let rest := skipSpace rest
  if rest.isEmpty then return value else stopAt .extra rest.length

def read (s : String) : Except ReadFault Value :=
  (readAll s.toList).mapError fun
    | .problem problem left => .malformed (.at s.toList problem left)
    | .tooLong digits => .tooLong digits
    | .tooDeep => .tooDeep

end EntityViews.Json
