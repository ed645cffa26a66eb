import EntityViews.Number.Decimal
import EntityViews.Text.Split

/-!
Literals: numbers, quoted texts, a few constants, and tuples, sets and maps of literals. Two numbers make a literal if a
real one is followed by a sign and an imaginary one. Main definition: `isLiteral` tells literals from other texts.
-/

namespace EntityViews.Literal

/-- What decides where a literal may stand. -/
inductive Kind
  /-- A number; two of them add up only if the first is real and, if whole, no larger than binary numbers are. -/
  | number (imaginary summable signed : Bool)
  /-- A value that cannot change, and so may be a key. -/
  | fixed
  | changing
  /-- The word that makes a set when it is followed by a pair of brackets. -/
  | setWord
deriving DecidableEq

def Kind.isKey : Kind → Bool
  | number _ _ _ | fixed => true
  | _ => false

inductive Token
  | number (imaginary summable : Bool)
  | text (bytes : Bool)
  | constant
  | setWord
  | mark (c : Char)
  | lineEnd
deriving DecidableEq

/-- Every line break as a single character. -/
def unifyLines : List Char → List Char
  | '\r' :: '\n' :: rest => '\n' :: unifyLines rest
  | '\r' :: rest => '\n' :: unifyLines rest
  | c :: rest => c :: unifyLines rest
  | [] => []

def isBlank (c : Char) : Bool := c = ' ' || c = '\t' || c = '\x0c'

def isWordChar (c : Char) : Bool := c.isAlphanum || c = '_' || 0x80 ≤ c.toNat

/-! Numbers -/

/-- Digits of a class, with single underscores between them. -/
def digitRun (isDigit : Char → Bool) : List Char → Option (List Char × List Char)
  | c :: '_' :: rest =>
    if isDigit c then (digitRun isDigit rest).map fun r => (c :: r.1, r.2) else none
  | [c] => if isDigit c then some ([c], []) else none
  | c :: d :: rest =>
    if !isDigit c then none
    else if isDigit d then (digitRun isDigit (d :: rest)).map fun r => (c :: r.1, r.2)
    else some ([c], d :: rest)
  | [] => none

def base? (c : Char) : Option Nat :=
  match c.toLower with
  | 'x' => some 16
  | 'o' => some 8
  | 'b' => some 2
  | _ => none

def isDigitOf (base : Nat) (c : Char) : Bool :=
  match base with
  | 16 => c.isDigit || ('a' ≤ c.toLower && c.toLower ≤ 'f')
  | _ => '0' ≤ c && c.toNat < '0'.toNat + base

def valueOf (base : Nat) (digits : List Char) : Nat :=
  digits.foldl (fun n c => base * n + (if c.isDigit then c.toNat - '0'.toNat else c.toLower.toNat - 'a'.toNat + 10)) 0

/-- Whether a whole number is no larger than binary numbers are. -/
def isSummable (n : Nat) : Bool :=
  match Binary64.ofInt n with
  | .infinite _ => false
  | _ => true

/-- What is left behind a fraction and an exponent, and whether there are any. -/
def readTail (cs : List Char) : Option (Bool × List Char) := do
  let (isReal, cs) ← match cs with
    | '.' :: rest =>
      if (rest.head?.map Char.isDigit).getD false then (digitRun Char.isDigit rest).map fun r => (true, r.2)
      else some (true, rest)
    | _ => some (false, cs)
  match cs with
  | e :: rest =>
    if e.toLower = 'e' then
      let rest := match rest with
        | '+' :: more | '-' :: more => more
        | _ => rest
      (digitRun Char.isDigit rest).map fun r => (true, r.2)
    else some (isReal, cs)
  | [] => some (isReal, cs)

/-- A number in decimal digits. One that opens with a zero is zero, or it has a fraction, an exponent or is imaginary. -/
def readDecimal (cs : List Char) : Option (Token × List Char) := do
  let (whole, rest) ← if cs.head? = some '.' then some ([], cs) else digitRun Char.isDigit cs
  let (isReal, rest) ← readTail rest
  match rest with
  | j :: more => if j.toLower = 'j' then return (.number true false, more)
  | [] => pure ()
  if isReal then return (.number false true, rest)
  let n := valueOf 10 whole
  if n = 0 then return (.number false true, rest)
  if whole.head? = some '0' || digitLimit < whole.length then none
  return (.number false (isSummable n), rest)

/-- A number, which no letter follows. -/
def readNumber (cs : List Char) : Option (Token × List Char) := do
  let (token, rest) ← match cs with
    | '0' :: c :: more =>
      match base? c with
      | some base =>
        let more := if more.head? = some '_' then more.drop 1 else more
        (digitRun (isDigitOf base) more).map fun r => (.number false (isSummable (valueOf base r.1)), r.2)
      | none => readDecimal cs
    | _ => readDecimal cs
  if (rest.head?.map isWordChar).getD false then none else some (token, rest)

/-! Quoted texts -/

/-- The inside of a quoted text and what follows its end; a backslash takes the next character along. Only a text in three
quotation marks goes on over a line break. -/
def closing (ending : List Char) : List Char → Option (List Char × List Char)
  | [] => none
  | ['\\'] => none
  | '\\' :: c :: rest =>
    if ending.isPrefixOf ('\\' :: c :: rest) then none
    else (closing ending rest).map fun r => ('\\' :: c :: r.1, r.2)
  | c :: rest =>
    if ending.isPrefixOf (c :: rest) then some ([], (c :: rest).drop ending.length)
    else if c = '\n' && ending.length = 1 then none
    else (closing ending rest).map fun r => (c :: r.1, r.2)

/-- The number that hexadecimal digits write, if there are exactly `count` of them in front. -/
def hexNumber? (count : Nat) (cs : List Char) : Option Nat :=
  let digits := cs.take count
  if digits.length = count && digits.all (isDigitOf 16) then some (valueOf 16 digits) else none

/-- Whether a named character is well formed; its name is taken on trust. -/
def isNamed (cs : List Char) : Bool :=
  match cs with
  | '\x7b' :: rest => let name := rest.takeWhile (· != '\x7d'); !name.isEmpty && name.length < rest.length
  | _ => false

/-- Whether the escapes inside a quoted text are complete. -/
def escapesHold (bytes : Bool) : List Char → Bool
  | '\\' :: c :: rest =>
    (if c = 'x' then (hexNumber? 2 rest).isSome
    else if bytes then true
    else if c = 'u' then (hexNumber? 4 rest).isSome
    else if c = 'U' then (hexNumber? 8 rest).any (· < 0x110000)
    else if c = 'N' then isNamed rest
    else true) && escapesHold bytes rest
  | _ :: rest => escapesHold bytes rest
  | [] => true

/-- A quoted text from its quotation mark on, behind letters that say how it is meant. -/
def readQuoted (letters : List Char) (cs : List Char) : Option (Token × List Char) := do
  let letters := letters.map Char.toLower
  if !([[], ['r'], ['u'], ['b'], ['b', 'r'], ['r', 'b']].contains letters) then none
  let bytes := letters.contains 'b'
  let mark := cs.take 1
  let ending := if (mark ++ mark ++ mark).isPrefixOf cs then mark ++ mark ++ mark else mark
  let (inside, rest) ← closing ending (cs.drop ending.length)
  if bytes && inside.any (0x80 ≤ ·.toNat) then none
  if letters.contains 'r' || escapesHold bytes inside then some (.text bytes, rest) else none

/-! Tokens -/

def depthLimit : Nat := 200

/-- How many brackets are open after one more mark. -/
def depthAfter? (depth : Nat) (c : Char) : Option Nat :=
  if c = '(' || c = '\x7b' then (if depth < depthLimit then some (depth + 1) else none)
  else if c = ')' || c = '\x7d' then (if depth = 0 then none else some (depth - 1))
  else some depth

/-- Whether what a line holds stands behind blanks, where `behind` says so of what went before: nothing may be indented.
-/
def isIndented (behind : Bool) : List Char → Bool
  | [] => false
  | '\\' :: '\n' :: rest => isIndented behind rest
  | c :: rest => if isBlank c then isIndented (c != '\x0c') rest else c != '\n' && c != '#' && behind

def readToken (cs : List Char) : Option (Token × List Char) :=
  let word := cs.takeWhile isWordChar
  let isQuote := fun (c : Char) => c = '\'' || c = '"'
  match cs with
  | '.' :: '.' :: '.' :: rest => some (.constant, rest)
  | '.' :: d :: _ => if d.isDigit then readNumber cs else none
  | c :: _ =>
    if c.isDigit then readNumber cs
    else if ((cs.drop word.length).head?.map isQuote).getD false then readQuoted word (cs.drop word.length)
    else if ["True", "False", "None"].contains (String.ofList word) then some (.constant, cs.drop word.length)
    else if word = "set".toList then some (.setWord, cs.drop word.length)
    else none
  | [] => none

/-- The tokens of a text within so many open brackets; inside brackets line breaks are blanks. Every step uses up some of
`fuel`. -/
def tokens? : Nat → Nat → List Char → Option (List Token)
  | 0, _, _ => none
  | _ + 1, _, [] => some []
  | fuel + 1, depth, c :: rest =>
    if isBlank c then tokens? fuel depth rest
    else if c = '#' then tokens? fuel depth (rest.dropWhile (· != '\n'))
    else if c = '\\' then
      match rest with
      | '\n' :: d :: more => tokens? fuel depth (d :: more)
      | _ => none
    else if c = '\n' then
      if 0 < depth then tokens? fuel depth rest
      else if isIndented false rest then none
      else (tokens? fuel depth rest).map (.lineEnd :: ·)
    else if "()\x7b\x7d,:+-".toList.contains c then do
      let depth ← depthAfter? depth c
      let others ← tokens? fuel depth rest
      return .mark c :: others
    else do
      let (token, rest) ← readToken (c :: rest)
      let others ← tokens? fuel depth rest
      return token :: others

/-! The grammar -/

def tupleKind (items : List Kind) : Kind := if items.all Kind.isKey then .fixed else .changing

/-- Further texts behind a text; texts and bytes do not mix. -/
def dropTexts (bytes : Bool) : List Token → Option (List Token)
  | .text b :: rest => if b = bytes then dropTexts bytes rest else none
  | rest => some rest

def signedKind? : Kind → Option Kind
  | .number imaginary summable false => some (.number imaginary summable true)
  | _ => none

def sumKind? : Kind → Kind → Option Kind
  | .number false true _, .number true _ false => some .fixed
  | _, _ => none

def isSign (c : Char) : Bool := c = '+' || c = '-'

mutual

/-- An operand; every step uses up some of the fuel. -/
def operand? : Nat → List Token → Option (Kind × List Token)
  | 0, _ => none
  | _ + 1, .number imaginary summable :: rest => some (.number imaginary summable false, rest)
  | _ + 1, .text bytes :: rest => (dropTexts bytes rest).map fun rest => (.fixed, rest)
  | _ + 1, .constant :: rest => some (.fixed, rest)
  | _ + 1, .setWord :: rest => some (.setWord, rest)
  | _ + 1, .mark '(' :: .mark ')' :: rest => some (.fixed, rest)
  | fuel + 1, .mark '(' :: rest => do
    let (first, rest) ← sum? fuel rest
    match rest with
    | .mark ')' :: rest => return (first, rest)
    | .mark ',' :: rest =>
      let (others, rest) ← items? fuel ')' rest
      if first = .setWord then none else return (tupleKind (first :: others), rest)
    | _ => none
  | _ + 1, .mark '\x7b' :: .mark '\x7d' :: rest => some (.changing, rest)
  | fuel + 1, .mark '\x7b' :: rest => do
    let (first, afterFirst) ← sum? fuel rest
    if !first.isKey then none
    match afterFirst with
    | .mark ':' :: _ => (entries? fuel rest).map fun rest => (.changing, rest)
    | .mark '\x7d' :: rest => return (.changing, rest)
    | .mark ',' :: rest =>
      let (others, rest) ← items? fuel '\x7d' rest
      if others.all Kind.isKey then return (.changing, rest) else none
    | _ => none
  | _ + 1, _ => none

/-- An operand that may be called: only the word for sets is, with nothing in the brackets. -/
def called? : Nat → List Token → Option (Kind × List Token)
  | 0, _ => none
  | fuel + 1, ts => do
    let (kind, rest) ← operand? fuel ts
    match kind, rest with
    | .setWord, .mark '(' :: .mark ')' :: rest => return (.changing, rest)
    | _, _ => return (kind, rest)

/-- An operand with an optional sign in front. -/
def factor? : Nat → List Token → Option (Kind × List Token)
  | 0, _ => none
  | fuel + 1, .mark c :: rest =>
    if isSign c then do
      let (kind, rest) ← called? fuel rest
      let kind ← signedKind? kind
      return (kind, rest)
    else called? fuel (.mark c :: rest)
  | fuel + 1, ts => called? fuel ts

/-- One number, two of them with a sign between, or another literal. -/
def sum? : Nat → List Token → Option (Kind × List Token)
  | 0, _ => none
  | fuel + 1, ts => do
    let (first, rest) ← factor? fuel ts
    match rest with
    | .mark c :: more =>
      if isSign c then do
        let (second, rest) ← factor? fuel more
        let kind ← sumKind? first second
        return (kind, rest)
      else return (first, rest)
    | _ => return (first, rest)

/-- Items up to a closing mark; a comma may stand before it. -/
def items? : Nat → Char → List Token → Option (List Kind × List Token)
  | 0, _, _ => none
  | fuel + 1, close, ts =>
    if ts.head? = some (.mark close) then some ([], ts.drop 1)
    else do
      let (item, rest) ← sum? fuel ts
      if item = .setWord then none
      match rest with
      | .mark c :: rest =>
        if c = close then return ([item], rest)
        else if c = ',' then
          let (others, rest) ← items? fuel close rest
          return (item :: others, rest)
        else none
      | _ => none

/-- Entries of a map up to its closing brace; a comma may stand before it. -/
def entries? : Nat → List Token → Option (List Token)
  | 0, _ => none
  | _ + 1, .mark '\x7d' :: rest => some rest
  | fuel + 1, ts => do
    let (key, rest) ← sum? fuel ts
    if !key.isKey then none
    match rest with
    | .mark ':' :: rest =>
      let (item, rest) ← sum? fuel rest
      if item = .setWord then none
      match rest with
      | .mark '\x7d' :: rest => some rest
      | .mark ',' :: rest => entries? fuel rest
      | _ => none
    | _ => none

end

/-- Whether some tokens are one literal, or several with commas between. The tokens are followed by a closing bracket,
so that they read like a tuple. -/
def isWhole (ts : List Token) : Bool :=
  let ts := (ts.dropWhile (· = .lineEnd)).reverse.dropWhile (· = .lineEnd) |>.reverse
  let fuel := 6 * ts.length + 6
  match sum? fuel ts with
  | some (kind, []) => kind != .setWord
  | some (kind, .mark ',' :: rest) =>
    kind != .setWord && ((items? fuel ')' (rest ++ [.mark ')'])).any fun r => r.2.isEmpty)
  | _ => false

end Literal

def isLiteral (cs : List Char) : Bool :=
  let cs := Literal.unifyLines (cs.dropWhile fun c => c = ' ' || c = '\t')
  !cs.contains '\x00' && !Literal.isIndented false cs &&
    ((Literal.tokens? (cs.length + 1) 0 cs).map Literal.isWhole).getD false

end EntityViews
