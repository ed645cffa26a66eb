import EntityViews.Schema.Template.Reached
import EntityViews.Text.Split

/-!
Templates of SQL expressions: `{alias}` stands for the alias of a row, doubled braces for single ones. A placeholder may
pick a character or a member, ask for quotes, and lay its text out in a width.
-/

namespace EntityViews

inductive TemplateFault
  | openBrace
  | closeBrace
  | unclosed
  | braceInName
  | conversionEnd
  | conversionColon
  | conversion (c : Char)
  | unclosedLayout
  | nesting
  | emptyAttribute
  | unclosedIndex
  | afterIndex
  | layout (text : String)
  | precision
  | sign (space : Bool)
  | alternate
  | zeroSign
  | alignment
  | grouping (c type : Char)
  | bothGroupings
  | code (c : Char)
  | tooManyDigits
  | position
  | name
  | index
  | key
  | mistyped
  | member

/-- The wording of faults that are about the text of the template; the others have none. -/
def TemplateFault.message? : TemplateFault → Option String
  | openBrace => some "Single '\x7b' encountered in format string"
  | closeBrace => some "Single '\x7d' encountered in format string"
  | unclosed => some "expected '\x7d' before end of string"
  | braceInName => some "unexpected '\x7b' in field name"
  | conversionEnd => some "end of string while looking for conversion specifier"
  | conversionColon => some "expected ':' after conversion specifier"
  | conversion c =>
    some ("Unknown conversion specifier " ++
      (if 32 < c.toNat && c.toNat < 127 then c.toString else "\\x" ++ Text.hex 1 c.toNat))
  | unclosedLayout => some "unmatched '\x7b' in format spec"
  | nesting => some "Max string recursion exceeded"
  | emptyAttribute => some "Empty attribute in format string"
  | unclosedIndex => some "Missing ']' in format string"
  | afterIndex => some "Only '.' or '[' may follow ']' in format field specifier"
  | layout text => some ("Invalid format specifier '" ++ text ++ "' for object of type 'str'")
  | precision => some "Format specifier missing precision"
  | sign space => some ((if space then "Space" else "Sign") ++ " not allowed in string format specifier")
  | alternate => some "Alternate form (#) not allowed in string format specifier"
  | zeroSign => some "Negative zero coercion (z) not allowed in string format specifier"
  | alignment => some "'=' alignment not allowed in string format specifier"
  | grouping c type =>
    some ("Cannot specify '" ++ c.toString ++ "' with '" ++
      (if 32 < type.toNat && type.toNat < 128 then type.toString else "\\x" ++ Text.hex 1 type.toNat) ++ "'.")
  | bothGroupings => some "Cannot specify both ',' and '_'."
  | code c =>
    some ("Unknown format code '" ++
      (if 32 < c.toNat && c.toNat < 128 then c.toString else "\\x" ++ Text.hex 1 c.toNat) ++
      "' for object of type 'str'")
  | tooManyDigits => some "Too many decimal digits in format string"
  | position | name | index | key | mistyped | member => none

namespace Template

inductive Access
  | member (name : String)
  | item (index : String)

/-- A placeholder: what it names, the steps from there, how its text is converted, and the layout. -/
structure Field where
  name : String
  conversion : Option Char
  layout : String

inductive Piece
  | literal (s : String)
  | field (f : Field)

/-- The name of a placeholder: up to a colon, an exclamation mark or the closing brace, none of which counts between
square brackets. Yields the name, the character that ended it, and the rest. -/
def readName (inIndex : Bool) (seen : List Char) : List Char → Except TemplateFault (List Char × Char × List Char)
  | [] => .error .unclosed
  | c :: rest =>
    if inIndex then readName (c != ']') (c :: seen) rest
    else if c = '{' then .error .braceInName
    else if c = '[' then readName true (c :: seen) rest
    else if c = '}' || c = ':' || c = '!' then .ok (seen.reverse, c, rest)
    else readName false (c :: seen) rest

/-- A layout: up to the brace that closes the placeholder. -/
def readLayout (depth : Nat) (seen : List Char) : List Char → Except TemplateFault (List Char × List Char)
  | [] => .error .unclosedLayout
  | '{' :: rest => readLayout (depth + 1) ('{' :: seen) rest
  | '}' :: rest => if depth = 0 then .ok (seen.reverse, rest) else readLayout (depth - 1) ('}' :: seen) rest
  | c :: rest => readLayout depth (c :: seen) rest

def readField (cs : List Char) : Except TemplateFault (Field × List Char) := do
  let (name, stop, rest) ← readName false [] cs
  let name := String.ofList name
  if stop = '}' then return (⟨name, none, ""⟩, rest)
  else if stop = ':' then
    let (layout, rest) ← readLayout 0 [] rest
    return (⟨name, none, String.ofList layout⟩, rest)
  else
    match rest with
    | [] => .error .conversionEnd
    | c :: '}' :: rest => return (⟨name, some c, ""⟩, rest)
    | c :: ':' :: rest =>
      let (layout, rest) ← readLayout 0 [] rest
      return (⟨name, some c, String.ofList layout⟩, rest)
    | [_] => .error .unclosedLayout
    | _ :: _ :: _ => .error .conversionColon

def pieces : Nat → List Char → List (Except TemplateFault Piece)
  | 0, _ => []
  | _ + 1, [] => []
  | fuel + 1, cs =>
    let plain := cs.takeWhile fun c => c != '{' && c != '}'
    let literal := .ok (.literal (String.ofList plain))
    match cs.dropWhile fun c => c != '{' && c != '}' with
    | [] => [literal]
    | '{' :: '{' :: rest => literal :: .ok (.literal "\x7b") :: pieces fuel rest
    | '}' :: '}' :: rest => literal :: .ok (.literal "\x7d") :: pieces fuel rest
    | ['{'] => [literal, .error .openBrace]
    | '{' :: rest =>
      match readField rest with
      | .ok (field, rest) => literal :: .ok (.field field) :: pieces fuel rest
      | .error e => [literal, .error e]
    | _ => [literal, .error .closeBrace]

/-- The steps behind the first name of a placeholder. -/
def readAccesses : Nat → List Char → List (Except TemplateFault Access)
  | 0, _ => []
  | _ + 1, [] => []
  | fuel + 1, '.' :: rest =>
    let name := rest.takeWhile fun c => c != '.' && c != '['
    if name.isEmpty then [.error .emptyAttribute]
    else .ok (.member (String.ofList name)) :: readAccesses fuel (rest.dropWhile fun c => c != '.' && c != '[')
  | fuel + 1, '[' :: rest =>
    let index := rest.takeWhile (· != ']')
    match rest.dropWhile (· != ']') with
    | [] => [.error .unclosedIndex]
    | _ :: rest =>
      if index.isEmpty then [.error .emptyAttribute]
      else .ok (.item (String.ofList index)) :: readAccesses fuel rest
  | _ + 1, _ => [.error .afterIndex]

/-- The largest number in a template. -/
def numberLimit : Nat := Nat.pow 2 63 - 1

/-- Reads digits of any script on from a number: nothing at the first other character, and a fault at the digit that
exceeds the limit. -/
def numberFrom (n : Nat) : List Char → Except TemplateFault (Option Nat)
  | [] => .ok (some n)
  | c :: rest =>
    match Text.digitValue? c with
    | none => .ok none
    | some d => if numberLimit < 10 * n + d then .error .tooManyDigits else numberFrom (10 * n + d) rest

def number? (cs : List Char) : Except TemplateFault (Option Nat) := if cs.isEmpty then .ok none else numberFrom 0 cs

def itemAt {α : Type} (items : List α) : Option Nat → Except TemplateFault α
  | none => .error .mistyped
  | some n =>
    match items[n]? with
    | some item => .ok item
    | none => .error .index

/-- An item: texts have characters and tuples have parts by number, what a class holds goes by name. Two classes take any
item, and are named with it. -/
def item (value : Reached) (index : String) : Except TemplateFault Reached := do
  let n ← number? index.toList
  match value, n with
  | .text s, n => return .text (← itemAt s.toList n).toString
  | .tuple items, n => itemAt items n
  | .holdings _, some _ => throw .key
  | .holdings owner, none =>
    match members.find? fun m => m.owner == owner && m.name == index with
    | some m => return .held m
    | none => throw .key
  | .cls name, n =>
    if name = "type" || name = "tuple" then
      return .text (name ++ "[" ++ (match n with | some n => decimalText n | none => Text.quoted index) ++ "]")
    else throw .mistyped
  | _, _ => throw .mistyped

def access (value : Reached) : Access → Except TemplateFault Reached
  | .member name =>
    match value.attribute? name with
    | some v => .ok v
    | none => .error .member
  | .item index => item value index

/-- The value of a placeholder's name: only `alias` has one. -/
def valueOf (row name : String) : Except TemplateFault Reached := do
  let cs := name.toList
  let first := cs.takeWhile fun c => c != '.' && c != '['
  let steps := readAccesses (cs.length + 1) (cs.dropWhile fun c => c != '.' && c != '[')
  if first.isEmpty || (← number? first).isSome then throw .position
  else if first != "alias".toList then throw .name
  else steps.foldlM (fun value step => do access value (← step)) (.text row)

def convert (value : Reached) : Option Char → Except TemplateFault Reached
  | none => .ok value
  | some 's' => .ok (.text value.shown)
  | some 'r' => .ok (.text value.quoted)
  | some 'a' => .ok (.text (Text.inAscii value.quoted))
  | some c => .error (.conversion c)

inductive Alignment
  | left
  | right
  | center
  | padded
deriving DecidableEq

def alignment? : Char → Option Alignment
  | '<' => some .left
  | '>' => some .right
  | '^' => some .center
  | '=' => some .padded
  | _ => none

structure Layout where
  fill : Char
  align : Alignment
  width : Nat
  precision : Option Nat

def takeNumber (cs : List Char) : List Char × List Char :=
  let isDigit := fun c => (Text.digitValue? c).isSome
  (cs.takeWhile isDigit, cs.dropWhile isDigit)

/-- Fill, alignment, flags, width, separators, precision and a letter, in this order, all optional. Texts take neither
sign nor separators, and no letter but s. -/
def readLayoutText (text : List Char) : Except TemplateFault Layout := do
  let cs := text
  let (fill, align, cs) := match cs with
    | f :: a :: rest => match alignment? a with
      | some al => (some f, some al, rest)
      | none => match alignment? f with
        | some al => (none, some al, a :: rest)
        | none => (none, none, cs)
    | [a] => match alignment? a with
      | some al => (none, some al, [])
      | none => (none, none, cs)
    | [] => (none, none, cs)
  let drop := fun (c : Char) (cs : List Char) => match cs with
    | d :: rest => if d = c then (true, rest) else (false, cs)
    | [] => (false, cs)
  let (sign, cs) := match cs with
    | c :: rest => if c = '+' || c = '-' || c = ' ' then (some c, rest) else (none, cs)
    | [] => (none, cs)
  let (zeroSign, cs) := drop 'z' cs
  let (alternate, cs) := drop '#' cs
  let (fill, cs) := match fill, drop '0' cs with
    | none, (true, rest) => (some '0', rest)
    | _, _ => (fill, cs)
  let (width, cs) := takeNumber cs
  let width := (← number? width).getD 0
  let (comma, cs) := drop ',' cs
  let (underscore, cs) := drop '_' cs
  if comma && underscore then .error .bothGroupings
  let (comma2, _) := drop ',' cs
  if comma2 && underscore then .error .bothGroupings
  let (point, cs) := drop '.' cs
  let (places, cs) := takeNumber cs
  let (places, cs) := if point then (places, cs) else ([], places ++ cs)
  if point && places.isEmpty then .error .precision
  let precision ← number? places
  if 1 < cs.length then .error (.layout (String.ofList text))
  let code := cs.headD 's'
  if comma && !("defgEG%F".toList.contains code) then .error (.grouping ',' code)
  if underscore && !("defgEG%FboxX".toList.contains code) then .error (.grouping '_' code)
  if code != 's' then .error (.code code)
  if sign.isSome then .error (.sign (sign = some ' '))
  if zeroSign then .error .zeroSign
  if alternate then .error .alternate
  if align = some .padded then .error .alignment
  return ⟨fill.getD ' ', align.getD .left, width, precision⟩

/-- Cuts a text to its precision and fills it up to its width. -/
def Layout.apply (l : Layout) (s : String) : String :=
  let cs := match l.precision with
    | some n => s.toList.take n
    | none => s.toList
  let missing := l.width - cs.length
  let before := match l.align with
    | .left | .padded => 0
    | .right => missing
    | .center => missing / 2
  String.ofList (List.replicate before l.fill ++ cs ++ List.replicate (missing - before) l.fill)

/-- The text of a template for an alias. A layout may hold placeholders itself, one level deep. -/
def expand (row : String) : Nat → List Char → Except TemplateFault String
  | 0, _ => .error .nesting
  | depth + 1, cs =>
    (pieces (cs.length + 1) cs).foldlM (fun text piece => do
      match ← piece with
      | .literal s => return text ++ s
      | .field f =>
        let value ← valueOf row f.name
        let value ← convert value f.conversion
        let layout ← if f.layout.toList.contains '{' then expand row depth f.layout.toList else pure f.layout
        match value with
        | .text s =>
          if layout = "" then return text ++ s
          let layout ← readLayoutText layout.toList
          return text ++ layout.apply s
        | v => if layout = "" then return text ++ v.shown else throw .mistyped) ""

end Template

def Template.render (template row : String) : Except TemplateFault String :=
  Template.expand row 2 template.toList

end EntityViews
