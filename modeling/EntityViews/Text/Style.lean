import EntityViews.Number.Decimal
import EntityViews.Text.Split
import EntityViews.Text.Table.Colours

/-!
Styles in words: attributes, a colour, a colour behind the word `on`, and a link behind the word `link`. Two wordings of
one style have the same text.
-/

namespace EntityViews

inductive StyleAttribute
  | bold
  | dim
  | italic
  | underline
  | blink
  | blink2
  | reverse
  | conceal
  | strike
  | underline2
  | frame
  | encircle
  | overline
deriving DecidableEq

structure Style where
  /-- The attributes that are asked for, or asked not to be there. -/
  attributes : List (StyleAttribute × Bool)
  colour : Option String
  background : Option String
  link : Option String

inductive StyleFault
  | unknown
  /-- A part of a colour is no number that can be read. -/
  | numeral (fault : NumeralFault)

namespace StyleAttribute

def all : List StyleAttribute :=
  [bold, dim, italic, underline, blink, blink2, reverse, conceal, strike, underline2, frame, encircle, overline]

def name : StyleAttribute → String
  | bold => "bold"
  | dim => "dim"
  | italic => "italic"
  | underline => "underline"
  | blink => "blink"
  | blink2 => "blink2"
  | reverse => "reverse"
  | conceal => "conceal"
  | strike => "strike"
  | underline2 => "underline2"
  | frame => "frame"
  | encircle => "encircle"
  | overline => "overline"

def shortNames : List (String × StyleAttribute) :=
  [("d", dim), ("b", bold), ("i", italic), ("u", underline), ("r", reverse), ("c", conceal), ("s", strike),
    ("uu", underline2), ("o", overline)]

def ofName? (word : String) : Option StyleAttribute :=
  (all.find? (·.name == word)).orElse fun _ => (shortNames.find? (·.1 == word)).map (·.2)

end StyleAttribute

namespace Style

def empty : Style := ⟨[], none, none, none⟩

/-- The inside of round brackets behind a word. -/
def bracketed? (word : String) (cs : List Char) : Option (List Char) := do
  let inside ← Text.dropStart? (word ++ "(") (String.ofList cs)
  match inside.toList.reverse with
  | ')' :: body => some body.reverse
  | _ => none

/-- A part of a colour: a number of at most 255. -/
def colourPart (cs : List Char) : Except StyleFault Bool :=
  match wholeNumber (String.ofList cs) with
  | .ok n => .ok (n ≤ 255)
  | .error f => .error (.numeral f)

/-- Whether a word is a colour: a name, six hexadecimal digits, a number, or three parts. -/
def isColour (word : String) : Except StyleFault Bool := do
  let cs := word.toList
  let isHex := fun (c : Char) => c.isDigit || ('a' ≤ c && c ≤ 'f')
  if word = "default" || Text.colourLines.any (fun line => (Text.splitAt ' ' line).contains word) then return true
  if cs.head? = some '#' then return cs.length = 7 && (cs.drop 1).all isHex
  match bracketed? "color" cs with
  | some digits =>
    if digits.all Char.isDigit && 1 ≤ digits.length && digits.length ≤ 3 then colourPart digits else return false
  | none =>
    match bracketed? "rgb" cs with
    | none => return false
    | some parts =>
      if parts.isEmpty || !parts.all fun c => c = ',' || (Text.digitValue? c).isSome then return false
      match Text.splitChars ',' parts with
      | [red, green, blue] => do
        let red ← colourPart red
        let green ← colourPart green
        let blue ← colourPart blue
        return red && green && blue
      | _ => return false

/-- The name of a colour, in lower case. -/
def readColour (word : String) : Except StyleFault String := do
  let name := Text.toLower word
  if ← isColour name then return name else throw .unknown

def withAttribute (s : Style) (a : StyleAttribute) (wanted : Bool) : Style :=
  { s with attributes := (a, wanted) :: s.attributes.filter (·.1 != a) }

def readWords (s : Style) : List String → Except StyleFault Style
  | [] => .ok s
  | word :: rest =>
    match Text.toLower word, rest with
    | "on", colour :: rest => do
      let name ← readColour colour
      readWords { s with background := some name } rest
    | "not", word :: rest =>
      match StyleAttribute.ofName? word with
      | some a => readWords (s.withAttribute a false) rest
      | none => .error .unknown
    | "link", target :: rest => readWords { s with link := some target } rest
    | "on", [] | "not", [] | "link", [] => .error .unknown
    | lower, rest =>
      match StyleAttribute.ofName? lower with
      | some a => readWords (s.withAttribute a true) rest
      | none => do
        let name ← readColour lower
        readWords { s with colour := some name } rest

def words (cs : List Char) : List String :=
  ((cs.splitBy fun a b => Text.isBlank a == Text.isBlank b).filter fun run => !run.all Text.isBlank).map String.ofList

/-- Reads a style; `none` is the style that asks for nothing. -/
def ofText (text : String) : Except StyleFault Style :=
  match words text.toList with
  | ["none"] => .ok empty
  | ws => readWords empty ws

/-- The text that all wordings of a style share. -/
def text (s : Style) : String :=
  let attributes := StyleAttribute.all.filterMap fun a =>
    (s.attributes.find? (·.1 == a)).map fun e => if e.2 then a.name else "not " ++ a.name
  let parts := attributes ++ s.colour.toList ++ (s.background.toList.map ("on " ++ ·)) ++
    (s.link.toList.map ("link " ++ ·))
  if parts.isEmpty then "none" else " ".intercalate parts

/-- The shared text of the wordings of a style; what is no style is only put in lower case. -/
def normalize (name : String) : Except NumeralFault String :=
  match ofText name with
  | .ok s => .ok s.text
  | .error (.numeral f) => .error f
  | .error .unknown => .ok (Text.toLower (String.ofList (Text.trimBy Text.isBlank name.toList)))

end Style

end EntityViews
