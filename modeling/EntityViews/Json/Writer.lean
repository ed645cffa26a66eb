import EntityViews.Value.Text

/-!
JSON texts of values.
-/

namespace EntityViews.Json

def unitEscape (unit : Nat) : String := "\\u" ++ Text.hex 4 unit

/-- The escape of any character; beyond the basic plane it is a pair of units. -/
def escape (c : Char) : String :=
  if c = '"' then "\\\""
  else if c = '\\' then "\\\\"
  else if c = '\n' then "\\n"
  else if c = '\r' then "\\r"
  else if c = '\t' then "\\t"
  else if c = '\x08' then "\\b"
  else if c = '\x0c' then "\\f"
  else if Text.codeOf c < 0x10000 then unitEscape (Text.codeOf c)
  else
    let n := c.toNat - 0x10000
    unitEscape (0xd800 + n / 0x400) ++ unitEscape (0xdc00 + n % 0x400)

def isAsciiPlain (c : Char) : Bool := ' ' ≤ c && c ≤ '~' && c != '"' && c != '\\'

def isPlain (c : Char) : Bool := ' ' ≤ c && c != '"' && c != '\\'

/-- A text in double quotes, escaped where `plain` does not hold. -/
def quotedWith (plain : Char → Bool) (s : String) : String :=
  "\"" ++ String.join (s.toList.map fun c => if plain c then c.toString else escape c) ++ "\""

def quoted (s : String) : String := quotedWith isAsciiPlain s

/-- What becomes of values that JSON has no form for. -/
inductive Fallback
  | refuse
  | plainText
deriving DecidableEq

/-- The text of a scalar, `none` if JSON has no form for it. -/
def scalarText? : Scalar → Option String
  | .null => some "null"
  | .bool b => some (if b then "true" else "false")
  | .int n => some (intText n)
  | .float x => some (x.text .json)
  | .text s => some (quoted s)
  | .level l => some (intText l.value)
  | .columnKind k => some (quoted k.word)
  | .decimal _ | .date _ | .datetime _ => none

/-- The name that a key becomes: texts as they are, other simple values by their JSON text. -/
def keyName? : Value → Option String
  | .text s => some s
  | .columnKind k => some k.word
  | .scalar s => scalarText? s
  | _ => none

/-- A text for a value without a JSON form. -/
def fallbackText (fallback : Fallback) (value : Value) : Option String :=
  if fallback = .plainText then some (quoted value.plain) else none

mutual

/-- The text of a value on one line, `none` if some part of it has no form. -/
def write? (fallback : Fallback) : Value → Option String
  | .scalar s => (scalarText? s).orElse fun _ => fallbackText fallback (.scalar s)
  | .list items | .tuple items =>
    (writeItems? fallback items).map fun texts => "[" ++ ", ".intercalate texts ++ "]"
  | .set items => fallbackText fallback (.set items)
  | .map entries =>
    (writeEntries? fallback entries).map fun texts => "\x7b" ++ ", ".intercalate texts ++ "\x7d"

def writeItems? (fallback : Fallback) : List Value → Option (List String)
  | [] => some []
  | item :: rest => do
    let text ← write? fallback item
    let texts ← writeItems? fallback rest
    return text :: texts

def writeEntries? (fallback : Fallback) : List (Value × Value) → Option (List String)
  | [] => some []
  | (key, value) :: rest => do
    let name ← keyName? key
    let text ← write? fallback value
    let texts ← writeEntries? fallback rest
    return (quoted name ++ ": " ++ text) :: texts

end

def block (opening closing : String) (depth : Nat) (items : List String) : String :=
  let pad := fun n => String.ofList (List.replicate (2 * n) ' ')
  if items.isEmpty then opening ++ closing
  else opening ++ "\n" ++ pad (depth + 1) ++ (",\n" ++ pad (depth + 1)).intercalate items ++ "\n" ++ pad depth ++ closing

mutual

/-- The text of a JSON value over several lines, two blanks deeper at each level, with all scripts as they are. -/
def indented (depth : Nat) : Value → String
  | .text s => quotedWith isPlain s
  | .scalar s => (scalarText? s).getD ""
  | .list items | .tuple items | .set items => block "[" "]" depth (indentedItems (depth + 1) items)
  | .map entries => block "\x7b" "\x7d" depth (indentedEntries (depth + 1) entries)

def indentedItems (depth : Nat) : List Value → List String
  | [] => []
  | item :: rest => indented depth item :: indentedItems depth rest

def indentedEntries (depth : Nat) : List (Value × Value) → List String
  | [] => []
  | (key, value) :: rest =>
    (quotedWith isPlain (key.asText?.getD "") ++ ": " ++ indented depth value) :: indentedEntries depth rest

end

end EntityViews.Json
