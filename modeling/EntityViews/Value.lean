import EntityViews.Number.Decimal
import EntityViews.Calendar.DateTime
import EntityViews.Schema.ColumnKind
import EntityViews.Learning.Level

/-!
The values that filters, rows, records and settings hold.
-/

namespace EntityViews

inductive Scalar
  | null
  | bool (b : Bool)
  | int (n : Int)
  | float (x : Binary64)
  | decimal (d : Decimal)
  | text (s : String)
  | date (d : Date)
  | datetime (t : DateTime)
  | level (l : VocabLevel)
  | columnKind (k : ColumnKind)
deriving DecidableEq

/-- A value; the entries of a map keep their order. -/
inductive Value
  | scalar (s : Scalar)
  | list (items : List Value)
  | tuple (items : List Value)
  | set (items : List Value)
  | map (entries : List (Value × Value))

namespace Value

@[match_pattern] abbrev null : Value := .scalar .null
@[match_pattern] abbrev bool (b : Bool) : Value := .scalar (.bool b)
@[match_pattern] abbrev int (n : Int) : Value := .scalar (.int n)
@[match_pattern] abbrev float (x : Binary64) : Value := .scalar (.float x)
@[match_pattern] abbrev decimal (d : Decimal) : Value := .scalar (.decimal d)
@[match_pattern] abbrev text (s : String) : Value := .scalar (.text s)
@[match_pattern] abbrev date (d : Date) : Value := .scalar (.date d)
@[match_pattern] abbrev datetime (t : DateTime) : Value := .scalar (.datetime t)
@[match_pattern] abbrev level (l : VocabLevel) : Value := .scalar (.level l)
@[match_pattern] abbrev columnKind (k : ColumnKind) : Value := .scalar (.columnKind k)

instance : Inhabited Value := ⟨null⟩

def ofFields (fields : List (String × Value)) : Value := .map (fields.map fun f => (.text f.1, f.2))

def ofTexts (texts : List String) : Value := .list (texts.map .text)

end Value

/-- Zero, nothing and what is empty count as absent. -/
def Scalar.isPresent : Scalar → Bool
  | .null => false
  | .bool b => b
  | .int n => n != 0
  | .float x => !x.isZero
  | .decimal d => !d.isZero
  | .text s => s != ""
  | .level l => l.value != 0
  | _ => true

def Value.isPresent : Value → Bool
  | .scalar s => s.isPresent
  | .list items | .tuple items | .set items => !items.isEmpty
  | .map entries => !entries.isEmpty

/-- The kind of a value as messages name it. -/
def Scalar.typeName : Scalar → String
  | .null => "NoneType"
  | .bool _ => "bool"
  | .int _ => "int"
  | .float _ => "float"
  | .decimal _ => "Decimal"
  | .text _ => "str"
  | .date _ => "date"
  | .datetime _ => "datetime"
  | .level _ => "VocabLevel"
  | .columnKind _ => "ScalarType"

def Value.typeName : Value → String
  | .scalar s => s.typeName
  | .list _ => "list"
  | .tuple _ => "tuple"
  | .set _ => "set"
  | .map _ => "dict"

inductive Label
  | word (s : String)
  | kind (k : ColumnKind)

namespace Label

def text : Label → String
  | word s => s
  | kind k => k.word

/-- A name as it reads within a text. -/
def plain : Label → String
  | word s => s
  | kind k => k.plain

end Label

def Value.label? : Value → Option Label
  | .text s => some (.word s)
  | .columnKind k => some (.kind k)
  | _ => none

/-- The characters of a value that is a text. -/
def Value.asText? (v : Value) : Option String := v.label?.map Label.text

end EntityViews
