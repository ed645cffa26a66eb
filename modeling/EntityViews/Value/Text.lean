import EntityViews.Value
import EntityViews.Text.Quoted

/-!
How values read in messages: plain, where a text stands for itself, and shown, where a text is quoted.
-/

namespace EntityViews

/-- A span of time by its parts that are not zero. -/
def spanShown (micros : Int) : String :=
  let days := micros.fdiv microsPerDay
  let rest := micros.fmod microsPerDay
  let parts := [("days", days), ("seconds", rest / microsPerSecond), ("microseconds", rest % microsPerSecond)]
  let written := (parts.filter (·.2 != 0)).map fun p => p.1 ++ "=" ++ intText p.2
  "datetime.timedelta(" ++ (if written.isEmpty then "0" else ", ".intercalate written) ++ ")"

def Date.shown (d : Date) : String :=
  "datetime.date(" ++ ", ".intercalate [decimalText d.year, decimalText d.month, decimalText d.day] ++ ")"

/-- Seconds and their fraction appear only when they are not zero. -/
def DateTime.shown (t : DateTime) : String :=
  let fraction := if t.micro = 0 then [] else [t.micro]
  let seconds := if t.second = 0 && t.micro = 0 then [] else t.second :: fraction
  let numbers := ([t.date.year, t.date.month, t.date.day, t.hour, t.minute] ++ seconds).map decimalText
  let zone := match t.offset with
    | none => []
    | some o => ["tzinfo=" ++ (if o.micros = 0 then "datetime.timezone.utc"
        else "datetime.timezone(" ++ spanShown o.micros ++ ")")]
  "datetime.datetime(" ++ ", ".intercalate (numbers ++ zone) ++ ")"

def Scalar.shown : Scalar → String
  | .null => "None"
  | .bool b => if b then "True" else "False"
  | .int n => intText n
  | .float x => x.text .plain
  | .decimal d => "Decimal('" ++ d.text ++ "')"
  | .text s => Text.quoted s
  | .date d => d.shown
  | .datetime t => t.shown
  | .level l => "<VocabLevel." ++ l.name ++ ": " ++ intText l.value ++ ">"
  | .columnKind k => "<" ++ k.plain ++ ": " ++ Text.quoted k.word ++ ">"

namespace Value

mutual

def shown : Value → String
  | .scalar s => s.shown
  | .list items => "[" ++ ", ".intercalate (itemsShown items) ++ "]"
  | .tuple [] => "()"
  | .tuple [item] => "(" ++ item.shown ++ ",)"
  | .tuple items => "(" ++ ", ".intercalate (itemsShown items) ++ ")"
  | .set [] => "set()"
  | .set items => "\x7b" ++ ", ".intercalate (itemsShown items) ++ "\x7d"
  | .map entries => "\x7b" ++ ", ".intercalate (entriesShown entries) ++ "\x7d"

def itemsShown : List Value → List String
  | [] => []
  | item :: rest => item.shown :: itemsShown rest

def entriesShown : List (Value × Value) → List String
  | [] => []
  | (key, value) :: rest => (key.shown ++ ": " ++ value.shown) :: entriesShown rest

end

def plain : Value → String
  | .text s => s
  | .decimal d => d.text
  | .date d => d.text
  | .datetime t => t.textWith " "
  | .level l => intText l.value
  | .columnKind k => k.plain
  | value => value.shown

end Value

def namesShown (names : List String) : String := (Value.ofTexts names).shown

end EntityViews
