import EntityViews.Folder
import EntityViews.View
import EntityViews.Value.Text
import EntityViews.Json.Reader
import EntityViews.Json.Writer
import EntityViews.Schema.Template
import EntityViews.Text.Directive

/-!
What can go wrong, by cause, and the wording of each cause.
-/

namespace EntityViews

inductive FilterProblem
  | notMap (entity typeName : String)
  | unknownEntity (name : String)
  | unknownOperator (key entity : String)
  | unknownField (key entity : String)
  | notList (operator : String)
  | unknownComparison (key : String)
  | unknownColumn (name entity : String)

def FilterProblem.message : FilterProblem → String
  | notMap entity typeName => "Filter on " ++ entity ++ " must be a mapping, got " ++ typeName
  | unknownEntity name => "Unknown entity '" ++ name ++ "' in filter"
  | unknownOperator key entity => "Unsupported operator '" ++ key ++ "' on " ++ entity
  | unknownField key entity => "Unknown field '" ++ key ++ "' in filter on " ++ entity
  | notList operator => "'" ++ operator ++ "' expects a list of filters"
  | unknownComparison key => "Unsupported operator '" ++ key ++ "'"
  | unknownColumn name entity => "Unknown column '" ++ name ++ "' on " ++ entity

/-- Why a path cannot be walked; `here` is the part of the path up to the segment that failed. -/
inductive PathProblem
  | noSource (here : String)
  | notRelation (here kind : String)
  | notPopulated (here : String)
  | unknownCardinality (here word : String)

def PathProblem.message (path : String) : PathProblem → String
  | noSource p => "Field fetch spec not found for '" ++ p ++ "'"
  | notRelation p kind => "Non-relation field encountered at '" ++ p ++ "' (" ++ kind ++ ")"
  | notPopulated p => "Invalid path: " ++ path ++ " ('" ++ p ++ "' not populated)"
  | unknownCardinality p word => "Unknown relation type '" ++ word ++ "' at '" ++ p ++ "'"

/-- What a description of an entity gets wrong by the rules of this library. -/
inductive Complaint
  | fieldName (name : String)
  | entityName (name : String)
  | joinKeys (relation : String)
  | foreignKey (relation : String)

def Complaint.message : Complaint → String
  | fieldName name => "Field name '" ++ name ++ "' must be a valid identifier"
  | entityName name => "Entity name '" ++ name ++ "' must be a valid identifier"
  | joinKeys relation =>
    "many_to_many relation '" ++ relation ++ "' needs through, through_source_key and through_target_key"
  | foreignKey relation => "Relation '" ++ relation ++ "' needs a foreign_key"

/-- The wording of what is no point in time; what lies beyond all clocks has none. -/
def CalendarFault.message? : CalendarFault → Option String
  | malformed text => some ("Invalid isoformat string: " ++ Text.quoted text)
  | year y => some ("year " ++ intText y ++ " is out of range")
  | month => some "month must be in 1..12"
  | day => some "day is out of range for month"
  | hour => some "hour must be in 0..23"
  | minute => some "minute must be in 0..59"
  | second => some "second must be in 0..59"
  | offset micros =>
    some ("offset must be a timedelta strictly between -timedelta(hours=24) and timedelta(hours=24), not " ++
      spanShown micros ++ ".")
  | notANumber => some "Invalid value NaN (not a number)"
  | beyondClock | beyondCalendar => none

inductive Fault
  /-- A view wants a field that has no source. -/
  | unknownField (field : String) (view : View)
  | path (problem : PathProblem) (path : String)
  | unknownEntityType (name : String) (known : List String)
  | unauthenticated (what : String)
  | noDatabase
  | filter (problem : FilterProblem) (filter : Value)
  | notAView (typeName : String)
  /-- A description was refused; complaints of its form alone are not told. -/
  | refused (complaints : List Complaint)
  /-- A field source of no known kind. -/
  | foreignSource (name : String)
  | emptyName (role : String)
  | badName (role name : String)
  | template (fault : TemplateFault)
  | directive (fault : DirectiveFault)
  | unknownRelation (relation entity : String) (within : Option String)
  | noSchema (entity : String)
  | duplicateSource (field entity : String)
  | pageSize (shown : String)
  | calendar (fault : CalendarFault)
  | badTimeText (shown : String)
  | notInteger (shown : String)
  /-- A whole number has more digits than are read, or than are written if their number is not told. -/
  | longNumeral (digits : Option Nat)
  | nanInteger (float : Bool)
  | signallingNan
  | json (fault : Json.SyntaxFault)
  /-- The values of a JSON text lie too deep in each other. -/
  | tooDeep
  | unknownLevel (name : String)
  | annotator (message : String)
  /-- The database failed; the class of its failure and its own words. -/
  | database (kind message : String)
  | obstacle (met : Obstacle)
  | badMarkup
  | overflow
  | notDecimal
  /-- A value has the wrong type for what is done with it. -/
  | mistyped
  | absentKey
  | absentItem
  | absentMember

namespace Fault

def message? : Fault → Option String
  | unknownField field view =>
    some ("Invalid view field: " ++ field ++ ", current view=" ++ (Json.write? .plainText view.toValue).getD "")
  | path problem p => some (problem.message p)
  | unknownEntityType name known =>
    let names := known.mergeSort (fun a b => decide (a ≤ b))
    some ("No fetch specs registered for entity type '" ++ name ++ "'" ++
      (if known.isEmpty then "" else " (known: " ++ ", ".intercalate names ++ ")"))
  | unauthenticated what => some ("Context doesn't have logged in user (required by " ++ what ++ ")")
  | noDatabase => some "Fetch context has no database for annotation"
  | filter problem _ => some problem.message
  | notAView typeName => some ("Cannot build a view from " ++ typeName)
  | refused complaints =>
    if complaints.isEmpty then none else some ("; ".intercalate (complaints.map Complaint.message))
  | foreignSource name => some ("Expected code to be unreachable, but got: " ++ name)
  | emptyName role => some ("SQL " ++ role ++ " cannot be empty")
  | badName role name =>
    some ("Invalid SQL " ++ role ++ " '" ++ name ++
      "': must contain only letters, digits, and underscores, and cannot start with a digit")
  | template fault => fault.message?
  | directive fault => some fault.message
  | unknownRelation relation entity within =>
    some ("Unknown relation '" ++ relation ++ "' on " ++ entity ++
      (match within with | some p => " (path '" ++ p ++ "')" | none => ""))
  | noSchema entity => some ("No schema found for entity: " ++ entity)
  | duplicateSource field entity => some ("Duplicate field fetch spec '" ++ field ++ "' on " ++ entity)
  | pageSize shown => some ("LEXIS_MAX_PAGE_SIZE must be an integer, got " ++ shown)
  | calendar fault => fault.message?
  | badTimeText shown => some ("Invalid isoformat string: " ++ shown)
  | notInteger shown => some ("invalid literal for int() with base 10: " ++ shown)
  | longNumeral digits =>
    some ("Exceeds the limit (" ++ decimalText digitLimit ++ " digits) for integer string conversion" ++
      (match digits with | some n => ": value has " ++ decimalText n ++ " digits" | none => "") ++
      "; use sys.set_int_max_str_digits() to increase the limit")
  | nanInteger float => some ("cannot convert " ++ (if float then "float " else "") ++ "NaN to integer")
  | signallingNan => some "cannot convert signaling NaN to float"
  | json fault => some fault.message
  | unknownLevel name => some ("Unknown level: " ++ name)
  | annotator message => some message
  | database _ message => some message
  | obstacle met => met.message?
  | tooDeep | badMarkup | overflow | notDecimal | mistyped | absentKey | absentItem | absentMember => none

/-- A text that stands for no whole number, as messages show it. -/
def ofNumeral (shown : String) : NumeralFault → Fault
  | .malformed => notInteger shown
  | .tooLong digits => longNumeral (some digits)

/-- A text that is not read as JSON. -/
def ofJson : Json.ReadFault → Fault
  | .malformed fault => json fault
  | .tooLong digits => longNumeral (some digits)
  | .tooDeep => tooDeep

/-- Whether a view could not be resolved for a reason that lies in the view, its filters or its context. -/
def isUnresolved : Fault → Bool
  | unknownField _ _ | path _ _ | unknownEntityType _ _ | unauthenticated _ | noDatabase | filter _ _ => true
  | _ => false

end Fault

end EntityViews
