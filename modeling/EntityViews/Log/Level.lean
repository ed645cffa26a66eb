import EntityViews.Value.Number

/-!
Levels of importance: numbers, some of which have names.
-/

namespace EntityViews.Log

/-- From here on a record tells where it comes from. -/
def warning : Int := 30

def levelName (n : Int) : String :=
  match n with
  | 0 => "NOTSET"
  | 10 => "DEBUG"
  | 20 => "INFO"
  | 30 => "WARNING"
  | 40 => "ERROR"
  | 50 => "CRITICAL"
  | n => "Level " ++ intText n

def level? : String → Option Int
  | "NOTSET" => some 0
  | "DEBUG" => some 10
  | "INFO" => some 20
  | "WARN" | "WARNING" => some 30
  | "ERROR" => some 40
  | "CRITICAL" | "FATAL" => some 50
  | _ => none

/-- The level that a setting asks for: a number, or a name in any case. -/
def levelOf (setting : Value) : Except Fault Int :=
  match setting.asText?, setting.integer? with
  | some name, _ =>
    match level? (Text.toUpper name) with
    | some n => .ok n
    | none => .error (.unknownLevel (Text.quoted ("Level " ++ Text.toUpper name)))
  | none, some n => .ok n
  | none, none => .error .mistyped

/-- The least level that passes; a setting of zero leaves it to the default. -/
def leastLevel (setting : Int) : Int := if setting = 0 then warning else setting

end EntityViews.Log
