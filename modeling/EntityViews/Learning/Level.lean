/-!
How well a learner knows a word.
-/

namespace EntityViews

inductive VocabLevel
  | ignored
  | new
  | level1
  | level2
  | level3
  | level4
  | learned
  | known
deriving DecidableEq

namespace VocabLevel

def all : List VocabLevel := [ignored, new, level1, level2, level3, level4, learned, known]

def value : VocabLevel → Int
  | ignored => -1
  | new => 0
  | level1 => 1
  | level2 => 2
  | level3 => 3
  | level4 => 4
  | learned => 5
  | known => 6

def name : VocabLevel → String
  | ignored => "IGNORED"
  | new => "NEW"
  | level1 => "LEVEL_1"
  | level2 => "LEVEL_2"
  | level3 => "LEVEL_3"
  | level4 => "LEVEL_4"
  | learned => "LEARNED"
  | known => "KNOWN"

def ofName? (s : String) : Option VocabLevel := all.find? (·.name == s)

end VocabLevel

end EntityViews
