import EntityViews.Text.Table.IdentifierStart
import EntityViews.Text.Table.IdentifierPart
import EntityViews.Text.Table.Unprintable
import EntityViews.Text.Table.Digits
import EntityViews.Text.Table.CaseMap
import EntityViews.Text.Table.Cased

/-!
Character classes and case mappings, read off the tables.
-/

namespace EntityViews.Text

def inRanges (ranges : Array (Nat × Nat)) (c : Char) : Bool :=
  ranges.any fun r => r.1 ≤ c.toNat && c.toNat ≤ r.2

/-- An identifier opens with a letter or underscore of any script and goes on with letters, marks and digits. -/
def isIdentifier (s : String) : Bool :=
  match s.toList with
  | [] => false
  | c :: rest => inRanges identifierStarts c && rest.all (inRanges identifierParts)

/-- Characters that a quoted text shows as they are. -/
def isPrintable (c : Char) : Bool := !inRanges unprintables c

def isBlank (c : Char) : Bool :=
  inRanges #[(0x9, 0xd), (0x1c, 0x20), (0x85, 0x85), (0xa0, 0xa0), (0x1680, 0x1680), (0x2000, 0x200a),
    (0x2028, 0x2029), (0x202f, 0x202f), (0x205f, 0x205f), (0x3000, 0x3000)] c

def isAsciiBlank (c : Char) : Bool := c == ' ' || (0x9 ≤ c.toNat && c.toNat ≤ 0xd)

def digitValue? (c : Char) : Option Nat :=
  (digitZeros.find? fun z => z ≤ c.toNat && c.toNat ≤ z + 9).map (c.toNat - ·)

/-- The image of a code point under a table of runs, itself if no run holds it. -/
def shiftBy (runs : Array CaseRun) (c : Char) : Char :=
  match runs.find? fun r => r.first ≤ c.toNat && c.toNat ≤ r.last && (c.toNat - r.first) % r.step == 0 with
  | some r => Char.ofNat (c.toNat + r.shift).toNat
  | none => c

/-- The image of a code point: its expansion if it has one, else what its run gives. -/
def mapChar (runs : Array CaseRun) (expansions : Array (Nat × List Nat)) (c : Char) : List Char :=
  match expansions.find? fun e => e.1 == c.toNat with
  | some e => e.2.map Char.ofNat
  | none => [shiftBy runs c]

def toUpper (s : String) : String := String.ofList (s.toList.flatMap (mapChar upperRuns upperExpansions))

/-- Whether the first character that is not passed over has a case. -/
def meetsCased (cs : List Char) : Bool :=
  match cs.dropWhile (inRanges passedOverRanges) with
  | c :: _ => inRanges casedRanges c
  | [] => false

/-- Lower case of a text that follows some characters, the last of them first. A sigma that ends a word takes its final
form. -/
def lowerAfter (before : List Char) : List Char → List Char
  | [] => []
  | c :: rest =>
    let own := if c = 'Σ' && meetsCased before && !meetsCased rest then ['ς'] else mapChar lowerRuns lowerExpansions c
    own ++ lowerAfter (c :: before) rest

def toLower (s : String) : String := String.ofList (lowerAfter [] s.toList)

/-- Drops the characters of a class from both ends. -/
def trimBy (p : Char → Bool) (s : List Char) : List Char :=
  ((s.dropWhile p).reverse.dropWhile p).reverse

end EntityViews.Text
