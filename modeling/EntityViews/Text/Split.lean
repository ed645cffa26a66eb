/-!
Cutting a text at a separator character, and the joins that undo it.
-/

namespace EntityViews.Text

/-- The pieces of a character list between separators; one piece more than there are separators. -/
def splitChars (sep : Char) : List Char → List (List Char)
  | [] => [[]]
  | c :: rest =>
    match splitChars sep rest with
    | [] => [[c]]
    | piece :: pieces => if c = sep then [] :: piece :: pieces else (c :: piece) :: pieces

def splitAt (sep : Char) (s : String) : List String := (splitChars sep s.toList).map String.ofList

def segments (path : String) : List String := splitAt '.' path

/-- Segments with a dot between neighbours. -/
def joinDots (pieces : List String) : String := ".".intercalate pieces

/-- A name under a path; the empty path adds nothing. -/
def qualify (path name : String) : String := if path = "" then name else path ++ "." ++ name

def count (c : Char) (s : String) : Nat := s.toList.count c

/-- The part before the last separator and the part after it; without one all is the last part. -/
def splitLast (sep : Char) (s : String) : String × String :=
  let tail := s.toList.reverse.takeWhile (· != sep)
  let front := s.toList.reverse.dropWhile (· != sep)
  (String.ofList (front.drop 1).reverse, String.ofList tail.reverse)

/-- The rest of a text after a given beginning. -/
def dropStart? (start s : String) : Option String :=
  if start.toList.isPrefixOf s.toList then some (String.ofList (s.toList.drop start.length)) else none

theorem splitChars_ne_nil (sep : Char) (s : List Char) : splitChars sep s ≠ [] := by
  induction s with
  | nil => simp [splitChars]
  | cons c rest ih =>
    unfold splitChars
    cases h : splitChars sep rest with
    | nil => exact absurd h ih
    | cons piece pieces => by_cases hc : c = sep <;> simp [hc]

end EntityViews.Text
