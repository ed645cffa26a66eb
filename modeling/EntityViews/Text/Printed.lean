import EntityViews.Text.Split
import EntityViews.Text.Width

/-!
Texts as they reach a terminal: control characters that would move the cursor are left out, and tabs become blanks.
-/

namespace EntityViews.Text

def isCursorControl (c : Char) : Bool := [7, 8, 11, 12, 13].contains c.toNat

/-- A text without the characters that would move the cursor. -/
def withoutControls (cs : List Char) : List Char := cs.filter fun c => !isCursorControl c

/-- Joins the parts of a line between its tabs: each tab becomes a blank, and more blanks up to the next column that is a
multiple of `size`. -/
def fillTabs (size column : Nat) : List (List Char) → List Char
  | [] => []
  | [part] => part
  | part :: rest =>
    let own := part ++ [' ']
    let column := column + columns own
    let missing := (size - column % size) % size
    own ++ List.replicate missing ' ' ++ fillTabs size (column + missing) rest

def expandTabs (size : Nat) (line : List Char) : List Char := fillTabs size 0 (splitChars '\t' line)

/-- A text as it is printed, with tabs of eight columns. -/
def printed (s : String) : String :=
  "\n".intercalate ((splitChars '\n' (withoutControls s.toList)).map fun line => String.ofList (expandTabs 8 line))

end EntityViews.Text
