import EntityViews.Text.Classes
import EntityViews.Text.Table.CellWidth

/-!
How many columns a text takes where each character takes none, one or two of them.
-/

namespace EntityViews.Text

def columnsOf (c : Char) : Nat :=
  if inRanges zeroWidthRanges c then 0 else if inRanges doubleWidthRanges c then 2 else 1

/-- The joiner takes a character into the picture before it. -/
def joiner : Char := '\u200d'

/-- The selector asks for the picture that a character can be shown as. -/
def pictureSelector : Char := '\ufe0f'

/-- The columns of a text behind the character `last` that took some. Of what follows a joiner nothing is counted, and a
picture selector widens the last character if its picture is wider. -/
def columnsFrom (last : Option Char) : List Char → Nat
  | [] => 0
  | c :: rest =>
    if c = joiner then
      match rest with
      | [] => 0
      | _ :: rest => columnsFrom last rest
    else if c = pictureSelector then (if last.any (inRanges widenedRanges) then 1 else 0) + columnsFrom none rest
    else columnsOf c + columnsFrom (if columnsOf c = 0 then last else some c) rest

def columns (cs : List Char) : Nat := columnsFrom none cs

end EntityViews.Text
