/-!
Halves of pairs. The code points from 0xd800 on come in pairs that spell one character; half of a pair, which is no
character, may still turn up in a text. A character of a private range stands for it there.
-/

namespace EntityViews.Text

/-- The first code point that is half of a pair. -/
def firstHalf : Nat := 0xd800

/-- How many code points are halves of pairs. -/
def halfCount : Nat := 0x800

/-- The first character that stands for half of a pair. -/
def firstStandIn : Nat := 0x10f000

/-- The character for a code point. Halves of pairs take the private-use characters from U+10F000 to U+10F7FF, so that no text
stands for one that holds these characters themselves: they always mean halves. -/
def charOf (code : Nat) : Char :=
  if firstHalf ≤ code && code < firstHalf + halfCount then Char.ofNat (code - firstHalf + firstStandIn)
  else Char.ofNat code

def isHalf (c : Char) : Bool := firstStandIn ≤ c.toNat && c.toNat < firstStandIn + halfCount

/-- The code point that a character stands for: half of a pair for a private-use character from U+10F000 to U+10F7FF, whose
own code point no character stands for. -/
def codeOf (c : Char) : Nat := if isHalf c then c.toNat - firstStandIn + firstHalf else c.toNat

end EntityViews.Text
