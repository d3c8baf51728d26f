/-!
# Ranges of code points

A property of characters is given as the ranges of code points that have it.  The tables of this
library follow version 17.0 of the Unicode character database.
-/

namespace RegisterMachine.Text

/-- The first and the last code point of a range. -/
abbrev CodePointRange := Nat × Nat

/-- Whether a character is in one of the ranges. -/
def inRanges (ranges : List CodePointRange) (c : Char) : Bool :=
  ranges.any fun range => range.1 ≤ c.toNat && c.toNat ≤ range.2

end RegisterMachine.Text
