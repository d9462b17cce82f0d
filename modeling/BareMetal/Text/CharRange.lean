/-!
# Ranges of characters

A set of characters as a list of ranges of code points, each given by its first and last member.
-/

namespace BareMetal.Text

/-- The first and the last code points of a range. -/
abbrev CharRange := Nat × Nat

/-- The character lies in one of the ranges. -/
def inRanges (ranges : List CharRange) (c : Char) : Bool :=
  ranges.any fun (first, last) => first ≤ c.toNat && c.toNat ≤ last

end BareMetal.Text
