/-!
# Sets of characters as ranges

A character set is a list of closed ranges of code points, the form in which character data is
tabulated.
-/

namespace PageLinker

/-- A set of characters, as closed ranges of code points. -/
abbrev CharRanges := List (Nat × Nat)

namespace CharRanges

/-- Membership of a character in a set of ranges. -/
def holds (ranges : CharRanges) (c : Char) : Bool :=
  ranges.any fun range => range.1 ≤ c.toNat && c.toNat ≤ range.2

end CharRanges

end PageLinker
