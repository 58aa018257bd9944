/-! # Ranges of characters

A class of characters beyond ASCII is a table of ranges of code points. -/

namespace ClientMigration.Text

/-- Ascending, disjoint ranges of code points, both ends included. -/
abbrev CharRanges := List (Nat × Nat)

/-- Whether a character lies in one of the ranges. -/
def CharRanges.contains (rs : CharRanges) (c : Char) : Bool :=
  rs.any fun r => r.1 ≤ c.toNat && c.toNat ≤ r.2

end ClientMigration.Text
