/-!
# Sets of characters given by ranges

The tables of character properties list inclusive ranges of code points.
-/

namespace BackupMonitor.Text

/-- A set of characters as inclusive ranges of code points. -/
abbrev Ranges := List (Nat × Nat)

/-- Whether a character lies in one of the ranges. -/
def Ranges.contains (ranges : Ranges) (c : Char) : Bool :=
  ranges.any fun (first, last) => decide (first ≤ c.toNat) && decide (c.toNat ≤ last)

end BackupMonitor.Text
