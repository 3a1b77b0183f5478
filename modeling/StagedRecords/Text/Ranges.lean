/-!
# Sets of characters

A property of characters is a list of ranges of code points, in increasing order.
-/

namespace StagedRecords.Text

/-- Ranges of code points, each with its first and last member. -/
abbrev Ranges := List (Nat × Nat)

/-- Whether the character lies in one of the ranges. -/
def Ranges.has (r : Ranges) (c : Char) : Bool :=
  r.any fun (first, last) => first ≤ c.toNat && c.toNat ≤ last

end StagedRecords.Text
