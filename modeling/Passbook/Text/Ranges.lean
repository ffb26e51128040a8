/-!
# Sets of characters

A set of characters is given by its code points, as closed ranges in ascending order.
-/
namespace Passbook.Text

/-- Code points as closed ranges. -/
abbrev Ranges := List (Nat × Nat)

namespace Ranges

/-- The character's code point lies in one of the ranges. -/
def contains (ranges : Ranges) (c : Char) : Bool :=
  ranges.any fun (low, high) => low ≤ c.toNat && c.toNat ≤ high

/-- No range is empty, and each one starts after the one before has ended. -/
def ascending : Ranges → Bool
  | [] => true
  | [(low, high)] => low ≤ high
  | (low, high) :: (next, last) :: rest =>
    low ≤ high && high < next && ascending ((next, last) :: rest)

end Ranges

end Passbook.Text
