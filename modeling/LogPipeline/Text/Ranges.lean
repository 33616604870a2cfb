/-!
# Sets of characters given by code point ranges

`Ranges` is an ascending list of disjoint closed ranges; `contains` stops at the first range that
begins after the code point. The character classes of this library are values of this type.
-/

namespace LogPipeline.Text

/-- Closed ranges of code points, in ascending order and disjoint. -/
abbrev Ranges := List (Nat × Nat)

/-- Whether the code point lies in one of the ranges. -/
def Ranges.contains : Ranges → Nat → Bool
  | [], _ => false
  | (first, last) :: rest, point =>
    if point < first then false else point ≤ last || Ranges.contains rest point

end LogPipeline.Text
