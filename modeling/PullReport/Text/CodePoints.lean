/-!
# Sets of code points

A character class of the Unicode standard is data: a list of disjoint ranges in increasing order.
The classes themselves are in modules of their own; this one says what such a list contains.

## Main definitions

* `Text.CodePoints`: ranges of code points, both ends included, in increasing order.
* `Text.CodePoints.contains`: membership, which stops at the first range that lies above.
-/

namespace PullReport

namespace Text

/-- Ranges of code points with both ends included, disjoint and in increasing order. -/
abbrev CodePoints := List (Nat × Nat)

/-- Whether a code point lies in one of the ranges. Since the ranges increase, one that starts
above the code point ends the search. -/
def CodePoints.contains : CodePoints → Nat → Bool
  | [], _ => false
  | (lo, hi) :: rest, n => if n < lo then false else decide (n ≤ hi) || contains rest n

end Text

end PullReport
