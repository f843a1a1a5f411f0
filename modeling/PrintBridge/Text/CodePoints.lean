/-!
# Sets of Code Points

The character classes of the Unicode standard are unions of a few hundred
ranges. Such a set is written as the increasing list of the code points at
which membership changes, the first of them opening the first range. A code
point belongs to the set when an odd number of changes lie at or below it.

## Main definitions

* `CodePoints`: A set given by its changes.
* `CodePoints.member`: Membership of a character.
-/

namespace PrintBridge

/-- A set of code points, given by the points where membership changes. -/
structure CodePoints where
  changes : List Nat

namespace CodePoints

/-- Whether a character belongs to the set. -/
def member (s : CodePoints) (c : Char) : Bool :=
  (s.changes.takeWhile (· ≤ c.toNat)).length % 2 == 1

end CodePoints

end PrintBridge
