/-!
# Sets of Characters

The sets that a pattern can ask a character to be in, put together from
ranges. A set is kept as it was put together, so membership can be read off,
and so can whether all its members are ASCII.

## Main definitions

* `CharSet`: A set of characters.
* `CharSet.contains`: Membership.
* `AsciiClass`: The classes of ASCII characters that have names.
-/

namespace PrintBridge

namespace Pattern

/-- How two sets can be combined. -/
inductive SetOperation where
  | intersection
  | difference
  | symmetricDifference
deriving DecidableEq

namespace SetOperation

/-- Whether the combination has a character, from whether the two sets do. -/
def holds : SetOperation → Bool → Bool → Bool
  | intersection, a, b => a && b
  | difference, a, b => a && !b
  | symmetricDifference, a, b => a != b

end SetOperation

/-- A set of characters. -/
inductive CharSet where
  | nothing
  | range (first last : Char)
  | union (a b : CharSet)
  | combined (op : SetOperation) (a b : CharSet)
  | complement (a : CharSet)
  /-- The set with both cases of each of its ASCII letters. -/
  | folded (a : CharSet)
deriving DecidableEq

namespace CharSet

/-- An ASCII letter in the other case, and every other character as it is. -/
def otherCase (c : Char) : Char := if c.isUpper then c.toLower else c.toUpper

/-- Membership. -/
def contains : CharSet → Char → Bool
  | nothing, _ => false
  | range first last, c => decide (first ≤ c) && decide (c ≤ last)
  | union a b, c => a.contains c || b.contains c
  | combined op a b, c => op.holds (a.contains c) (b.contains c)
  | complement a, c => !a.contains c
  | folded a, c => a.contains c || a.contains (otherCase c)

/-- Whether it can be read off the set that all members are ASCII. -/
def isAscii : CharSet → Bool
  | nothing => true
  | range _ last => decide (last.toNat < 128)
  | union a b => a.isAscii && b.isAscii
  | combined .intersection a b => a.isAscii || b.isAscii
  | combined .difference a _ => a.isAscii
  | combined .symmetricDifference a b => a.isAscii && b.isAscii
  | complement _ => false
  | folded a => a.isAscii

/-- One character. -/
def single (c : Char) : CharSet := range c c

/-- Several sets as one. -/
def all (sets : List CharSet) : CharSet := sets.foldr union nothing

/-- The number of runs in which the ASCII members follow each other. -/
def runs (a : CharSet) : Nat :=
  let member (n : Nat) : Bool := a.contains (Char.ofNat n)
  ((List.range 128).filter fun n => member n && (n == 0 || !member (n - 1))).length

end CharSet

/-- The classes of ASCII characters that have names. -/
inductive AsciiClass where
  | alnum
  | alpha
  | ascii
  | blank
  | cntrl
  | digit
  | graph
  | lower
  | print
  | punct
  | space
  | upper
  | word
  | xdigit
deriving DecidableEq

namespace AsciiClass

/-- The classes by name. -/
def named : List (String × AsciiClass) :=
  [("alnum", alnum), ("alpha", alpha), ("ascii", ascii), ("blank", blank), ("cntrl", cntrl),
    ("digit", digit), ("graph", graph), ("lower", lower), ("print", print), ("punct", punct),
    ("space", space), ("upper", upper), ("word", word), ("xdigit", xdigit)]

/-- The ranges of a class. -/
def ranges : AsciiClass → List (Char × Char)
  | alnum => [('0', '9'), ('A', 'Z'), ('a', 'z')]
  | alpha => [('A', 'Z'), ('a', 'z')]
  | ascii => [('\x00', '\x7f')]
  | blank => [('\t', '\t'), (' ', ' ')]
  | cntrl => [('\x00', '\x1f'), ('\x7f', '\x7f')]
  | digit => [('0', '9')]
  | graph => [('!', '~')]
  | lower => [('a', 'z')]
  | print => [(' ', '~')]
  | punct => [('!', '/'), (':', '@'), ('[', '\x60'), ('\x7b', '~')]
  | space => [('\t', '\r'), (' ', ' ')]
  | upper => [('A', 'Z')]
  | word => [('0', '9'), ('A', 'Z'), ('_', '_'), ('a', 'z')]
  | xdigit => [('0', '9'), ('A', 'F'), ('a', 'f')]

/-- The members of a class. -/
def members (k : AsciiClass) : CharSet :=
  CharSet.all (k.ranges.map fun r => .range r.1 r.2)

end AsciiClass

end Pattern

end PrintBridge
