/-!
# Powers

Powers of the two bases that numbers are written in: two for the fields of
words, and ten for decimal places.

## Main definitions

* `twoTo`, `tenTo`: The powers.
-/

namespace PrintBridge

/-- A power of two. -/
def twoTo (n : Nat) : Nat := Nat.pow 2 n

/-- A power of ten. -/
def tenTo (n : Nat) : Nat := Nat.pow 10 n

end PrintBridge
