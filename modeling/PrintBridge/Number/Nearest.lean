import PrintBridge.Number.Shortest

/-!
# Nearest Double

The double nearest to a decimal, ties going to the even significand. The
quotient is formed exactly and rounded once, to as many bits as the target
has at that size, so that subnormals need no second rounding.

The bits below the sign are consecutive: the largest significand of one power
is followed by the smallest of the next. Rounding up past the last
significand therefore carries into the exponent by plain addition, and past
the last exponent into infinity.

## Main definitions

* `roundHalfEven`: A quotient rounded to the nearest integer.
* `Double.nearest`: The double nearest to a decimal.
-/

namespace PrintBridge

/-- The integer nearest to a quotient, and of two equally near the even one. -/
def roundHalfEven (num den : Nat) : Nat :=
  let low := num / den
  let rest := num % den
  if 2 * rest < den then low
  else if den < 2 * rest then low + 1
  else low + low % 2

namespace Double

/-- The bits below the sign of the double nearest to a positive quotient. -/
def nearestMagnitude (num den : Nat) : Nat :=
  let guess : Int := num.log2 - den.log2
  -- The true binary exponent is the guess or one less.
  let reaches := decide (den * twoTo guess.toNat ≤ num * twoTo (-guess).toNat)
  let top := if reaches then guess else guess - 1
  let power := max (top - 52) (-1074)
  let significand := roundHalfEven (num * twoTo (-power).toNat) (den * twoTo power.toNat)
  min ((power + 1074).toNat * twoTo 52 + significand) (2047 * twoTo 52)

/-- The double nearest to a decimal with the given sign. A number whose first
    digit stands beyond the range is settled by its place alone, so that a
    huge exponent is never raised. -/
def nearest (negative : Bool) (d : Decimal) : Double :=
  let place := Decimal.digitCount d.digits + d.scale
  let magnitude :=
    if d.digits = 0 then 0
    else if 400 < place then 2047 * twoTo 52
    else if place < -400 then 0
    else nearestMagnitude (d.digits * tenTo d.scale.toNat) (tenTo (-d.scale).toNat)
  signed negative magnitude

end Double

end PrintBridge
