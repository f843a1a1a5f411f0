import PrintBridge.Number.Power

/-!
# Doubles as Bit Patterns

A double is kept as its sixty-four bits. The bits are what identity compares
and what the answers show, and every operation the bridge needs on a double
is a question about its fields: is it a number, which number is it, what does
widening a single give. Arithmetic is never needed, so none is defined.

A finite double stands for `significand * 2 ^ power`, with the sign apart.
The two fields are chosen so that the formula holds for subnormal and normal
patterns alike.

## Main definitions

* `Double`: A bit pattern.
* `Single`: A bit pattern of half that width.
* `Double.significand`, `Double.power`: The magnitude of a finite double.
* `Double.ieeeEq`: Comparison as numbers: zeros of either sign agree, and no
  NaN equals anything.
* `Double.ofSingle`: Widening of a single, always exact.

## Theorems

* `bits_inj`: A double is its bits.
* `ieeeEq_self_iff`: A double equals itself unless it is a NaN.
-/

namespace PrintBridge

/-- A binary floating-point number of sixty-four bits, told apart by its bits
    alone. -/
structure Double where
  bits : UInt64
deriving DecidableEq

/-- A binary floating-point number of thirty-two bits. -/
structure Single where
  bits : UInt32
deriving DecidableEq

namespace Double

theorem bits_inj {x y : Double} : x.bits = y.bits ↔ x = y := by
  rcases x with ⟨bits⟩
  rcases y with ⟨bits'⟩
  rw [Double.mk.injEq]

/-- Whether the sign bit is set. A zero or a NaN can be negative too. -/
def negative (d : Double) : Bool := twoTo 63 ≤ d.bits.toNat

/-- The eleven exponent bits. -/
def exponent (d : Double) : Nat := d.bits.toNat / twoTo 52 % twoTo 11

/-- The fifty-two fraction bits. -/
def fraction (d : Double) : Nat := d.bits.toNat % twoTo 52

/-- All exponent bits set and a nonzero fraction. -/
def isNaN (d : Double) : Bool := d.exponent == 2047 && d.fraction != 0

/-- All exponent bits set and a zero fraction. -/
def isInfinite (d : Double) : Bool := d.exponent == 2047 && d.fraction == 0

/-- A zero of either sign. -/
def isZero (d : Double) : Bool := d.exponent == 0 && d.fraction == 0

/-- The integer that the power of two multiplies. A normal pattern carries a
    leading one that is not stored. -/
def significand (d : Double) : Nat :=
  if d.exponent = 0 then d.fraction else twoTo 52 + d.fraction

/-- The power of two of the last significand bit. Subnormals share the power
    of the smallest normals. -/
def power (d : Double) : Int := (max d.exponent 1 : Nat) - 1075

/-- Comparison as numbers. -/
def ieeeEq (a b : Double) : Bool :=
  !a.isNaN && !b.isNaN && (a == b || (a.isZero && b.isZero))

/-- A double equals itself as a number exactly when it is one. -/
theorem ieeeEq_self_iff (d : Double) : d.ieeeEq d = true ↔ d.isNaN = false := by
  simp only [ieeeEq, BEq.rfl, Bool.true_or, Bool.and_true, Bool.and_self,
    Bool.not_eq_true']

/-- The double with the given sign and the given bits below it. -/
def signed (negative : Bool) (magnitude : Nat) : Double :=
  ⟨UInt64.ofNat (if negative then twoTo 63 + magnitude else magnitude)⟩

/-- Widening a single. Every single is also a double: infinities keep their
    place, a subnormal single becomes a normal double, and a NaN keeps its
    payload but comes out quiet. -/
def ofSingle (single : Single) : Double :=
  let bits := single.bits.toNat
  let negative := decide (twoTo 31 ≤ bits)
  let exponent := bits / twoTo 23 % twoTo 8
  let fraction := bits % twoTo 23
  if exponent = 255 then
    if fraction = 0 then signed negative (2047 * twoTo 52)
    else signed negative (2047 * twoTo 52 + (fraction * twoTo 29 ||| twoTo 51))
  else if exponent = 0 then
    if fraction = 0 then signed negative 0
    else
      -- The leading bit at place `top` becomes the hidden one.
      let top := fraction.log2
      signed negative ((top + 874) * twoTo 52 + (fraction - twoTo top) * twoTo (52 - top))
  else signed negative ((exponent + 896) * twoTo 52 + fraction * twoTo 29)

end Double

end PrintBridge
