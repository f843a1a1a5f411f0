import PrintBridge.Number.Double

/-!
# Shortest Decimal Text

The text of a double is the shortest decimal that reads back as the same
double, and of several that short the one nearest to it.

The reals that read as a double form an interval around it, bounded by the
midpoints to its two neighbours; the ends belong to it exactly when the
significand is even, because a tie goes to the even neighbour. If any decimal
with `n` digits lies in the interval then one of the two that enclose the
double itself does, so it is enough to try those two for each `n` in turn.
All of it is exact arithmetic on natural numbers over one common denominator.

Numbers are written positionally whatever their size, so there is no exponent
mark to choose and the only freedom left is the digits.

## Main definitions

* `Decimal`: Digits with a power of ten.
* `Rounding`: A finite positive double with the interval that reads as it.
* `Rounding.shortest`: The shortest decimal in the interval.
* `Double.text`: The text of a double.
-/

namespace PrintBridge

/-- The number `digits * 10 ^ scale`. -/
structure Decimal where
  digits : Nat
  scale : Int
deriving DecidableEq

namespace Decimal

/-- How many decimal digits a number has; zero has none. -/
def digitCount (n : Nat) : Nat :=
  if n = 0 then 0 else digitCount (n / 10) + 1
termination_by n
decreasing_by omega

/-- The same number without zeros at the end of its digits. -/
def trim (d : Decimal) : Decimal :=
  if d.digits = 0 then ⟨0, 0⟩
  else if d.digits % 10 = 0 then trim ⟨d.digits / 10, d.scale + 1⟩
  else d
termination_by d.digits
decreasing_by omega

/-- Positional notation: all digits are written out, and there is a point only
    where digits stand behind it. -/
def positional (d : Decimal) : String :=
  let shown := Nat.toDigits 10 d.digits
  match d.scale with
  | .ofNat zeros => String.ofList (shown ++ List.replicate zeros '0')
  | .negSucc places =>
    let padded := List.replicate (places + 2 - shown.length) '0' ++ shown
    let whole := padded.length - (places + 1)
    String.ofList (padded.take whole ++ '.' :: padded.drop whole)

end Decimal

/-- A positive double and the interval of reals that round to it, all three
    over one denominator. -/
structure Rounding where
  low : Nat
  value : Nat
  high : Nat
  denominator : Nat
  /-- Whether the ends of the interval belong to it. -/
  closed : Bool

namespace Rounding

/-- The interval of a finite nonzero double. The gap below a power of two is
    half as wide as the gap above it, except at the bottom of the range. -/
def ofDouble (d : Double) : Rounding :=
  let m := d.significand
  let gapBelow := if d.fraction = 0 ∧ 1 < d.exponent then 1 else 2
  let up := twoTo (d.power - 2).toNat
  { low := (4 * m - gapBelow) * up
    value := 4 * m * up
    high := (4 * m + 2) * up
    denominator := twoTo (2 - d.power).toNat
    closed := m % 2 == 0 }

/-- The least power of ten above the value. -/
def ceilingPower (r : Rounding) : Int :=
  if r.denominator ≤ r.value then Decimal.digitCount (r.value / r.denominator)
  else 1 - (Decimal.digitCount ((r.denominator + r.value - 1) / r.value - 1) : Int)

/-- The decimals on the grid of `10 ^ scale` that enclose the value and lie in
    the interval, the nearer first; of two at the same distance the larger is
    first. -/
def candidates (r : Rounding) (scale : Int) : List Nat :=
  let down := tenTo (-scale).toNat
  let unit := r.denominator * tenTo scale.toNat
  let value := r.value * down
  let inside (digits : Nat) : Bool :=
    let point := digits * unit
    if r.closed then decide (r.low * down ≤ point) && decide (point ≤ r.high * down)
    else decide (r.low * down < point) && decide (point < r.high * down)
  let below := value / unit
  let ordered :=
    if 2 * (value % unit) < unit then [below, below + 1] else [below + 1, below]
  ordered.filter inside

/-- The shortest decimal in the interval with at most `fuel` more digits than
    `digits`. Seventeen digits always suffice for a double. -/
def shortestFrom (r : Rounding) (digits : Nat) : Nat → Decimal
  | 0 => ⟨r.value / r.denominator, 0⟩
  | fuel + 1 =>
    let scale := r.ceilingPower - digits
    match r.candidates scale with
    | best :: _ => (Decimal.mk best scale).trim
    | [] => shortestFrom r (digits + 1) fuel

/-- The shortest decimal in the interval. -/
def shortest (r : Rounding) : Decimal := r.shortestFrom 1 17

end Rounding

namespace Double

/-- The text of a double: the shortest decimal that reads back as it, in
    positional notation. A zero keeps its sign and a NaN shows none. -/
def text (d : Double) : String :=
  if d.isNaN then "NaN"
  else
    let magnitude :=
      if d.isInfinite then "inf"
      else if d.isZero then "0"
      else (Rounding.ofDouble d).shortest.positional
    if d.negative then "-" ++ magnitude else magnitude

end Double

end PrintBridge
