import PrintBridge.Number.Nearest

/-!
# Reading Numerals

Numerals as text: digits in some base, and decimal fractions with an optional
exponent. Readers take the whole text or fail; none of them skips blanks.

## Main definitions

* `Numeral.digit?`: The value of a digit in any base up to sixteen.
* `Numeral.natural?`: A nonempty run of digits.
* `Numeral.double?`: A decimal fraction, rounded to the nearest double.
-/

namespace PrintBridge

namespace Numeral

/-- The value of a hexadecimal digit, in either case. -/
def hexDigit? (c : Char) : Option Nat :=
  if '0' ≤ c ∧ c ≤ '9' then some (c.toNat - '0'.toNat)
  else if 'a' ≤ c ∧ c ≤ 'f' then some (c.toNat - 'a'.toNat + 10)
  else if 'A' ≤ c ∧ c ≤ 'F' then some (c.toNat - 'A'.toNat + 10)
  else none

/-- The value of a digit in a base up to sixteen. -/
def digit? (base : Nat) (c : Char) : Option Nat :=
  (hexDigit? c).filter (· < base)

/-- The number that digits denote when read on from `acc`. -/
def digitsFrom? (base acc : Nat) : List Char → Option Nat
  | [] => some acc
  | c :: rest => (digit? base c).bind fun d => digitsFrom? base (acc * base + d) rest

/-- The number that a nonempty run of digits denotes. -/
def natural? (base : Nat) (cs : List Char) : Option Nat :=
  if cs.isEmpty then none else digitsFrom? base 0 cs

/-- A natural number that may be preceded by one plus sign. -/
def plusNatural? (base : Nat) : List Char → Option Nat
  | '+' :: rest => natural? base rest
  | cs => natural? base cs

/-- The exponent behind its mark: an optional sign and digits. -/
def exponent? : List Char → Option Int
  | '-' :: rest => (natural? 10 rest).map fun n : Nat => -(n : Int)
  | cs => (plusNatural? 10 cs).map Int.ofNat

/-- The decimal that digits, an optional point among them and an optional
    exponent denote. At least one digit must stand beside the point. -/
def decimal? (cs : List Char) : Option Decimal :=
  let whole := cs.takeWhile Char.isDigit
  let afterWhole := cs.dropWhile Char.isDigit
  let (places, rest) := match afterWhole with
    | '.' :: tail => (tail.takeWhile Char.isDigit, tail.dropWhile Char.isDigit)
    | tail => ([], tail)
  let shift : Option Int := match rest with
    | [] => some 0
    | mark :: tail => if mark = 'e' ∨ mark = 'E' then exponent? tail else none
  (natural? 10 (whole ++ places)).bind fun digits =>
    shift.map fun exponent => ⟨digits, exponent - places.length⟩

/-- The double nearest to a decimal fraction with an optional sign. -/
def double? : List Char → Option Double
  | '-' :: rest => (decimal? rest).map (Double.nearest true)
  | '+' :: rest => (decimal? rest).map (Double.nearest false)
  | cs => (decimal? cs).map (Double.nearest false)

end Numeral

end PrintBridge
