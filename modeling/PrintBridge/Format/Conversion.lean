import PrintBridge.Text.Utf8

/-!
# Conversions

What a directive of a format turns an argument into, and how much of the
argument it looks at. Both are written at the end of a directive: a length,
which may be left out, and one byte for the conversion.

## Main definitions

* `Length`: How much of its word a directive reads.
* `Conversion`: What it makes of that.
* `Length.goesWith`: Which conversions a length is made for.
-/

namespace PrintBridge

namespace Format

/-- How much of its word a directive reads. -/
inductive Length where
  | char
  | short
  | int
  | long
  /-- The length of wide real numbers, which says little about integers. -/
  | extended
deriving DecidableEq

/-- The conversions. -/
inductive Conversion where
  | percent
  | signed
  | unsigned (base : Nat) (mark : String) (upper : Bool)
  | character (wide : Bool)
  | text
  | address
  | status
  | unknown
deriving DecidableEq

namespace Conversion

/-- The conversion of a byte. -/
def ofByte (b : UInt8) : Conversion :=
  match Char.ofUInt8 b with
  | '%' => .percent
  | 'd' | 'i' => .signed
  | 'u' => .unsigned 10 "" false
  | 'o' => .unsigned 8 "" false
  | 'x' => .unsigned 16 "0x" false
  | 'X' => .unsigned 16 "0X" true
  | 'b' => .unsigned 2 "0b" false
  | 'B' => .unsigned 2 "0B" false
  | 'c' => .character false
  | 'C' => .character true
  | 's' | 'S' => .text
  | 'p' => .address
  | 'm' => .status
  | _ => .unknown

/-- Whether the conversion takes an argument. -/
def takesArgument : Conversion → Bool
  | percent => false
  | status => false
  | unknown => false
  | _ => true

end Conversion

/-- Whether a length goes with a conversion. Half an int is a length for
    numbers alone, though a lone percent sign does not mind it. -/
def Length.goesWith : Length → Conversion → Bool
  | _, .unknown => false
  | .short, .character _ | .short, .text | .short, .address | .short, .status => false
  | _, _ => true

end Format

end PrintBridge
