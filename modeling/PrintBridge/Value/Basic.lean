import PrintBridge.Number.Shortest
import PrintBridge.Text.Quoted

/-!
# Argument Values

The values that a print call accepts as arguments. Besides the immediate
kinds there are texts and objects; an object is known to the library by its
address alone and is never looked into.

Every value has a text, which is what the command line shows and what a
literal may be written from. The kinds stay apart in it: a long ends in `L`,
a character stands between single quotes and a text between double quotes,
and an address opens with `@`.

## Main definitions

* `Value`: An argument value.
* `Kind`, `Value.kind`: The kind of a value, for diagnostics.
* `Value.equals`: Equality as values, where doubles compare as numbers.
* `Value.text`: The text of a value.
-/

namespace PrintBridge

/-- An argument value. -/
inductive Value where
  | null
  | bool (truth : Bool)
  | char (character : Char)
  | int (number : Int32)
  | long (number : Int64)
  | double (number : Double)
  | string (text : String)
  | object (address : UInt64)
deriving DecidableEq

/-- The kinds of value. -/
inductive Kind where
  | null
  | bool
  | char
  | int
  | long
  | double
  | string
  | object
deriving DecidableEq

/-- The name of a kind, as diagnostics show it. -/
def Kind.name : Kind → String
  | .null => "null"
  | .bool => "boolean"
  | .char => "char"
  | .int => "int"
  | .long => "long"
  | .double => "double"
  | .string => "string"
  | .object => "object"

namespace Value

/-- The kind of a value. -/
def kind : Value → Kind
  | null => .null
  | bool _ => .bool
  | char _ => .char
  | int _ => .int
  | long _ => .long
  | double _ => .double
  | string _ => .string
  | object _ => .object

/-- Equality as values. Values of different kinds are never equal, and a
    double compares as a number, so that the two zeros are equal and a NaN
    differs even from itself. -/
def equals : Value → Value → Bool
  | double a, double b => a.ieeeEq b
  | a, b => a == b

/-- The text of a value. -/
def text : Value → String
  | null => "null"
  | bool true => "true"
  | bool false => "false"
  | char c => String.ofList ['\'', c, '\'']
  | int i => i.toInt.repr
  | long l => l.toInt.repr ++ "L"
  | double d => d.text
  | string s => Text.quote s
  | object a => "@0x" ++ String.ofList (Nat.toDigits 16 a.toNat)

end Value

end PrintBridge
