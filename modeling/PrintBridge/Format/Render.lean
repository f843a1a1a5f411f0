import PrintBridge.Format.Directive
import PrintBridge.Slot.Arena

/-!
# Rendering Formats

What a format renders to, given the words of a call. A directive reads as
many low bits of its word as its length says, and never more than one word;
texts are bytes, and their precision counts bytes.

Rendering is a list of segments, so that the length of a wide field is known
without writing it out. It fails where a wide character has no byte of its
own, and where the whole would be longer than an int can say.

Arguments are taken in order, directives that name a place apart. A format is
rendered directive by directive until one of them names a place or has an
unknown conversion. That one and all behind it are rendered with care: from
there on a number that is too large counts as left out, an unfinished
directive is shown like an unknown one, and the extended length is that of an
int. Before, a number that is too large and an unfinished directive are
failures, and the extended length is that of a long.

## Main definitions

* `Segment`: Bytes, or one byte many times.
* `Spec`: A directive whose width and precision are known.
* `Spec.render?`: What a directive renders to.
* `renderAll?`: What a format renders to.

## Theorems

* `Segment.flatMap_toBytes_length`: The length of segments is that of their
  bytes.
-/

namespace PrintBridge

namespace Format

/-- Bytes, or one byte many times. -/
inductive Segment where
  | bytes (content : Bytes)
  | fill (byte : UInt8) (count : Nat)
deriving DecidableEq

namespace Segment

/-- The bytes of a segment. -/
def toBytes : Segment → Bytes
  | bytes content => content
  | fill byte count => List.replicate count byte

/-- The number of bytes in a segment. -/
def length : Segment → Nat
  | bytes content => content.length
  | fill _ count => count

theorem bytes_length (s : Segment) : s.toBytes.length = s.length := by
  cases s with
  | bytes content => rfl
  | fill byte count => exact List.length_replicate

/-- The number of bytes in several segments. -/
def totalLength (segments : List Segment) : Nat :=
  segments.foldr (fun s rest => s.length + rest) 0

theorem flatMap_toBytes_length (segments : List Segment) :
    (segments.flatMap toBytes).length = totalLength segments := by
  induction segments with
  | nil => rfl
  | cons s rest ih =>
    rw [List.flatMap_cons, List.length_append, ih, bytes_length]
    rfl

/-- ASCII text as a segment. -/
def ascii (s : String) : Segment := .bytes (Utf8.encode s)

end Segment

/-- A directive whose width and precision are known. -/
structure Spec where
  flags : Flags
  width : Nat
  precision : Option Nat
  /-- How many bits of its word the directive reads. -/
  bits : Nat
  conversion : Option UInt8
deriving DecidableEq

namespace Spec

/-- Parts in a field of the given width, blanks on the side that the flags
    say. -/
def inField (s : Spec) (parts : List Segment) : List Segment :=
  let missing := s.width - Segment.totalLength parts
  let blanks := Segment.fill 32 missing
  if s.flags.left then parts ++ [blanks] else blanks :: parts

/-- The digits of a number in a base. No digit at all is shown for zero with
    precision zero, except that the alternate octal form always has one. The
    alternate octal form puts a zero in front of other numbers too, unless
    the precision does. -/
def digits (s : Spec) (base : Nat) (upper : Bool) (n : Nat) : List Char :=
  let octal := s.flags.alternate && base == 8
  if n = 0 ∧ s.precision = some 0 then if octal then ['0'] else []
  else
    let plain := Nat.toDigits base n
    let cased := if upper then plain.map Char.toUpper else plain
    if octal && n != 0 && decide (s.precision.getD 0 ≤ cased.length) then '0' :: cased
    else cased

/-- A number in its field: sign, base mark, zeros up to the precision, digits.
    The zero flag puts zeros between mark and digits, unless there is a
    precision. -/
def number (s : Spec) (sign mark : String) (digits : List Char) : List Segment :=
  let opening := Segment.ascii (sign ++ mark)
  let shown := Segment.ascii (String.ofList digits)
  let zeros := s.precision.getD 0 - digits.length
  let missing := s.width - (opening.length + zeros + shown.length)
  if s.flags.zero && !s.flags.left && s.precision.isNone then
    [opening, .fill 48 missing, shown]
  else s.inField [opening, .fill 48 zeros, shown]

/-- The sign of a number that may have one. -/
def sign (s : Spec) (negative : Bool) : String :=
  if negative then "-" else if s.flags.plus then "+" else if s.flags.space then " " else ""

/-- A signed number in decimal digits. -/
def signed (s : Spec) (word : UInt64) : List Segment :=
  let n := Int.bmod word.toNat (twoTo s.bits)
  s.number (s.sign (n < 0)) "" (s.digits 10 false n.natAbs)

/-- An unsigned number in some base, with the mark of the base in the
    alternate form of numbers other than zero. -/
def unsigned (s : Spec) (base : Nat) (mark : String) (upper : Bool) (word : UInt64) :
    List Segment :=
  let n := word.toNat % twoTo s.bits
  s.number "" (if s.flags.alternate && n != 0 then mark else "") (s.digits base upper n)

/-- Text up to the precision. -/
def text (s : Spec) (bytes : Bytes) : List Segment :=
  s.inField [.bytes (match s.precision with
    | none => bytes
    | some most => bytes.take most)]

/-- The text of the null address: shown whole or not at all. -/
def nullText (s : Spec) : List Segment :=
  if s.precision.all (6 ≤ ·) then s.inField [.ascii "(null)"] else s.inField []

/-- An address: hexadecimal with its mark, or a word of its own for null. -/
def address (s : Spec) (word : UInt64) : List Segment :=
  if word = 0 then s.inField [.ascii "(nil)"]
  else
    s.number (s.sign false) "0x" (s.digits 16 false word.toNat)

/-- A character. A wide one needs a code of its own among the single bytes. -/
def character? (s : Spec) (wide : Bool) (word : UInt64) : Option (List Segment) :=
  if wide && decide (0x7f < word.toNat % twoTo 32) then none
  else some (s.inField [.bytes [word.toUInt8]])

/-- A directive that no rule knows is shown in a normal form of its own. -/
def unknown (s : Spec) : List Segment :=
  let flag (set : Bool) (shown : String) := if set then shown else ""
  let width := if s.width = 0 then "" else s.width.repr
  let precision := match s.precision with
    | none => ""
    | some p => "." ++ p.repr
  [.ascii ("%" ++ flag s.flags.alternate "#" ++ flag s.flags.grouped "'"
      ++ (if s.flags.plus then "+" else flag s.flags.space " ")
      ++ flag s.flags.left "-" ++ flag s.flags.zero "0" ++ flag s.flags.localDigits "I"
      ++ width ++ precision),
    .bytes s.conversion.toList]

end Spec

/-- The bits of a word. The address of an owned text is not made of bits that
    a number could show. -/
def Word.number : Word → UInt64
  | .bits value => value
  | .text _ => 0

namespace Spec

/-- What a directive with the given conversion renders to. -/
def render? (s : Spec) (arena : Arena) (c : Conversion) (w : Word) : Option (List Segment) :=
  match c with
  | .percent => some [.ascii "%"]
  | .signed => some (s.signed (Word.number w))
  | .unsigned base mark upper => some (s.unsigned base mark upper (Word.number w))
  | .character wide => s.character? (wide || s.bits == 64) (Word.number w)
  | .text => some (if w = .bits 0 then s.nullText else s.text ((arena.read? w).getD []))
  | .address => some (s.address (Word.number w))
  | .status => some (s.text (Utf8.encode "Success"))
  | .unknown => some s.unknown

end Spec

/-- Where rendering stands. -/
structure Cursor where
  /-- The argument that is taken next. -/
  next : Nat
  /-- Whether rendering goes on with care. -/
  careful : Bool
deriving DecidableEq

/-- The word of the argument at a place. -/
def wordAt (words : List Word) (place : Nat) : Word := words[place]?.getD (.bits 0)

/-- The place that a directive takes, and the cursor behind it. -/
def Cursor.take (c : Cursor) : Option Nat → Nat × Cursor
  | some place => (place, c)
  | none => (c.next, { c with next := c.next + 1 })

/-- A width or a precision as a number, negative ones included. -/
def Amount.resolve (a : Amount) (words : List Word) (c : Cursor) : Option Int × Cursor :=
  match a with
  | .absent => (none, c)
  | .fixed number => (some number, c)
  | .argument place =>
    let (place, c) := c.take place
    (some (Int.bmod (Word.number (wordAt words place)).toNat (twoTo 32)), c)

/-- The cursor with which a directive is rendered, unless what is out of the
    ordinary in it is a failure. -/
def Cursor.admit? (c : Cursor) (d : Directive) : Option Cursor :=
  if c.careful then some c
  else match d.oddity with
    | none => some c
    | some .placed | some .unknown => some { c with careful := true }
    | some .tooLarge | some .unfinished => none

/-- The number of bits that a length stands for. -/
def Length.bits (careful : Bool) : Length → Nat
  | .char => 8
  | .short => 16
  | .int => 32
  | .long => 64
  | .extended => if careful then 32 else 64

/-- What a directive renders to, and the cursor behind it. A negative width
    means a field filled from the right, and a negative precision none. -/
def Directive.render? (d : Directive) (arena : Arena) (words : List Word) (c : Cursor) :
    Option (List Segment × Cursor) :=
  (c.admit? d).bind fun c =>
    let conversion := (d.conversion.map Conversion.ofByte).getD .unknown
    let (width, c) := d.width.resolve words c
    let (precision, c) := d.precision.resolve words c
    let width := width.getD 0
    let spec : Spec := {
      flags := { d.flags with left := d.flags.left || decide (width < 0) }
      width := width.natAbs
      precision := (precision.filter (0 ≤ ·)).map Int.toNat
      bits := d.length.bits c.careful
      conversion := d.conversion }
    let (place, c) := if conversion.takesArgument then c.take d.place else (0, c)
    (spec.render? arena conversion (wordAt words place)).map (·, c)

/-- What pieces render to from a cursor on. -/
def renderFrom? (arena : Arena) (words : List Word) (c : Cursor) :
    List Piece → Option (List Segment)
  | [] => some []
  | .literal b :: rest => (renderFrom? arena words c rest).map (.bytes [b] :: ·)
  | .directive d :: rest =>
    match d.render? arena words c with
    | none => none
    | some (shown, c) => (renderFrom? arena words c rest).map (shown ++ ·)

/-- What a format renders to. -/
def renderAll? (arena : Arena) (words : List Word) (format : Bytes) :
    Option (List Segment) :=
  (renderFrom? arena words ⟨0, false⟩ (Piece.readAll format)).filter fun segments =>
    Segment.totalLength segments ≤ intMax

end Format

end PrintBridge
