import PrintBridge.Format.Conversion

/-!
# Format Directives

A format is literal bytes with directives among them. A directive opens with
a percent sign and says, in this order: optionally which argument it renders,
flags, a least width, a precision behind a point, a length, and a conversion.
Width and precision can be arguments themselves.

Reading a format depends on nothing but its bytes and always succeeds. What
is out of the ordinary in a directive is noted while it is read, and what
follows from it is for rendering to say. Only the first such thing is noted,
since it is the one that a reader from left to right runs into.

## Main definitions

* `Oddity`: What may be out of the ordinary in a directive.
* `Directive`: A directive.
* `Piece`: A literal byte or a directive.
* `Piece.readAll`: The pieces of a format.

## Theorems

* `readDirective_length`: Reading a directive consumes no more than there is.
-/

namespace PrintBridge

namespace Format

/-- The flags of a directive. -/
structure Flags where
  left : Bool := false
  plus : Bool := false
  space : Bool := false
  alternate : Bool := false
  zero : Bool := false
  grouped : Bool := false
  localDigits : Bool := false
deriving DecidableEq

/-- The flags after one more flag character. A field that is filled from the
    right cannot be filled with zeros. -/
def Flags.add? (f : Flags) : Char → Option Flags
  | '-' => some { f with left := true, zero := false }
  | '+' => some { f with plus := true }
  | ' ' => some { f with space := true }
  | '#' => some { f with alternate := true }
  | '0' => some { f with zero := !f.left }
  | '\'' => some { f with grouped := true }
  | 'I' => some { f with localDigits := true }
  | _ => none

/-- A width or a precision. -/
inductive Amount where
  | absent
  | fixed (number : Nat)
  /-- Taken from the argument with the given place, or from the next one. -/
  | argument (place : Option Nat)
deriving DecidableEq

/-- What may be out of the ordinary in a directive. -/
inductive Oddity where
  /-- It names the place of an argument. -/
  | placed
  /-- A number in it is larger than an int. -/
  | tooLarge
  /-- The format ends inside it. -/
  | unfinished
  /-- No rule knows its conversion, or not with its length. -/
  | unknown
deriving DecidableEq

/-- A directive. Places count from zero; without one the next argument is
    rendered. -/
structure Directive where
  place : Option Nat
  flags : Flags
  width : Amount
  precision : Amount
  length : Length
  /-- The conversion byte, absent where the format has ended. -/
  conversion : Option UInt8
  /-- What is first out of the ordinary. -/
  oddity : Option Oddity
deriving DecidableEq

/-- A literal byte or a directive. -/
inductive Piece where
  | literal (byte : UInt8)
  | directive (d : Directive)
deriving DecidableEq

/-- The largest number that an int holds. -/
def intMax : Nat := 2147483647

/-- A part of a directive, what is out of the ordinary in it, and the bytes
    behind it. -/
structure Reading (α : Type) where
  part : α
  oddity : Option Oddity
  rest : Bytes

/-- A run of digits in front of the rest. -/
def splitDigits : Bytes → Nat × Bytes
  | [] => (0, [])
  | bytes =>
    let digits := bytes.takeWhile fun b => (Char.ofUInt8 b).isDigit
    (digits.foldl (fun n b => n * 10 + (b.toNat - 48)) 0, bytes.drop digits.length)

/-- The bytes behind a dollar sign. -/
def afterDollar? : Bytes → Option Bytes
  | [] => none
  | b :: rest => if Char.ofUInt8 b = '$' then some rest else none

/-- A place in front of the rest: a number from one on with a dollar sign
    behind it. Anything else is left unread, but for a number that is too
    large: it names nothing, and is passed over with its sign. -/
def readPlace (bytes : Bytes) : Reading (Option Nat) :=
  match splitDigits bytes with
  | (0, _) => ⟨none, none, bytes⟩
  | (number + 1, behind) =>
    match afterDollar? behind with
    | none => ⟨none, none, bytes⟩
    | some rest =>
      if number < intMax then ⟨some number, some .placed, rest⟩
      else ⟨none, some .tooLarge, rest⟩

/-- The flags in front of the rest. -/
def readFlags (f : Flags) : Bytes → Flags × Bytes
  | [] => (f, [])
  | b :: rest =>
    match f.add? (Char.ofUInt8 b) with
    | some f' => readFlags f' rest
    | none => (f, b :: rest)

/-- The argument that an asterisk stands for, behind the asterisk. What names
    no place is left unread, and the next argument is taken. -/
def readArgument (bytes : Bytes) : Reading Amount :=
  if intMax < (splitDigits bytes).1 then ⟨.argument none, some .tooLarge, bytes⟩
  else
    let named := readPlace bytes
    match named.part with
    | some place => ⟨.argument (some place), some .placed, named.rest⟩
    | none => ⟨.argument none, none, bytes⟩

/-- A width or a precision in front of the rest: an asterisk, which may name
    a place, or a number, which is passed over if it is too large. Where
    neither stands, the amount is the one for nothing. -/
def readAmount (nothing : Amount) : Bytes → Reading Amount
  | [] => ⟨nothing, none, []⟩
  | b :: rest =>
    if Char.ofUInt8 b = '*' then readArgument rest
    else if (Char.ofUInt8 b).isDigit then
      let (number, behind) := splitDigits (b :: rest)
      if number ≤ intMax then ⟨.fixed number, none, behind⟩
      else ⟨.absent, some .tooLarge, behind⟩
    else ⟨nothing, none, b :: rest⟩

/-- A precision behind its point, where nothing stands for zero. -/
def readPrecision : Bytes → Reading Amount
  | [] => ⟨.absent, none, []⟩
  | b :: rest =>
    if Char.ofUInt8 b = '.' then readAmount (.fixed 0) rest else ⟨.absent, none, b :: rest⟩

/-- A length in front of the rest. -/
def readLength (bytes : Bytes) : Length × Bytes :=
  match bytes with
  | [] => (.int, [])
  | b :: rest =>
    let again := rest.head? == some b
    match Char.ofUInt8 b with
    | 'h' => if again then (.char, rest.drop 1) else (.short, rest)
    | 'l' => if again then (.long, rest.drop 1) else (.long, rest)
    | 'z' | 'Z' | 't' | 'j' => (.long, rest)
    | 'L' | 'q' => (.extended, rest)
    | _ => (.int, b :: rest)

/-- What is out of the ordinary in the end of a directive. -/
def ending (length : Length) : Option UInt8 → Option Oddity
  | none => some .unfinished
  | some b => if length.goesWith (Conversion.ofByte b) then none else some .unknown

/-- A directive behind its percent sign, and the bytes behind the directive. -/
def readDirective (bytes : Bytes) : Directive × Bytes :=
  let place := readPlace bytes
  let (flags, rest) := readFlags {} place.rest
  let width := readAmount .absent rest
  let precision := readPrecision width.rest
  let (length, rest) := readLength precision.rest
  let oddity := ((place.oddity.or width.oddity).or precision.oddity).or (ending length rest.head?)
  (⟨place.part, flags, width.part, precision.part, length, rest.head?, oddity⟩, rest.drop 1)

theorem splitDigits_length (bytes : Bytes) : (splitDigits bytes).2.length ≤ bytes.length := by
  cases bytes with
  | nil => exact Nat.le_refl 0
  | cons b rest =>
    simp only [splitDigits, List.length_drop]
    omega

theorem afterDollar?_length {bytes rest : Bytes} (h : afterDollar? bytes = some rest) :
    rest.length ≤ bytes.length := by
  cases bytes with
  | nil => exact absurd h (by simp only [afterDollar?, reduceCtorEq, not_false_eq_true])
  | cons b behind =>
    simp only [afterDollar?] at h
    split at h
    · injection h with h
      exact h ▸ Nat.le_succ _
    · exact absurd h (by simp only [reduceCtorEq, not_false_eq_true])

theorem readPlace_length (bytes : Bytes) : (readPlace bytes).rest.length ≤ bytes.length := by
  have hlen := splitDigits_length bytes
  simp only [readPlace]
  split
  · exact Nat.le_refl _
  · rename_i number behind hsplit
    rw [hsplit] at hlen
    split
    · exact Nat.le_refl _
    · rename_i rest hrest
      have hshort := Nat.le_trans (afterDollar?_length hrest) hlen
      split <;> exact hshort

theorem readFlags_length (f : Flags) (bytes : Bytes) :
    (readFlags f bytes).2.length ≤ bytes.length := by
  induction bytes generalizing f with
  | nil => exact Nat.le_refl 0
  | cons b rest ih =>
    simp only [readFlags]
    split
    · exact Nat.le_succ_of_le (ih _)
    · exact Nat.le_refl _

theorem readArgument_length (bytes : Bytes) :
    (readArgument bytes).rest.length ≤ bytes.length := by
  simp only [readArgument]
  split
  · exact Nat.le_refl _
  · split
    · exact readPlace_length bytes
    · exact Nat.le_refl _

theorem readAmount_length (nothing : Amount) (bytes : Bytes) :
    (readAmount nothing bytes).rest.length ≤ bytes.length := by
  cases bytes with
  | nil => exact Nat.le_refl 0
  | cons b rest =>
    have hdigits := splitDigits_length (b :: rest)
    simp only [readAmount]
    split
    · exact Nat.le_succ_of_le (readArgument_length rest)
    · split
      · split <;> exact hdigits
      · exact Nat.le_refl _

theorem readPrecision_length (bytes : Bytes) :
    (readPrecision bytes).rest.length ≤ bytes.length := by
  cases bytes with
  | nil => exact Nat.le_refl 0
  | cons b rest =>
    simp only [readPrecision]
    split
    · exact Nat.le_succ_of_le (readAmount_length _ rest)
    · exact Nat.le_refl _

theorem readLength_length (bytes : Bytes) : (readLength bytes).2.length ≤ bytes.length := by
  cases bytes with
  | nil => exact Nat.le_refl 0
  | cons b rest =>
    have hdrop : (rest.drop 1).length ≤ rest.length := by
      rw [List.length_drop]
      omega
    simp only [readLength]
    split
    · split
      · exact Nat.le_succ_of_le hdrop
      · exact Nat.le_succ _
    · split
      · exact Nat.le_succ_of_le hdrop
      · exact Nat.le_succ _
    all_goals simp only [List.length_cons]; omega

/-- Reading a directive consumes no more than there is. -/
theorem readDirective_length (bytes : Bytes) :
    (readDirective bytes).2.length ≤ bytes.length := by
  have l₁ := readPlace_length bytes
  have l₂ := readFlags_length {} (readPlace bytes).rest
  have l₃ := readAmount_length .absent (readFlags {} (readPlace bytes).rest).2
  have l₄ := readPrecision_length (readAmount .absent (readFlags {} (readPlace bytes).rest).2).rest
  have l₅ := readLength_length
    (readPrecision (readAmount .absent (readFlags {} (readPlace bytes).rest).2).rest).rest
  simp only [readDirective, List.length_drop]
  omega

namespace Piece

/-- The pieces of a format. -/
def readAll : Bytes → List Piece
  | [] => []
  | b :: rest =>
    if Char.ofUInt8 b = '%' then
      have := readDirective_length rest
      directive (readDirective rest).1 :: readAll (readDirective rest).2
    else literal b :: readAll rest
termination_by bytes => bytes.length
decreasing_by
  all_goals simp only [List.length_cons] at *; omega

end Piece

end Format

end PrintBridge
