import PrintBridge.Number.Numeral
import PrintBridge.Text.Escape
import PrintBridge.Value.Basic

/-!
# Literals

The values that words of the command line stand for. A literal is a keyword,
a character between single quotes, an object handle behind `@`, an integer
with or without the suffix of a long, or a decimal fraction. Whatever is none
of these is a text, with one pair of double quotes around it taken off and
its escapes expanded, so every word has a value and no quoting is forced on
plain text.

Each form has a recogniser of its own, and a literal is read by the first
that accepts it. An integer without suffix is an int where it fits and a long
otherwise.

## Main definitions

* `Literal.keyword?`, `character?`, `handle?`, `longInteger?`, `integer?`,
  `fraction?`: The recognisers.
* `Literal.read`: The value of a literal.

## Theorems

* `integer?_range`: What is read as an integer is in the range of a long.
-/

namespace PrintBridge

namespace Literal

/-- The words with a meaning of their own. -/
def keyword? (s : String) : Option Value :=
  if s = "null" then some .null
  else if s = "true" then some (.bool true)
  else if s = "false" then some (.bool false)
  else none

/-- What stands between two occurrences of a quote at the ends of a text. -/
def enclosed? (quote : Char) : List Char → Option (List Char)
  | [] => none
  | c :: rest => if c = quote ∧ rest.getLast? = some quote then some rest.dropLast else none

/-- The one character between single quotes, escapes expanded. -/
def character? (cs : List Char) : Option Char :=
  (enclosed? '\'' cs).bind fun inner =>
    match Text.expandChars inner with
    | [c] => some c
    | _ => none

/-- The word that hexadecimal digits behind their mark denote. The digits may
    be preceded by a plus sign. -/
def hexadecimal? : List Char → Option Nat
  | '0' :: x :: digits =>
    if x = 'x' ∨ x = 'X' then (Numeral.plusNatural? 16 digits).filter (· < twoTo 64) else none
  | _ => none

/-- The address behind `@`. -/
def handle? : List Char → Option Nat
  | '@' :: rest => hexadecimal? rest
  | _ => none

/-- The magnitude of an integer: hexadecimal digits behind their mark or
    decimal digits, no more than the largest long. -/
def magnitude? (cs : List Char) : Option Nat :=
  (match hexadecimal? cs with
  | some n => some n
  | none => Numeral.natural? 10 cs).filter (· < twoTo 63)

/-- A magnitude with an optional minus sign before it. -/
def integer? : List Char → Option Int
  | '-' :: rest => (magnitude? rest).map fun n : Nat => -(n : Int)
  | cs => (magnitude? cs).map Int.ofNat

/-- An integer with the suffix of a long. -/
def longInteger? (cs : List Char) : Option Int :=
  match cs.getLast? with
  | some c => if c = 'L' ∨ c = 'l' then integer? cs.dropLast else none
  | none => none

/-- Whether a text opens like a number and has a digit. This keeps the names
    of infinity and of no number out. -/
def looksNumeric (cs : List Char) : Bool :=
  let body := match cs with
    | '-' :: rest => rest
    | _ => cs
  (body.head?.any fun c => c.isDigit || c == '.') && body.any Char.isDigit

/-- A decimal fraction. -/
def fraction? (cs : List Char) : Option Double :=
  if looksNumeric cs then Numeral.double? cs else none

/-- An integer as a value: an int where it fits and a long otherwise. -/
def ofInteger (n : Int) : Value :=
  if -(twoTo 31 : Int) ≤ n ∧ n < twoTo 31 then .int (Int32.ofInt n) else .long (Int64.ofInt n)

/-- A text without one pair of double quotes around it, escapes expanded. -/
def readText (cs : List Char) : String :=
  String.ofList (Text.expandChars ((enclosed? '"' cs).getD cs))

/-- The value of a literal. -/
def read (s : String) : Value :=
  let cs := s.toList
  match keyword? s with
  | some v => v
  | none => match character? cs with
  | some c => .char c
  | none => match handle? cs with
  | some a => .object (UInt64.ofNat a)
  | none => match longInteger? cs with
  | some n => .long (Int64.ofInt n)
  | none => match integer? cs with
  | some n => ofInteger n
  | none => match fraction? cs with
  | some d => .double d
  | none => .string (readText cs)

theorem magnitude?_lt {cs : List Char} {n : Nat} (h : magnitude? cs = some n) : n < twoTo 63 := by
  simp only [magnitude?, Option.filter_eq_some_iff, decide_eq_true_eq] at h
  exact h.2

/-- What is read as an integer lies strictly between the least long and the
    number above the largest. -/
theorem integer?_range {cs : List Char} {n : Int} (h : integer? cs = some n) :
    -(twoTo 63 : Int) < n ∧ n < twoTo 63 := by
  unfold integer? at h
  split at h
  · rcases Option.map_eq_some_iff.1 h with ⟨m, hm, rfl⟩
    have := magnitude?_lt hm
    omega
  · rcases Option.map_eq_some_iff.1 h with ⟨m, hm, rfl⟩
    have := magnitude?_lt hm
    simp only [Int.ofNat_eq_natCast]
    omega

end Literal

end PrintBridge
