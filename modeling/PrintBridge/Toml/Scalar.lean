import PrintBridge.Toml.Lexeme
import PrintBridge.Toml.Table

/-!
# Scalars of TOML

Numbers, truth values, dates and times. None of them can be followed directly
by a character that scalars are made of, so a scalar is a whole run of such
characters; only a date may be followed by a blank and a time.

Underscores stand between digits. A decimal integer has no zero in front of
other digits, and every integer fits a long. A float has an exponent or
digits behind its point, and one too large for a double is refused unless it
is negative.

## Main definitions

* `digitRun?`: Digits with underscores between them.
* `integer?`, `float?`, `isMoment`: Numbers, and dates with times.
* `token?`: A scalar.
-/

namespace PrintBridge

namespace Toml

/-- The digits of a run in which underscores may stand between digits. -/
def digitRun? (isDigit : Char → Bool) : List Char → Option (List Char)
  | [] => none
  | [c] => if isDigit c then some [c] else none
  | c :: '_' :: rest => if isDigit c then (digitRun? isDigit rest).map (c :: ·) else none
  | c :: rest => if isDigit c then (digitRun? isDigit rest).map (c :: ·) else none

/-- The digits of a decimal whole number, which has no needless zero. -/
def wholeRun? (cs : List Char) : Option (List Char) :=
  (digitRun? Char.isDigit cs).filter fun digits => digits.head? != some '0' || cs.length == 1

/-- A sign in front of the rest. -/
def splitSign : List Char → Bool × List Char
  | '-' :: rest => (true, rest)
  | '+' :: rest => (false, rest)
  | cs => (false, cs)

/-- An integer behind the mark of its base, with no sign. -/
def based? (base : Nat) (digits : List Char) : Option Int :=
  ((digitRun? (fun c => (Numeral.digit? base c).isSome) digits).bind
    (Numeral.natural? base)).bind fun n => if n < twoTo 63 then some (n : Int) else none

/-- A decimal integer. -/
def decimal? (cs : List Char) : Option Int :=
  let (negative, body) := splitSign cs
  (wholeRun? body).bind fun digits =>
    (Numeral.natural? 10 digits).bind fun n =>
      let value : Int := if negative then -(n : Int) else n
      if -(twoTo 63 : Int) ≤ value ∧ value < twoTo 63 then some value else none

/-- An integer. -/
def integer? : List Char → Option Int
  | '0' :: 'x' :: digits => based? 16 digits
  | '0' :: 'o' :: digits => based? 8 digits
  | '0' :: 'b' :: digits => based? 2 digits
  | cs => decimal? cs

/-- Whether a character opens an exponent. -/
def isExponentMark (c : Char) : Bool := c == 'e' || c == 'E'

/-- The digits and the sign of an exponent, behind its mark. -/
def exponentRun? (cs : List Char) : Option (List Char) :=
  let digits := digitRun? Char.isDigit (splitSign cs).2
  if (splitSign cs).1 then digits.map ('-' :: ·) else digits

/-- A number with digits behind its point, an exponent, or both, in a plain
    spelling. -/
def floatSpelling? (body : List Char) : Option (List Char) := do
  let mantissa := body.takeWhile fun c => !isExponentMark c
  let exponent := body.dropWhile fun c => !isExponentMark c
  let whole ← wholeRun? (mantissa.takeWhile (· != '.'))
  let places ← match mantissa.dropWhile (· != '.') with
    | [] => some []
    | _ :: rest => (digitRun? Char.isDigit rest).map ('.' :: ·)
  let shift ← match exponent with
    | [] => some []
    | _ :: rest => (exponentRun? rest).map ('e' :: ·)
  if places.isEmpty && shift.isEmpty then none else some (whole ++ places ++ shift)

/-- The infinity of the given sign. -/
def infinity (negative : Bool) : Double := Double.signed negative (2047 * twoTo 52)

/-- A float. -/
def float? (cs : List Char) : Option Double :=
  let (negative, body) := splitSign cs
  if body = "inf".toList then some (infinity negative)
  else if body = "nan".toList then some (Double.signed negative (4095 * twoTo 51))
  else
    (floatSpelling? body).bind fun spelling =>
      (Numeral.double? (if negative then '-' :: spelling else spelling)).filter
        (· != infinity false)

/-- Two digits within bounds, and what is left behind them. -/
def twoDigits? (low high : Nat) : List Char → Option (Nat × List Char)
  | a :: b :: rest =>
    (Numeral.natural? 10 [a, b]).bind fun n =>
      if low ≤ n ∧ n ≤ high then some (n, rest) else none
  | _ => none

/-- What is left behind a character. -/
def expect? (c : Char) : List Char → Option (List Char)
  | d :: rest => if c = d then some rest else none
  | [] => none

/-- How many days a month has. -/
def daysIn (year month : Nat) : Nat :=
  if month = 2 then
    if year % 4 = 0 ∧ (year % 100 ≠ 0 ∨ year % 400 = 0) then 29 else 28
  else if month ∈ [4, 6, 9, 11] then 30
  else 31

/-- What is left behind a date. -/
def date? (cs : List Char) : Option (List Char) := do
  let year ← Numeral.natural? 10 (cs.take 4)
  let rest ← expect? '-' (cs.drop 4)
  let (month, rest) ← twoDigits? 1 12 rest
  let rest ← expect? '-' rest
  let (_, rest) ← twoDigits? 1 (daysIn year month) rest
  return rest

/-- What is left behind a time of day. The sixty-first second is allowed for,
    and a fraction of a second may have any number of digits. -/
def time? (cs : List Char) : Option (List Char) := do
  let (_, rest) ← twoDigits? 0 23 cs
  let rest ← expect? ':' rest
  let (_, rest) ← twoDigits? 0 59 rest
  let rest ← expect? ':' rest
  let (_, rest) ← twoDigits? 0 60 rest
  match rest with
  | '.' :: fraction =>
    if (fraction.head?.any Char.isDigit) then some (fraction.dropWhile Char.isDigit) else none
  | _ => some rest

/-- Whether the text is a time zone or nothing. -/
def isOffset : List Char → Bool
  | [] => true
  | [c] => c == 'Z' || c == 'z'
  | sign :: rest =>
    (sign == '+' || sign == '-') &&
      (((twoDigits? 0 23 rest).bind fun p => expect? ':' p.2).bind (twoDigits? 0 59)).any
        fun p => p.2.isEmpty

/-- Whether the text is a time with an optional zone. -/
def isZonedTime (cs : List Char) : Bool := (time? cs).any isOffset

/-- Whether the text is a date with an optional time behind its mark, or a
    time of day. -/
def isMoment (cs : List Char) : Bool :=
  match date? cs with
  | some [] => true
  | some (mark :: rest) => (mark == 'T' || mark == 't') && isZonedTime rest
  | none => (time? cs).any List.isEmpty

/-- The scalar that a run of characters spells. -/
def ofToken? (token : List Char) : Option Node :=
  if token = "true".toList then some (.boolean true)
  else if token = "false".toList then some (.boolean false)
  else if isMoment token then some .datetime
  else match float? token with
  | some d => some (.float d)
  | none => (integer? token).map .integer

/-- A character that scalars are made of. -/
def isTokenChar (c : Char) : Bool :=
  c.isAlphanum || c == '_' || c == '-' || c == '+' || c == '.' || c == ':'

/-- A scalar. -/
def token? : Reader Node := fun cs =>
  let token := cs.takeWhile isTokenChar
  let rest := cs.dropWhile isTokenChar
  let later := rest.drop 1
  -- A blank instead of a mark between date and time.
  if (date? token).any List.isEmpty && rest.head? == some ' ' &&
      isZonedTime (later.takeWhile isTokenChar) then
    some (.datetime, later.dropWhile isTokenChar)
  else (ofToken? token).map (·, rest)

end Toml

end PrintBridge
