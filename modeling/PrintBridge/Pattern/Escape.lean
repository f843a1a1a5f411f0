import PrintBridge.Pattern.Reader
import PrintBridge.Pattern.Tree

/-!
# Escapes in a Pattern

What a backslash makes of the characters behind it: a character that would
mean something else, or could not be typed, stands for itself; a letter
stands for a class of characters or for an assertion. Letters and digits
without a meaning are faults, so that they can be given one.

## Main definitions

* `Atom`: What stands by itself.
* `Atom.read`: Reading what stands by itself.
-/

namespace PrintBridge

namespace Pattern

/-- The smallest parts of a pattern. -/
inductive Atom where
  | literal (l : Literal)
  | dot (span : Span)
  | assertion (span : Span) (a : Assertion)
  | letter (span : Span) (negated : Bool) (members : LetterClass)
  | property (span : Span) (negated : Bool) (name : String)

namespace Atom

/-- Where an atom stands. -/
def span : Atom → Span
  | literal l => l.span
  | dot s => s
  | assertion s _ => s
  | letter s _ _ => s
  | property s _ _ => s

/-- An atom as a pattern. -/
def tree : Atom → Tree
  | literal l => .literal l
  | dot s => .dot s
  | assertion s a => .assertion s a
  | letter s negated members => .letter s negated members
  | property s negated name => .property s negated name

end Atom

/-- Characters that mean something of their own somewhere in a pattern. -/
def isMeta (c : Char) : Bool := "\\.+*?()|[]\x7b\x7d^$#&-~".toList.contains c

/-- Characters that stand for themselves when they are escaped: all of ASCII
    but letters, digits, and the angle brackets, which are assertions. -/
def isEscapable (c : Char) : Bool :=
  isMeta c || (decide (c.toNat < 128) && !c.isAlphanum && c != '<' && c != '>')

/-- Control characters by their letters. -/
def control? : Char → Option Char
  | 'a' => some '\x07'
  | 'f' => some '\x0c'
  | 't' => some '\t'
  | 'n' => some '\n'
  | 'r' => some '\r'
  | 'v' => some '\x0b'
  | _ => none

/-- Assertions by their letters. -/
def assertion? : Char → Option Assertion
  | 'A' => some .textStart
  | 'z' => some .textEnd
  | 'b' => some .wordBoundary
  | 'B' => some .noWordBoundary
  | '<' => some .wordStart
  | '>' => some .wordEnd
  | _ => none

/-- Assertions about words by the names they have between braces. -/
def namedAssertion? : String → Option Assertion
  | "start" => some .wordStart
  | "end" => some .wordEnd
  | "start-half" => some .wordStartHalf
  | "end-half" => some .wordEndHalf
  | _ => none

/-- Classes of characters by their letters, and whether they are negated. -/
def letterClass? : Char → Option (Bool × LetterClass)
  | 'd' => some (false, .digit)
  | 'D' => some (true, .digit)
  | 's' => some (false, .space)
  | 'S' => some (true, .space)
  | 'w' => some (false, .word)
  | 'W' => some (true, .word)
  | _ => none

/-- The value of a hexadecimal digit. -/
def hexValue? (c : Char) : Option Nat :=
  if '0' ≤ c ∧ c ≤ '9' then some (c.toNat - 48)
  else if 'a' ≤ c ∧ c ≤ 'f' then some (c.toNat - 87)
  else if 'A' ≤ c ∧ c ≤ 'F' then some (c.toNat - 55)
  else none

/-- The character with a code. -/
def character? (n : Nat) : Option Char :=
  if h : n.isValidChar then some (Char.ofNatAux n h) else none

namespace Reader

/-- A hexadecimal digit, and what is ignored behind it. -/
def hexDigit (c : Char) : Reader Nat :=
  match hexValue? c with
  | none => failNext .hexDigit
  | some digit => do
    move Cursor.advance Cursor.advance_length
    return digit

/-- So many hexadecimal digits behind those that have been read. -/
def hexDigits : Nat → Nat → Reader Nat
  | 0, number => return number
  | n + 1, number => do
    match ← peek with
    | none => failFrom (← here) .escapeUnfinished
    | some c => hexDigits n (number * 16 + (← hexDigit c))

/-- The literal with a code that was written behind some place. -/
def coded (escape digits : Place) (number : Nat) (stop : Place) (asByte : Bool) : Reader Atom :=
  match character? number with
  | none => fail .hexNoCharacter ⟨digits, stop⟩
  | some c => do return .literal ⟨⟨escape, ← here⟩, c, asByte⟩

/-- A code between braces. -/
def braced (escape : Place) : Reader Atom := do
  let brace ← here
  let digits := (← left).span.stop
  move Cursor.advance Cursor.advance_length
  let read ← loop (fun (read : Nat × Nat) => do
    match ← peek with
    | none => return none
    | some c =>
      if c = '\x7d' then return none
      else return some (read.1 * 16 + (← hexDigit c), read.2 + 1)) (0, 0)
  if (← peek).isNone then failFrom brace .escapeUnfinished
  else
    let stop ← here
    move Cursor.advance Cursor.advance_length
    if read.2 = 0 then failFrom brace .hexEmpty
    else coded escape digits read.1 stop false

/-- A character by its code, behind the letter that says how many digits it
    has. -/
def code (escape : Place) (digits : Nat) : Reader Atom := do
  if ← advance then
    if (← peek) = some '\x7b' then braced escape
    else
      let start ← here
      let number ← hexDigits digits 0
      coded escape start number (← here) (digits = 2)
  else failFrom (← here) .escapeUnfinished

/-- A property of characters, by one letter or by a name between braces. -/
def property (escape : Place) (negated : Bool) : Reader Atom := do
  if ← advance then
    if (← peek) = some '\x7b' then
      move Cursor.advance Cursor.advance_length
      let name ← takeWhile (· != '\x7d')
      if (← peek).isNone then failFrom (← here) .escapeUnfinished
      else
        bump
        return .property ⟨escape, ← here⟩ negated (String.ofList name)
    else
      match ← peek with
      | some c =>
        if c = '\\' then failNext .propertyInvalid
        else
          move Cursor.advance Cursor.advance_length
          return .property ⟨escape, ← here⟩ negated (String.singleton c)
      | none => failFrom (← here) .escapeUnfinished
  else failFrom (← here) .escapeUnfinished

/-- The assertion between braces behind the letter for word boundaries.
    Braces that open with no name are left unread: they count repetitions. -/
def boundaryName (escape : Place) : Reader (Option Assertion) := do
  let brace ← left
  let inside := brace.advance
  match inside.peek with
  | none =>
    move Cursor.advance Cursor.advance_length
    failFrom escape .wordBoundaryUnfinished
  | some c =>
    let ofName (c : Char) : Bool := c.isAlpha || c == '-'
    if ofName c then
      move Cursor.advance Cursor.advance_length
      let name ← takeWhile ofName
      if (← peek) = some '\x7d' then
        let stop ← here
        bump
        match namedAssertion? (String.ofList name) with
        | some a => return some a
        | none => fail .wordBoundaryUnknown ⟨inside.place, stop⟩
      else failFrom brace.place .wordBoundaryUnclosed
    else return none

/-- An assertion, behind its letter. -/
def asserted (escape : Place) (a : Assertion) : Reader Atom := do
  let brace := (← peek) = some '\x7b'
  if a = .wordBoundary ∧ brace then
    let named ← boundaryName escape
    return .assertion ⟨escape, ← here⟩ (named.getD a)
  else return .assertion ⟨escape, ← here⟩ a

/-- What a backslash and one character stand for by themselves. -/
def escaped (escape : Place) (c : Char) : Reader Atom := do
  bump
  let span : Span := ⟨escape, ← here⟩
  if isEscapable c then return .literal ⟨span, c, false⟩
  else
    match letterClass? c, control? c, assertion? c with
    | some (negated, members), _, _ => return .letter span negated members
    | none, some c, _ => return .literal ⟨span, c, false⟩
    | none, none, some a => asserted escape a
    | none, none, none => fail .escapeUnknown span

/-- What a backslash and what follows stand for. -/
def escape : Reader Atom := do
  let start ← here
  bump
  match ← peek with
  | none => failFrom start .escapeUnfinished
  | some c =>
    if c.isDigit then fail .backreference ⟨start, (← left).span.stop⟩
    else match c with
      | 'x' => code start 2
      | 'u' => code start 4
      | 'U' => code start 8
      | 'p' => property start false
      | 'P' => property start true
      | c => escaped start c

end Reader

namespace Atom

/-- What stands by itself: an escape, a dot, an assertion, or a character
    that stands for itself. -/
def read (c : Char) : Reader Atom := do
  let span := (← Reader.left).span
  match c with
  | '\\' => Reader.escape
  | '.' =>
    Reader.bump
    return .dot span
  | '^' =>
    Reader.bump
    return .assertion span .lineStart
  | '$' =>
    Reader.bump
    return .assertion span .lineEnd
  | c =>
    Reader.bump
    return .literal ⟨span, c, false⟩

end Atom

end Pattern

end PrintBridge
