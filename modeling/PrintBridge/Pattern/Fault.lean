import PrintBridge.Pattern.Place

/-!
# Faults in a Pattern

What can be wrong with a pattern, and how it is told: with the pattern itself,
and a line of marks under the part that is meant. A pattern of several lines
is shown with line numbers and between rules, and a part that begins on one
line and ends on another is described, since it cannot be marked.

## Main definitions

* `Fault`: What can be wrong.
* `Complaint`: What is wrong, and where.
* `Complaint.text`: A complaint as it is told.
-/

namespace PrintBridge

namespace Pattern

/-- What can be wrong with a pattern. -/
inductive Fault where
  | classEscape
  | rangeOrder
  | rangeBound
  | classUnclosed
  | numberTooLarge
  | hexEmpty
  | hexNoCharacter
  | hexDigit
  | escapeUnfinished
  | escapeUnknown
  | negationDangling
  | flagTwice
  | negationTwice
  | flagMissing
  | flagUnknown
  | nameTwice
  | nameEmpty
  | nameCharacter
  | nameUnclosed
  | groupUnclosed
  | groupUnopened
  | nestedTooDeep (limit : Nat)
  | countOrder
  | countEmpty
  | countUnclosed
  | repetitionMissing
  | wordBoundaryUnclosed
  | wordBoundaryUnknown
  | wordBoundaryUnfinished
  | propertyInvalid
  | backreference
  | lookAround
  | unicodeNotAllowed
  | notText
  | propertyUnknown
  | propertyValueUnknown
  | letterClassUnavailable
  | caseUnavailable
deriving DecidableEq

namespace Fault

/-- A fault in words. -/
def text : Fault → String
  | classEscape => "invalid escape sequence found in character class"
  | rangeOrder => "invalid character class range, the start must be <= the end"
  | rangeBound => "invalid range boundary, must be a literal"
  | classUnclosed => "unclosed character class"
  | numberTooLarge => "decimal literal invalid"
  | hexEmpty => "hexadecimal literal empty"
  | hexNoCharacter => "hexadecimal literal is not a Unicode scalar value"
  | hexDigit => "invalid hexadecimal digit"
  | escapeUnfinished => "incomplete escape sequence, reached end of pattern prematurely"
  | escapeUnknown => "unrecognized escape sequence"
  | negationDangling => "dangling flag negation operator"
  | flagTwice => "duplicate flag"
  | negationTwice => "flag negation operator repeated"
  | flagMissing => "expected flag but got end of regex"
  | flagUnknown => "unrecognized flag"
  | nameTwice => "duplicate capture group name"
  | nameEmpty => "empty capture group name"
  | nameCharacter => "invalid capture group character"
  | nameUnclosed => "unclosed capture group name"
  | groupUnclosed => "unclosed group"
  | groupUnopened => "unopened group"
  | nestedTooDeep limit =>
    "exceed the maximum number of nested parentheses/brackets (" ++ limit.repr ++ ")"
  | countOrder => "invalid repetition count range, the start must be <= the end"
  | countEmpty => "repetition quantifier expects a valid decimal"
  | countUnclosed => "unclosed counted repetition"
  | repetitionMissing => "repetition operator missing expression"
  | wordBoundaryUnclosed =>
    "special word boundary assertion is either unclosed or contains an invalid character"
  | wordBoundaryUnknown =>
    "unrecognized special word boundary assertion, valid choices are: start, end, start-half "
      ++ "or end-half"
  | wordBoundaryUnfinished =>
    "found either the beginning of a special word boundary or a bounded repetition on a \\b "
      ++ "with an opening brace, but no closing brace"
  | propertyInvalid => "invalid Unicode character class"
  | backreference => "backreferences are not supported"
  | lookAround => "look-around, including look-ahead and look-behind, is not supported"
  | unicodeNotAllowed => "Unicode not allowed here"
  | notText => "pattern can match invalid UTF-8"
  | propertyUnknown => "Unicode property not found"
  | propertyValueUnknown => "Unicode property value not found"
  | letterClassUnavailable =>
    "Unicode-aware Perl class not found (make sure the unicode-perl feature is enabled)"
  | caseUnavailable =>
    "Unicode-aware case insensitivity matching is not available (make sure the unicode-case "
      ++ "feature is enabled)"

end Fault

/-- What is wrong with a pattern, and where. -/
structure Complaint where
  fault : Fault
  span : Span
  /-- What stands earlier and is at odds with it. -/
  earlier : Option Span := none
deriving DecidableEq

namespace Complaint

/-- The lines of a text. The last one may lack its line break, and a carriage
    return in front of a line break belongs to the break. -/
def lines : List Char → List (List Char)
  | [] => []
  | c :: rest =>
    if c = '\n' then [] :: lines rest
    else match lines rest with
      | [] => [[c]]
      | first :: others =>
        if c = '\r' && rest.head? == some '\n' then first :: others
        else (c :: first) :: others

/-- The parts that are meant, in the order in which they stand. -/
def spans (c : Complaint) : List Span := c.earlier.toList ++ [c.span]

/-- The characters that mark spans of one line, from a column on. Even an
    empty span gets one mark. -/
def marks (column : Nat) : List Span → List Char
  | [] => []
  | s :: rest =>
    let blanks := s.start.column - column
    let width := max 1 (s.stop.column - s.start.column)
    List.replicate blanks ' ' ++ List.replicate width '^'
      ++ marks (column + blanks + width) rest

/-- The width of line numbers, which are left out where there is one line
    only. A line break at the end counts as the beginning of a line. -/
def numberWidth (pattern : List Char) : Nat :=
  let count := (lines pattern).length + if pattern.getLast? == some '\n' then 1 else 0
  if count ≤ 1 then 0 else count.repr.length

/-- What stands in front of a line with a number. -/
def margin (width number : Nat) : String :=
  if width = 0 then "    "
  else String.ofList (List.replicate (width - number.repr.length) ' ') ++ number.repr ++ ": "

/-- The lines of a pattern from a number on, each with the marks under it. -/
def shown (c : Complaint) (width : Nat) : Nat → List (List Char) → String
  | _, [] => ""
  | number, line :: rest =>
    let here := c.spans.filter fun s => s.onOneLine && s.start.line == number
    margin width number ++ String.ofList line ++ "\n"
      ++ (if here.isEmpty then "" else
        String.ofList (List.replicate (margin width number).length ' ' ++ marks 1 here) ++ "\n")
      ++ shown c width (number + 1) rest

/-- A span that begins on one line and ends on another, described. -/
def across (s : Span) : String :=
  "on line " ++ s.start.line.repr ++ " (column " ++ s.start.column.repr ++ ") through line "
    ++ s.stop.line.repr ++ " (column " ++ (s.stop.column - 1).repr ++ ")\n"

/-- The rule above and below a pattern of several lines. -/
def rule : String := String.ofList (List.replicate 79 '~') ++ "\n"

/-- A complaint about a pattern as it is told. -/
def text (c : Complaint) (pattern : String) : String :=
  let characters := pattern.toList
  let body := c.shown (numberWidth characters) 1 (lines characters)
  let around :=
    if characters.contains '\n' then
      rule ++ body ++ rule ++ String.join ((c.spans.filter fun s => !s.onOneLine).map across)
    else body
  "regex parse error:\n" ++ around ++ "error: " ++ c.fault.text

end Complaint

end Pattern

end PrintBridge
