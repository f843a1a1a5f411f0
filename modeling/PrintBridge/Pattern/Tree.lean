import PrintBridge.Pattern.CharSet
import PrintBridge.Pattern.Place

/-!
# Trees of a Pattern

How a pattern is built, as it is written: nothing is evaluated yet, and every
part knows where it stands, because a part whose meaning turns out to be
faulty has to be shown.

Parts that hold other parts count as levels, and a pattern is refused whose
levels are too many, whatever they are. This is what keeps everything that
follows a tree downwards within bounds.

## Main definitions

* `ClassTree`: What stands between brackets.
* `Tree`: A pattern.
* `Tree.tooDeep?`: The first part that is one level too deep.
-/

namespace PrintBridge

namespace Pattern

/-- A character that stands for itself. -/
structure Literal where
  span : Span
  char : Char
  /-- Whether it was written as a byte, by two hexadecimal digits. -/
  asByte : Bool := false
deriving DecidableEq

/-- What a pattern can be asked to do in another way. -/
inductive Flag where
  | ignoreCase
  | multiLine
  | dotAll
  | swapGreed
  | unicode
  | carriageReturn
  | spaced
deriving DecidableEq

/-- The flags that are switched, and how. -/
abbrev Switches := List (Flag × Bool)

/-- What holds between two characters. -/
inductive Assertion where
  | lineStart
  | lineEnd
  | textStart
  | textEnd
  | wordBoundary
  | noWordBoundary
  | wordStart
  | wordEnd
  | wordStartHalf
  | wordEndHalf
deriving DecidableEq

/-- The classes of characters that have a letter. -/
inductive LetterClass where
  | digit
  | space
  | word
deriving DecidableEq

namespace LetterClass

/-- The members of a class, where only ASCII counts. -/
def ascii : LetterClass → AsciiClass
  | digit => .digit
  | space => .space
  | word => .word

end LetterClass

/-- What stands between brackets. -/
inductive ClassTree where
  | nothing (span : Span)
  | literal (l : Literal)
  | range (span : Span) (first last : Literal)
  | ascii (span : Span) (negated : Bool) (members : AsciiClass)
  | letter (span : Span) (negated : Bool) (members : LetterClass)
  | property (span : Span) (negated : Bool) (name : String)
  | bracketed (span : Span) (negated : Bool) (body : ClassTree)
  | union (span : Span) (items : List ClassTree)
  | combined (span : Span) (op : SetOperation) (left right : ClassTree)

namespace ClassTree

/-- Where a part of a class stands. -/
def span : ClassTree → Span
  | nothing s => s
  | literal l => l.span
  | range s _ _ => s
  | ascii s _ _ => s
  | letter s _ _ => s
  | property s _ _ => s
  | bracketed s _ _ => s
  | union s _ => s
  | combined s _ _ _ => s

mutual

/-- The first part of a class that is deeper than so many levels. -/
def tooDeep? : Nat → ClassTree → Option Span
  | 0, bracketed s _ _ => some s
  | 0, union s _ => some s
  | 0, combined s _ _ _ => some s
  | n + 1, bracketed _ _ body => tooDeep? n body
  | n + 1, union _ items => anyTooDeep? n items
  | n + 1, combined _ _ left right => (tooDeep? n left).or (tooDeep? n right)
  | _, _ => none

/-- The first part of several that is deeper than so many levels. -/
def anyTooDeep? : Nat → List ClassTree → Option Span
  | _, [] => none
  | n, item :: rest => (tooDeep? n item).or (anyTooDeep? n rest)

end

end ClassTree

/-- A pattern. -/
inductive Tree where
  | empty (span : Span)
  | switch (span : Span) (switches : Switches)
  | literal (l : Literal)
  | dot (span : Span)
  | assertion (span : Span) (a : Assertion)
  | letter (span : Span) (negated : Bool) (members : LetterClass)
  | property (span : Span) (negated : Bool) (name : String)
  | bracketed (span : Span) (negated : Bool) (body : ClassTree)
  | repeated (span : Span) (least : Nat) (most : Option Nat) (body : Tree)
  | group (span : Span) (remembered : Bool) (switches : Switches) (body : Tree)
  | either (span : Span) (branches : List Tree)
  | sequence (span : Span) (items : List Tree)

namespace Tree

/-- Where a part of a pattern stands. -/
def span : Tree → Span
  | empty s => s
  | switch s _ => s
  | literal l => l.span
  | dot s => s
  | assertion s _ => s
  | letter s _ _ => s
  | property s _ _ => s
  | bracketed s _ _ => s
  | repeated s _ _ _ => s
  | group s _ _ _ => s
  | either s _ => s
  | sequence s _ => s

mutual

/-- The first part of a pattern that is deeper than so many levels. -/
def tooDeep? : Nat → Tree → Option Span
  | 0, bracketed s _ _ => some s
  | 0, repeated s _ _ _ => some s
  | 0, group s _ _ _ => some s
  | 0, either s _ => some s
  | 0, sequence s _ => some s
  | n + 1, bracketed _ _ body => body.tooDeep? n
  | n + 1, repeated _ _ _ body => tooDeep? n body
  | n + 1, group _ _ _ body => tooDeep? n body
  | n + 1, either _ branches => anyTooDeep? n branches
  | n + 1, sequence _ items => anyTooDeep? n items
  | _, _ => none

/-- The first part of several that is deeper than so many levels. -/
def anyTooDeep? : Nat → List Tree → Option Span
  | _, [] => none
  | n, item :: rest => (tooDeep? n item).or (anyTooDeep? n rest)

end

end Tree

end Pattern

end PrintBridge
