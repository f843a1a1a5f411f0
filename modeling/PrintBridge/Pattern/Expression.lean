import PrintBridge.Pattern.CharSet

/-!
# Expressions and Their Matches

What a pattern means. An expression matches stretches of a text; here it is
enough to know from where to where, so the places between the characters of a
text are marked, and an expression carries marks forward: from the places
where its matches begin to those where they end. All places are followed at
once, so no choice is ever taken back.

Repetitions need care because of their numbers. There are no more places than
one for each character and one for the end, so a match cannot make more
repetitions that move, and more repetitions than that are reached with fewer.
The numbers count only up to there.

## Main definitions

* `Look`: What can be asked of a place.
* `Expression`: An expression.
* `Expression.carry`: How an expression carries marks.
* `Expression.occursIn`: Whether an expression matches somewhere in a text.
-/

namespace PrintBridge

namespace Pattern

/-- What can be asked of a place, between the character before it and the
    character behind it. -/
inductive Look where
  | textStart
  | textEnd
  | lineStart
  | lineEnd
  /-- Lines that also end in carriage returns. -/
  | returnStart
  | returnEnd
  | wordBoundary
  | noWordBoundary
  | wordStart
  | wordEnd
  | wordStartHalf
  | wordEndHalf
  /-- About words of all scripts, which cannot be told here. -/
  | undecided
deriving DecidableEq

namespace Look

/-- Whether a character belongs to a word. -/
def inWord (c : Option Char) : Bool := c.any AsciiClass.word.members.contains

/-- Whether it holds between two characters. -/
def holds (l : Look) (before after : Option Char) : Bool :=
  match l with
  | textStart => before.isNone
  | textEnd => after.isNone
  | lineStart => before.all (· == '\n')
  | lineEnd => after.all (· == '\n')
  | returnStart =>
    before.all (· == '\n') || (before == some '\r' && after != some '\n')
  | returnEnd =>
    after.all (· == '\r') || (after == some '\n' && before != some '\r')
  | wordBoundary => inWord before != inWord after
  | noWordBoundary => inWord before == inWord after
  | wordStart => !inWord before && inWord after
  | wordEnd => inWord before && !inWord after
  | wordStartHalf => !inWord before
  | wordEndHalf => !inWord after
  | undecided => false

/-- Where it holds in a text, from behind some character on. -/
def places (l : Look) (before : Option Char) : List Char → List Bool
  | [] => [l.holds before none]
  | c :: rest => l.holds before (some c) :: l.places (some c) rest

end Look

/-- An expression. -/
inductive Expression where
  | empty
  | character (members : CharSet)
  | look (l : Look)
  | sequence (a b : Expression)
  | either (a b : Expression)
  | repeated (least : Nat) (most : Option Nat) (body : Expression)
  /-- A group whose match is remembered. -/
  | remembered (body : Expression)
deriving DecidableEq

/-- Which places of a text are marked: one in front of each character, and
    the end. -/
abbrev Marks := List Bool

namespace Marks

/-- Every place. -/
def everywhere (text : List Char) : Marks := List.replicate (text.length + 1) true

/-- The places that are marked in one or the other. -/
def join (m n : Marks) : Marks := List.zipWith or m n

/-- The marked places where something holds. -/
def keep (m : Marks) (places : List Bool) : Marks := List.zipWith and m places

/-- Marks carried over one character of a set. -/
def past (m : Marks) (text : List Char) (members : CharSet) : Marks :=
  false :: List.zipWith (fun marked c => marked && members.contains c) m text

/-- A step taken so many times, or until nothing changes. -/
def iterate (step : Marks → Marks) : Nat → Marks → Marks
  | 0, m => m
  | n + 1, m =>
    let next := step m
    if next = m then m else iterate step n next

/-- The places that can be reached by taking a step at most so many times. -/
def reach (step : Marks → Marks) : Nat → Marks → Marks := iterate fun m => join m (step m)

end Marks

namespace Expression

/-- How marks are carried from where matches begin to where they end. -/
def carry (text : List Char) : Expression → Marks → Marks
  | empty, m => m
  | character members, m => m.past text members
  | look l, m => m.keep (l.places none text)
  | sequence a b, m => carry text b (carry text a m)
  | either a b, m => Marks.join (carry text a m) (carry text b m)
  | repeated least most body, m =>
    let enough := text.length + 1
    let more := (most.map fun most => min (most - least) enough).getD enough
    Marks.reach (carry text body) more (Marks.iterate (carry text body) (min least enough) m)
  | remembered body, m => carry text body m

/-- Whether an expression matches somewhere in a text. -/
def occursIn (e : Expression) (text : List Char) : Bool :=
  (carry text e (Marks.everywhere text)).any id

/-- Several expressions one after the other. -/
def all : List Expression → Expression
  | [] => empty
  | [e] => e
  | e :: rest => sequence e (all rest)

/-- Any of several expressions, of which there is at least one. -/
def any : List Expression → Expression
  | [] => empty
  | [e] => e
  | e :: rest => either e (any rest)

/-- Whether an expression asks for nothing that cannot be told. -/
def decided : Expression → Bool
  | look l => l != .undecided
  | sequence a b => a.decided && b.decided
  | either a b => a.decided && b.decided
  | repeated _ _ body => body.decided
  | remembered body => body.decided
  | _ => true

end Expression

end Pattern

end PrintBridge
