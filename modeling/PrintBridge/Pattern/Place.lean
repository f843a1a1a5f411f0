/-!
# Places in a Pattern

Where something stands in the text of a pattern. What is wrong with a pattern
is shown under its text, so places are counted the way a reader counts them:
by lines, and by characters within a line.

## Main definitions

* `Place`: A place between two characters.
* `Span`: What stands between two places.
-/

namespace PrintBridge

namespace Pattern

/-- A place in front of a character, or at the end. Lines and columns count
    from one. -/
structure Place where
  line : Nat
  column : Nat
deriving DecidableEq

namespace Place

/-- Where a pattern begins. -/
def start : Place := ⟨1, 1⟩

/-- The place behind a character that stands at a place. -/
def after (p : Place) (c : Char) : Place :=
  if c = '\n' then ⟨p.line + 1, 1⟩ else ⟨p.line, p.column + 1⟩

end Place

/-- What stands between two places. -/
structure Span where
  start : Place
  stop : Place
deriving DecidableEq

namespace Span

/-- Nothing, at some place. -/
def point (p : Place) : Span := ⟨p, p⟩

/-- Whether all of it is on one line. -/
def onOneLine (s : Span) : Bool := s.start.line == s.stop.line

end Span

end Pattern

end PrintBridge
