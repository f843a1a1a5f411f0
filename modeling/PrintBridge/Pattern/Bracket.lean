import PrintBridge.Pattern.Escape

/-!
# Brackets in a Pattern

A class of characters between brackets. Its items are characters, ranges, and
other classes, also in brackets of their own; two signs in a row combine what
stands before them with what stands behind. Operations are carried out in the
order in which they stand.

A dash that opens a class, a closing bracket that would close it empty, and a
dash in front of the closing bracket stand for themselves, so all of them can
be members without an escape.

## Main definitions

* `Bracket`: A class while it is read.
* `Bracket.read`: Reading a class.
-/

namespace PrintBridge

namespace Pattern

/-- A class while it is read. -/
structure Bracket where
  /-- Where its opening stands. -/
  opening : Span
  negated : Bool
  /-- The operation that waits for its right side. -/
  waiting : Option (SetOperation × ClassTree)
  /-- Where the items stand that follow the last operation. -/
  span : Span
  /-- Those items, the last one first. -/
  items : List ClassTree

namespace Bracket

/-- With one more item. -/
def push (b : Bracket) (item : ClassTree) : Bracket :=
  { b with
    span := ⟨if b.items.isEmpty then item.span.start else b.span.start, item.span.stop⟩
    items := item :: b.items }

/-- The items since the last operation. -/
def side (b : Bracket) : ClassTree :=
  match b.items with
  | [] => .nothing b.span
  | [item] => item
  | items => .union b.span items.reverse

/-- All that has been read. -/
def body (b : Bracket) : ClassTree :=
  match b.waiting with
  | none => b.side
  | some (op, left) => .combined ⟨left.span.start, b.side.span.stop⟩ op left b.side

/-- Waits for the right side of an operation. -/
def operate (b : Bracket) (op : SetOperation) (here : Place) : Bracket :=
  { b with waiting := some (op, b.body), span := .point here, items := [] }

end Bracket

/-- A class by its name, between colons in brackets: whether it is negated,
    which one it is, and over how many characters it runs. -/
def asciiClass? (cs : List Char) : Option (Bool × AsciiClass × Nat) :=
  match cs with
  | '[' :: ':' :: rest =>
    let negated := rest.head? == some '^'
    let rest := if negated then rest.drop 1 else rest
    let name := rest.takeWhile (· != ':')
    if [':', ']'].isPrefixOf (rest.drop name.length) then
      (AsciiClass.named.lookup (String.ofList name)).map fun k =>
        (negated, k, name.length + 4 + if negated then 1 else 0)
    else none
  | _ => none

/-- Whether a dash here stands between two ends of a range: neither a closing
    bracket nor another dash follows it. Where white space is ignored, so is
    the sign that opens a comment, but not the comment. -/
def opensRange (c : Cursor) : Bool :=
  match c.rest with
  | '-' :: rest =>
    let blank := Text.whiteSpace.member
    let next :=
      if c.spaced then
        match rest.dropWhile blank with
        | '#' :: comment => (comment.dropWhile blank).head?.or rest.head?
        | seen => seen.head?.or rest.head?
      else rest.head?
    next != some ']' && next != some '-'
  | _ => false

namespace Reader

/-- The next character as a literal, with what is ignored behind it. Where
    nothing is left, the class that was opened is unclosed. -/
def openingItem (b : Bracket) (c : Char) (fault : Complaint) : Reader Bracket := do
  let span := (← left).span
  if ← advance then return b.push (.literal ⟨span, c, false⟩) else complain fault

/-- The signs at the beginning of a class that stand for themselves there:
    dashes, or else a closing bracket. -/
def openingItems (start : Place) (b : Bracket) : Reader Bracket := do
  let dashed ← loop (fun b => do
    if (← peek) = some '-' then
      return some (← openingItem b '-' { fault := .classUnclosed, span := .point start })
    else return none) b
  if dashed.items.isEmpty ∧ (← peek) = some ']' then
    let stop := (← left).advance.place
    openingItem dashed ']' { fault := .classUnclosed, span := ⟨start, stop⟩ }
  else return dashed

/-- Whether a class is negated, which is told by a sign in front of all else. -/
def negation (start : Place) : Reader Bool := do
  if (← peek) = some '^' then
    advanceOr start .classUnclosed
    return true
  else return false

/-- The opening of a class. -/
def bracketOpening : Reader Bracket := do
  let start ← here
  advanceOr start .classUnclosed
  let negated ← negation start
  let begun ← openingItems start ⟨.point start, negated, none, .point (← here), []⟩
  return { begun with opening := ⟨start, ← here⟩ }

/-- One end of a range, or an item. -/
def classAtom : Reader Atom := do
  match ← peek with
  | some '\\' => escape
  | some c =>
    let span := (← left).span
    bump
    return .literal ⟨span, c, false⟩
  | none => failFrom (← here) .classUnclosed

/-- An atom as an item of a class. -/
def classItem : Atom → Reader ClassTree
  | .literal l => return .literal l
  | .letter s negated members => return .letter s negated members
  | .property s negated name => return .property s negated name
  | atom => fail .classEscape atom.span

/-- An atom as an end of a range. -/
def rangeEnd : Atom → Reader Literal
  | .literal l => return l
  | atom => fail .rangeBound atom.span

/-- A range or a single item of a class that was opened in some span. -/
def classRange (opening : Span) : Reader ClassTree := do
  let first ← classAtom
  skip
  let next ← left
  if next.rest.isEmpty then fail .classUnclosed opening
  else if opensRange next then
    if ← advance then
      let last ← classAtom
      let span : Span := ⟨first.span.start, last.span.stop⟩
      let low ← rangeEnd first
      let high ← rangeEnd last
      if low.char ≤ high.char then return .range span low high else fail .rangeOrder span
    else fail .classUnclosed opening
  else classItem first

end Reader

/-- Classes in each other while they are read. -/
structure Brackets where
  /-- The innermost one. -/
  inner : Bracket
  /-- Those around it, from the inside. -/
  outer : List Bracket
  /-- The outermost one, once it is closed. -/
  closed : Option Tree

namespace Brackets

/-- With one more item in the innermost class. -/
def push (bs : Brackets) (item : ClassTree) : Brackets := { bs with inner := bs.inner.push item }

/-- The operation that two signs in a row stand for. -/
def operation? (cs : List Char) : Option SetOperation :=
  match cs with
  | '&' :: '&' :: _ => some .intersection
  | '-' :: '-' :: _ => some .difference
  | '~' :: '~' :: _ => some .symmetricDifference
  | _ => none

/-- With the innermost class closed at a place. -/
def close (bs : Brackets) (stop : Place) : Brackets :=
  let span : Span := ⟨bs.inner.opening.start, stop⟩
  match bs.outer with
  | [] => { bs with closed := some (.bracketed span bs.inner.negated bs.inner.body) }
  | around :: outer =>
    { bs with
      inner := around.push (.bracketed span bs.inner.negated bs.inner.body)
      outer := outer }

/-- Reads one more part, unless all is closed or nothing is left. -/
def step (bs : Brackets) : Reader (Option Brackets) := do
  if bs.closed.isSome then return none
  Reader.skip
  let cursor ← Reader.left
  match cursor.rest with
  | [] => return none
  | '[' :: _ =>
    match asciiClass? cursor.rest with
    | some (negated, members, length) =>
      Reader.bumps length
      return some (bs.push (.ascii ⟨cursor.place, ← Reader.here⟩ negated members))
    | none =>
      return some { bs with inner := ← Reader.bracketOpening, outer := bs.inner :: bs.outer }
  | ']' :: _ =>
    Reader.bump
    return some (bs.close (← Reader.here))
  | rest =>
    match operation? rest with
    | some op =>
      Reader.bumps 2
      return some { bs with inner := bs.inner.operate op (← Reader.here) }
    | none => return some (bs.push (← Reader.classRange bs.inner.opening))

end Brackets

/-- Reads a class of characters. -/
def Bracket.read : Reader Tree := do
  let read ← Reader.loop Brackets.step ⟨← Reader.bracketOpening, [], none⟩
  match read.closed with
  | some tree => return tree
  | none => Reader.fail .classUnclosed read.inner.opening

end Pattern

end PrintBridge
