import PrintBridge.Pattern.Bracket
import PrintBridge.Text.Letters

/-!
# The Grammar of Patterns

A pattern is branches between bars, a branch is items one after the other,
and an item can be repeated and can be a group, which is a pattern again.
Reading keeps the groups that are open in a list, the innermost one first, so
that no depth of nesting is too much for it. Only what has been read is
checked for its depth.

A group can switch flags, for itself or for what follows in the group around
it. One flag bears on reading: where white space is ignored, it is ignored
until the group ends in which that was asked for.

## Main definitions

* `Level`: The pattern of one group while it is read.
* `Progress`: A pattern while it is read.
* `Tree.read`: The tree of a pattern.
-/

namespace PrintBridge

namespace Pattern

/-- The pattern of one group while it is read. -/
structure Level where
  /-- Where it begins. -/
  start : Place
  /-- The branches that are complete, the last one first. -/
  branches : List Tree
  /-- Where the branch begins that is being read. -/
  branch : Place
  /-- The items of that branch, the last one first. -/
  items : List Tree

namespace Level

/-- A pattern that begins at a place. -/
def begin (here : Place) : Level := ⟨here, [], here, []⟩

/-- With one more item. -/
def push (l : Level) (item : Tree) : Level := { l with items := item :: l.items }

/-- The branch that is being read, if it ends at a place. -/
def lastBranch (l : Level) (stop : Place) : Tree :=
  match l.items with
  | [] => .empty ⟨l.branch, stop⟩
  | [item] => item
  | items => .sequence ⟨l.branch, stop⟩ items.reverse

/-- With a new branch that begins behind a bar at a place. -/
def bar (l : Level) (stop next : Place) : Level :=
  { l with branches := l.lastBranch stop :: l.branches, branch := next, items := [] }

/-- The pattern, if it ends at a place. -/
def close (l : Level) (stop : Place) : Tree :=
  match l.branches with
  | [] => l.lastBranch stop
  | branches => .either ⟨l.start, stop⟩ (l.lastBranch stop :: branches).reverse

end Level

/-- A group that has been opened. -/
structure Opened where
  /-- The pattern that the group stands in. -/
  around : Level
  /-- Where the opening parenthesis stands. -/
  span : Span
  /-- Whether what the group matches is remembered. -/
  remembered : Bool
  switches : Switches
  /-- Whether white space is ignored around the group. -/
  spaced : Bool

/-- A pattern while it is read. -/
structure Progress where
  level : Level
  /-- The groups that are open, the innermost one first. -/
  opened : List Opened
  /-- The names of groups, and where they stand. -/
  names : List (String × Span)

/-- Flags by their letters. -/
def flag? : Char → Option Flag
  | 'i' => some .ignoreCase
  | 'm' => some .multiLine
  | 's' => some .dotAll
  | 'U' => some .swapGreed
  | 'u' => some .unicode
  | 'R' => some .carriageReturn
  | 'x' => some .spaced
  | _ => none

/-- The largest number of repetitions that can be asked for. -/
def countMax : Nat := 4294967295

/-- How deep a pattern can be nested. -/
def depthLimit : Nat := 250

/-- Flags while they are read. -/
structure FlagList where
  switches : Switches
  /-- Where each flag stands. -/
  spans : List (Flag × Span)
  /-- Where the sign stands that switches off what follows. -/
  negation : Option Span
  /-- Whether that sign has just been read. -/
  dangling : Bool

namespace Reader

/-- One more flag, or the sign that switches off what follows. -/
def flagItem (fs : FlagList) (c : Char) : Reader FlagList := do
  let span := (← left).span
  let next : FlagList ←
    if c = '-' then
      match fs.negation with
      | some earlier =>
        complain { fault := .negationTwice, span := span, earlier := some earlier }
      | none => pure { fs with negation := some span, dangling := true }
    else
      match flag? c with
      | none => fail .flagUnknown span
      | some flag =>
        match fs.spans.lookup flag with
        | some earlier => complain { fault := .flagTwice, span := span, earlier := some earlier }
        | none =>
          pure { fs with
            switches := fs.switches ++ [(flag, fs.negation.isNone)]
            spans := fs.spans ++ [(flag, span)]
            dangling := false }
  bump
  if (← peek).isNone then failFrom (← here) .flagMissing else return next

/-- Flags up to a colon or a closing parenthesis. -/
def flags : Reader FlagList := do
  let read ← loop (fun fs => do
    match ← peek with
    | none => return none
    | some c => if c = ':' ∨ c = ')' then return none else return some (← flagItem fs c))
    ⟨[], [], none, false⟩
  match read.negation with
  | some span => if read.dangling then fail .negationDangling span else return read
  | none => return read

/-- Whether a character can stand in the name of a group, first or later. -/
def inName (first : Bool) (c : Char) : Bool :=
  c == '_' || Text.alphabetic.member c
    || (!first && (c == '.' || c == '[' || c == ']' || Text.numeric.member c))

/-- The name of a group behind its opening, where some names are taken. -/
def groupName (taken : List (String × Span)) : Reader (String × Span) := do
  let start ← here
  let name ← loop (fun (name : List Char) => do
    match ← peek with
    | none => return none
    | some c =>
      if c = '>' then return none
      else if inName name.isEmpty c then
        bump
        return some (c :: name)
      else failNext .nameCharacter) []
  let stop ← here
  if (← peek).isNone then failFrom stop .nameUnclosed
  else
    bump
    let text := String.ofList name.reverse
    let span : Span := ⟨start, stop⟩
    if name.isEmpty then fail .nameEmpty (.point start)
    else match taken.lookup text with
      | some earlier => complain { fault := .nameTwice, span := span, earlier := some earlier }
      | none => return (text, span)

/-- What an opening parenthesis begins: flags for what follows, or a group. -/
def parenthesis (p : Progress) : Reader Progress := do
  let before ← left
  bump
  skip
  let inside ← left
  let enter (remembered : Bool) (switches : Switches) (names : List (String × Span)) :
      Reader Progress := do
    let spaced := (switches.lookup .spaced).getD before.spaced
    space spaced
    return {
      level := .begin (← here)
      opened := ⟨p.level, before.span, remembered, switches, before.spaced⟩ :: p.opened
      names := names }
  let lookAround ← (do
    if ← takes "?=" then return true
    else if ← takes "?!" then return true
    else if ← takes "?<=" then return true
    else takes "?<!" : Reader Bool)
  if lookAround then failFrom before.place .lookAround
  else
    let named ← (do if ← takes "?P<" then return true else takes "?<" : Reader Bool)
    if named then
      let name ← groupName p.names
      enter true [] (p.names ++ [name])
    else if ← takes "?" then
      if (← peek).isNone then fail .groupUnclosed before.span
      else
        let read ← flags
        let closed := (← peek) = some ')'
        bump
        if closed then
          if read.switches.isEmpty ∧ read.negation.isNone then
            fail .repetitionMissing (.point inside.place)
          else
            space ((read.switches.lookup .spaced).getD before.spaced)
            let span : Span := ⟨before.place, ← here⟩
            return { p with level := p.level.push (.switch span read.switches) }
        else enter false read.switches p.names
    else enter true [] p.names

/-- The end of a group. -/
def closing (p : Progress) : Reader Progress := do
  match p.opened with
  | [] => failNext .groupUnopened
  | group :: opened =>
    space group.spaced
    let body := p.level.close (← here)
    bump
    let span : Span := ⟨group.span.start, ← here⟩
    return { p with
      level := group.around.push (.group span group.remembered group.switches body)
      opened := opened }

/-- What a repetition sign here applies to. -/
def operand (l : Level) : Reader (Tree × List Tree) := do
  match l.items with
  | [] => failFrom (← here) .repetitionMissing
  | .switch _ _ :: _ => failFrom (← here) .repetitionMissing
  | item :: rest => return (item, rest)

/-- A sign that asks for less rather than more, which changes nothing about
    whether there is a match. -/
def reluctance : Reader Unit := do
  if (← peek) = some '?' then bump else return ()

/-- A repetition by a sign of one character. -/
def repetition (p : Progress) (least : Nat) (most : Option Nat) : Reader Progress := do
  let (item, rest) ← operand p.level
  bump
  reluctance
  let span : Span := ⟨item.span.start, ← here⟩
  return { p with level := { p.level with items := .repeated span least most item :: rest } }

/-- A number, with white space around it. What is wrong with it is not told
    at once, since something else may turn out to be wrong first. -/
def count : Reader (Except Complaint Nat) := do
  let blank := Text.whiteSpace.member
  discard (loop (fun (_ : Unit) => do
    if (← peek).any blank then
      bump
      return some ()
    else return none) ())
  let start ← here
  let digits ← takeWhile Char.isDigit
  let span : Span := ⟨start, ← here⟩
  discard (takeWhile blank)
  let number := digits.foldl (fun n c => n * 10 + (c.toNat - 48)) 0
  if digits.isEmpty then return .error { fault := .countEmpty, span := span }
  else if countMax < number then return .error { fault := .numberTooLarge, span := span }
  else return .ok number

/-- The number, or what is wrong with it. -/
def settled : Except Complaint Nat → Reader Nat
  | .ok n => return n
  | .error complaint => complain complaint

/-- The smallest and the largest number of a repetition, where they differ or
    there is no largest one, or else the number that is both. -/
def counts (start : Place) : Reader (Nat × Option Nat) := do
  let first ← count
  match ← peek with
  | none => failFrom start .countUnclosed
  | some ',' =>
    advanceOr start .countUnclosed
    if (← peek) = some '\x7d' then return (← settled first, none)
    else
      let least ← settled first
      return (least, some (← settled (← count)))
  | some _ =>
    let least ← settled first
    return (least, some least)

/-- A repetition by numbers between braces. -/
def counted (p : Progress) : Reader Progress := do
  let start ← here
  let (item, rest) ← operand p.level
  advanceOr start .countUnclosed
  let (least, most) ← counts start
  if (← peek) = some '\x7d' then
    discard advance
    reluctance
    let stop ← here
    if most.all (least ≤ ·) then
      let span : Span := ⟨item.span.start, stop⟩
      return { p with level := { p.level with items := .repeated span least most item :: rest } }
    else fail .countOrder ⟨start, stop⟩
  else failFrom start .countUnclosed

end Reader

namespace Progress

/-- Reads one more part, unless nothing is left. -/
def step (p : Progress) : Reader (Option Progress) := do
  Reader.skip
  match ← Reader.peek with
  | none => return none
  | some '(' => return some (← Reader.parenthesis p)
  | some ')' => return some (← Reader.closing p)
  | some '|' =>
    let stop ← Reader.here
    Reader.bump
    return some { p with level := p.level.bar stop (← Reader.here) }
  | some '[' => return some { p with level := p.level.push (← Bracket.read) }
  | some '?' => return some (← Reader.repetition p 0 (some 1))
  | some '*' => return some (← Reader.repetition p 0 none)
  | some '+' => return some (← Reader.repetition p 1 none)
  | some '\x7b' => return some (← Reader.counted p)
  | some c => return some { p with level := p.level.push (← Atom.read c).tree }

/-- The pattern, if it ends here and no group is open. -/
def finish (p : Progress) : Reader Tree := do
  match p.opened with
  | [] => return p.level.close (← Reader.here)
  | group :: _ => Reader.fail .groupUnclosed group.span

/-- Reads a pattern to its end. -/
def read : Reader Tree := do
  (← Reader.loop step ⟨.begin .start, [], []⟩).finish

end Progress

/-- The tree of a pattern, unless it is not well formed or too deep. -/
def Tree.read (pattern : String) : Except Complaint Tree :=
  match Progress.read.run ⟨pattern.toList, .start, false⟩ with
  | .error complaint => .error complaint
  | .ok (tree, _) =>
    match tree.tooDeep? depthLimit with
    | some span => .error { fault := .nestedTooDeep depthLimit, span := span }
    | none => .ok tree

end Pattern

end PrintBridge
