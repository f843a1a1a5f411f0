import PrintBridge.Pattern.Expression
import PrintBridge.Pattern.Fault
import PrintBridge.Pattern.Tree

/-!
# What a Pattern Means

The expression that a tree stands for under the flags that are switched on. A
flag that is switched inside a group holds for the rest of the group, in later
branches as well.

Text is either of all scripts, which is how a pattern begins, or of ASCII. For
text of all scripts nothing is known about which characters are digits,
blanks, parts of words, or cases of each other, so what asks for that is a
fault. In ASCII everything is known, but a class that also has members outside
ASCII would be one of bytes, which no text consists of.

## Main definitions

* `Modes`: The flags.
* `ClassTree.meaning`: The set that a class stands for.
* `Tree.meaning`: The expression that a pattern stands for.
-/

namespace PrintBridge

namespace Pattern

/-- The flags under which a part of a pattern is understood. -/
structure Modes where
  ignoreCase : Bool := false
  multiLine : Bool := false
  dotAll : Bool := false
  carriageReturn : Bool := false
  unicode : Bool := true
deriving DecidableEq

namespace Modes

/-- With one flag switched. What a pattern matches first and how it is spaced
    are no matter of its meaning. -/
def set (m : Modes) : Flag × Bool → Modes
  | (.ignoreCase, on) => { m with ignoreCase := on }
  | (.multiLine, on) => { m with multiLine := on }
  | (.dotAll, on) => { m with dotAll := on }
  | (.carriageReturn, on) => { m with carriageReturn := on }
  | (.unicode, on) => { m with unicode := on }
  | (.swapGreed, _) => m
  | (.spaced, _) => m

/-- With flags switched. -/
def switch (m : Modes) (switches : Switches) : Modes := switches.foldl set m

end Modes

/-- Something that has a meaning, unless there is a fault in some span. -/
abbrev Meant (α : Type) := Except Complaint α

/-- A fault in some span. -/
def faulty {α : Type} (fault : Fault) (span : Span) : Meant α :=
  .error { fault := fault, span := span }

/-- The character that a literal stands for. Where text is ASCII, a byte
    outside it is no character. -/
def Literal.meaning (m : Modes) (l : Literal) : Meant Char :=
  if !m.unicode && l.asByte && decide (127 < l.char.toNat) then faulty .notText l.span
  else .ok l.char

/-- The character that a literal stands for in a class. Where text is ASCII,
    so are all classes. -/
def Literal.member (m : Modes) (l : Literal) : Meant Char := do
  let c ← l.meaning m
  if !m.unicode && decide (127 < c.toNat) then faulty .unicodeNotAllowed l.span else return c

/-- A set or its complement. Where text is ASCII, a complement is a fault. -/
def negatable (m : Modes) (span : Span) (negated : Bool) (members : CharSet) : Meant CharSet :=
  if !negated then .ok members
  else if m.unicode then .ok (.complement members)
  else faulty .notText span

/-- A set in which case is ignored if it is to be. The flag says whether the
    set has members of which the other case is not known to be in it too. -/
def caseless (m : Modes) (span : Span) (unpaired : Bool) (members : CharSet) : Meant CharSet :=
  if !m.ignoreCase then .ok members
  else if !m.unicode then .ok (.folded members)
  else if unpaired then faulty .caseUnavailable span
  else .ok members

/-- A class of characters that has a letter. -/
def LetterClass.meaning (m : Modes) (span : Span) (negated : Bool) (members : LetterClass) :
    Meant CharSet :=
  if m.unicode then faulty .letterClassUnavailable span
  else negatable m span negated members.ascii.members

/-- The name of a property as it is looked up: in lower case, and without
    blanks, dashes, and the word that may stand in front. -/
def propertyKey (name : String) : String :=
  let ascii := name.toList
  let bare := match ascii with
    | a :: b :: rest => if a.toLower = 'i' ∧ b.toLower = 's' then rest else ascii
    | _ => ascii
  String.ofList ((bare.filter fun c =>
    decide (c.toNat < 128) && c != ' ' && c != '_' && c != '-').map Char.toLower)

/-- A property of characters. None is known, though the names of some values
    are told apart from those of properties. -/
def property {α : Type} (m : Modes) (span : Span) (name : String) : Meant α :=
  if !m.unicode then faulty .unicodeNotAllowed span
  else if ["cf", "sc", "lc"].contains (propertyKey name) then faulty .propertyValueUnknown span
  else faulty .propertyUnknown span

namespace ClassTree

/-- Whether a part of a class is a character or a range. -/
def isPlain : ClassTree → Bool
  | literal _ => true
  | range _ _ _ => true
  | _ => false

/-- Whether a class has characters or ranges as items of its own. Other items
    have their cases settled already. -/
def hasPlain : ClassTree → Bool
  | union _ items => items.any isPlain
  | item => item.isPlain

mutual

/-- The set that a class stands for. -/
def meaning (m : Modes) : ClassTree → Meant CharSet
  | nothing _ => .ok .nothing
  | literal l => (l.member m).map CharSet.single
  | range _ first last => do return .range (← first.member m) (← last.member m)
  | ascii span negated k => do negatable m span negated (← caseless m span true k.members)
  | letter span negated k => k.meaning m span negated
  | property span _ name => Pattern.property m span name
  | bracketed span negated body => do
    negatable m span negated (← caseless m span body.hasPlain (← meaning m body))
  | union _ items => unionMeaning m items
  | combined _ op left right => do
    let a ← meaning m left
    let b ← meaning m right
    let b ← caseless m right.span right.hasPlain b
    let a ← caseless m left.span left.hasPlain a
    return .combined op a b

/-- The set that several items stand for together. -/
def unionMeaning (m : Modes) : List ClassTree → Meant CharSet
  | [] => .ok .nothing
  | item :: rest => do return .union (← meaning m item) (← unionMeaning m rest)

end

end ClassTree

/-- What a dot stands for: any character but a line break, unless it is asked
    to stand for that too. Where text is ASCII, it would be any byte. -/
def dotMeaning (m : Modes) (span : Span) : Meant CharSet :=
  if !m.unicode then faulty .notText span
  else if m.dotAll then .ok (.complement .nothing)
  else if m.carriageReturn then .ok (.complement (.union (.single '\r') (.single '\n')))
  else .ok (.complement (.single '\n'))

/-- What an assertion asks of a place. Words are known where text is ASCII. -/
def Assertion.meaning (m : Modes) (a : Assertion) : Look :=
  let word (l : Look) : Look := if m.unicode then .undecided else l
  match a with
  | .lineStart =>
    if !m.multiLine then .textStart else if m.carriageReturn then .returnStart else .lineStart
  | .lineEnd =>
    if !m.multiLine then .textEnd else if m.carriageReturn then .returnEnd else .lineEnd
  | .textStart => .textStart
  | .textEnd => .textEnd
  | .wordBoundary => word .wordBoundary
  | .noWordBoundary => word .noWordBoundary
  | .wordStart => word .wordStart
  | .wordEnd => word .wordEnd
  | .wordStartHalf => word .wordStartHalf
  | .wordEndHalf => word .wordEndHalf

namespace Tree

mutual

/-- The expression that a pattern stands for, and the flags behind it. What is
    to be repeated no times at all is as good as not there. -/
def meaning (m : Modes) : Tree → Meant (Expression × Modes)
  | empty _ => .ok (.empty, m)
  | switch _ switches => .ok (.empty, m.switch switches)
  | literal l => do
    let c ← l.meaning m
    return (.character (← caseless m l.span true (.single c)), m)
  | dot span => do return (.character (← dotMeaning m span), m)
  | assertion _ a => .ok (.look (a.meaning m), m)
  | letter span negated k => do return (.character (← k.meaning m span negated), m)
  | property span _ name => Pattern.property m span name
  | bracketed span negated body => do
    return (.character (← (ClassTree.bracketed span negated body).meaning m), m)
  | repeated _ least most body => do
    let (e, m) ← meaning m body
    return (if most = some 0 then .empty else .repeated least most e, m)
  | group _ remembered switches body => do
    let (e, _) ← meaning (m.switch switches) body
    return (if remembered then .remembered e else e, m)
  | either _ branches => do
    let (es, m) ← meanings m branches
    return (.any es, m)
  | sequence _ items => do
    let (es, m) ← meanings m items
    return (.all (es.filter (· != .empty)), m)

/-- The expressions that several patterns stand for, one after the other, and
    the flags behind them. -/
def meanings (m : Modes) : List Tree → Meant (List Expression × Modes)
  | [] => .ok ([], m)
  | item :: rest => do
    let (e, m) ← meaning m item
    let (es, m) ← meanings m rest
    return (e :: es, m)

end

end Tree

end Pattern

end PrintBridge
