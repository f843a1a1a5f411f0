import PrintBridge.Log
import PrintBridge.Pattern.Basic
import PrintBridge.Text.Blank
import PrintBridge.Text.Terminal

/-!
# Log Filters

Which records are written, and how. A filter is built from specifications,
one after the other. A specification lists directives between commas: a level
alone holds for every target, a name alone lets every level of its targets
through, and a name with a level holds for the targets that begin with the
name. Of all directives that fit a target the one with the longest name
decides, and of equally long ones the last. A later directive takes the place
of an earlier one with the same name. Behind a slash a specification can give
a pattern that has to occur in the text of a record.

What cannot be read in a specification is left out, with a warning.

## Main definitions

* `Log.Directive`: A threshold for some targets.
* `Log.Spec.read`: The directives in a specification.
* `Log.Filter`: A filter.
* `Log.Filter.ofSpecs`: The filter of several specifications.
* `Log.Filter.directive?`: The directive for a target.
* `Log.Record.written`: A record as it is written.
-/

namespace PrintBridge

namespace Log

/-- The threshold with a name, in any case of ASCII. -/
def Threshold.ofName? (name : String) : Option Threshold :=
  (Threshold.named.find? fun t => t.1 == name.toLower).map Prod.snd

/-- A threshold for the targets that begin with a name, or for all. -/
structure Directive where
  name : Option String
  threshold : Threshold
deriving DecidableEq

namespace Directive

/-- The length of the name, in bytes. -/
def reach (d : Directive) : Nat := (d.name.map fun name => (Utf8.encode name).length).getD 0

/-- Whether the directive is about a target. -/
def fits (d : Directive) (target : String) : Bool :=
  d.name.all fun name => name.toList.isPrefixOf target.toList

end Directive

/-- What a specification says. -/
structure Spec where
  directives : List Directive
  /-- The pattern that has to occur in the text of a record. -/
  pattern : Option Pattern
  warnings : List String
deriving DecidableEq

namespace Spec

/-- The parts of a text between separators. -/
def splitOn (separator : Char) : List Char → List (List Char)
  | [] => [[]]
  | c :: rest =>
    match splitOn separator rest with
    | [] => [[c]]
    | first :: others =>
      if c = separator then [] :: first :: others else (c :: first) :: others

/-- A text without the white space around it. -/
def trim (cs : List Char) : List Char :=
  let fromFront := cs.dropWhile Text.whiteSpace.member
  (fromFront.reverse.dropWhile Text.whiteSpace.member).reverse

/-- The warning about what cannot be read. -/
def unreadable (cs : List Char) : String :=
  "invalid logging spec '" ++ String.ofList cs ++ "'"

/-- The directive that a trimmed item gives, or what is wrong with it. -/
def item (cs : List Char) : Except String Directive :=
  match splitOn '=' cs with
  | [only] =>
    match Threshold.ofName? (String.ofList only) with
    | some threshold => .ok ⟨none, threshold⟩
    | none => .ok ⟨some (String.ofList only), some .trace⟩
  | [name, level] =>
    let level := trim level
    if level.isEmpty then .ok ⟨some (String.ofList name), some .trace⟩
    else match Threshold.ofName? (String.ofList level) with
      | some threshold => .ok ⟨some (String.ofList name), threshold⟩
      | none => .error (unreadable level)
  | _ => .error (unreadable cs)

/-- The items of a list, each read or refused. -/
def items (list : List Char) : List (Except String Directive) :=
  (((splitOn ',' list).map trim).filter fun cs => !cs.isEmpty).map item

/-- The pattern that a text gives, or the warning about it. -/
def patternOf (text : List Char) : Except String Pattern :=
  (Pattern.ofText (String.ofList text)).mapError fun refusal =>
    "invalid regex filter - " ++ refusal.text (String.ofList text)

/-- The warning where there is one. -/
def warning? {α : Type} : Except String α → Option String
  | .ok _ => none
  | .error warning => some warning

/-- What a text says as a specification. -/
def read (s : String) : Spec :=
  match splitOn '/' s.toList with
  | [] => ⟨[], none, []⟩
  | list :: behind =>
    if 1 < behind.length then
      ⟨[], none, [unreadable s.toList ++ " (too many '/'s)"]⟩
    else
      let read := items list
      let pattern := behind.head?.map patternOf
      ⟨read.filterMap Except.toOption, pattern.bind Except.toOption,
        read.filterMap warning? ++ (pattern.bind warning?).toList⟩

end Spec

/-- Which records are written. -/
structure Filter where
  directives : List Directive := []
  /-- The pattern that has to occur in the text of a record. -/
  pattern : Option Pattern := none
deriving DecidableEq

namespace Filter

/-- Takes a directive up, in the place of one with the same name or at the
    end. -/
def insert (d : Directive) : List Directive → List Directive
  | [] => [d]
  | e :: rest => if e.name = d.name then d :: rest else e :: insert d rest

/-- Takes up what a specification says. -/
def add (f : Filter) (spec : Spec) : Filter :=
  ⟨spec.directives.foldl (fun ds d => insert d ds) f.directives, spec.pattern⟩

/-- The filter of several specifications, and the warnings about them. -/
def ofSpecs (specs : List String) : Filter × List String :=
  let read := specs.map Spec.read
  (read.foldl add {}, read.flatMap Spec.warnings)

/-- Directives from those with short names to those with long ones. -/
def ordered (ds : List Directive) : List Directive := ds.mergeSort fun a b => a.reach ≤ b.reach

/-- The directive for a target: the one with the longest name that fits, and of
    equally long ones the last. -/
def directive? (f : Filter) (target : String) : Option Directive :=
  (ordered f.directives).reverse.find? fun d => d.fits target

/-- The threshold for a target. -/
def threshold (f : Filter) (target : String) : Threshold :=
  ((f.directive? target).map Directive.threshold).getD none

/-- The filter as a gate, for what it says about levels and targets. -/
def gate (f : Filter) : Gate := ⟨fun level target => (f.threshold target).admits level⟩

/-- Whether a record is written. -/
def hears (f : Filter) (r : Record) : Bool :=
  f.gate.hears r && f.pattern.all fun pattern => pattern.occursIn r.text

end Filter

/-- The label of a level, filled up to the width of the longest. -/
def Level.padded (l : Level) : String :=
  l.label ++ String.ofList (List.replicate (5 - l.label.length) ' ')

/-- A text whose later lines are set in. -/
def indented (text : String) : List Char :=
  text.toList.flatMap fun c => if c = '\n' then '\n' :: List.replicate 4 ' ' else [c]

/-- A record as it is written: on a line of its own, with its level and
    target in front, the later lines of its text set in, and nothing in it
    that only a terminal would understand. -/
def Record.written (r : Record) : Bytes :=
  Terminal.strip (Utf8.encode
    ("[" ++ r.level.padded ++ " " ++ r.target ++ "] " ++ String.ofList (indented r.text)
      ++ "\n"))

end Log

end PrintBridge
