/-!
# Log Records

What the library says about its own work. A record has a level, a target that
names the part of the library which speaks, and a text. Whether anybody hears
a record is decided by a gate, from level and target alone; speaking is the
same whether or not anybody listens, so no result can depend on the gate.

## Main definitions

* `Level`, `Threshold`: Levels, and the least urgent level still let through.
* `Record`: A log record.
* `Gate`: Who is heard.

## Theorems

* `admits_mono`: A threshold that lets a level through lets every more urgent
  one through.
-/

namespace PrintBridge

namespace Log

/-- Levels, the most urgent first. -/
inductive Level where
  | error
  | warn
  | info
  | debug
  | trace
deriving DecidableEq

namespace Level

/-- The place of a level, from one for the most urgent. -/
def rank : Level → Nat
  | error => 1
  | warn => 2
  | info => 3
  | debug => 4
  | trace => 5

/-- The name of a level in a record. -/
def label : Level → String
  | error => "ERROR"
  | warn => "WARN"
  | info => "INFO"
  | debug => "DEBUG"
  | trace => "TRACE"

end Level

/-- The least urgent level that is let through, or nothing at all. -/
abbrev Threshold := Option Level

namespace Threshold

/-- Whether the threshold lets a level through. -/
def admits (t : Threshold) (l : Level) : Bool := t.any fun least => l.rank ≤ least.rank

theorem admits_mono (t : Threshold) (l m : Level) (h : l.rank ≤ m.rank)
    (hm : admits t m = true) : admits t l = true := by
  cases t with
  | none => exact hm
  | some least =>
    simp only [admits, Option.any_some, decide_eq_true_eq] at hm ⊢
    omega

/-- The thresholds by name, the strictest first. -/
def named : List (String × Threshold) :=
  [("off", none), ("error", some .error), ("warn", some .warn), ("info", some .info),
    ("debug", some .debug), ("trace", some .trace)]

end Threshold

/-- A log record. -/
structure Record where
  level : Level
  target : String
  text : String
deriving DecidableEq

/-- A record on one line, where the text has no line breaks. -/
def Record.line (r : Record) : String := r.level.label ++ " " ++ r.target ++ " " ++ r.text

/-- Which records are heard. -/
structure Gate where
  admits : Level → String → Bool

namespace Gate

/-- Hears every target down to one level. -/
def upTo (t : Threshold) : Gate := ⟨fun level _ => t.admits level⟩

/-- Whether a record is heard. -/
def hears (g : Gate) (r : Record) : Bool := g.admits r.level r.target

end Gate

end Log

end PrintBridge
