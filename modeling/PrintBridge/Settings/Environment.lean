import PrintBridge.Settings.Project

/-!
# Settings from the Environment

Four variables of the environment override settings. A variable is bytes, and
one that is no text counts as unset. The override of a stream or a log level
is checked before it is taken, and everything is checked once more when all
overrides are in place.

A section that a variable speaks about comes into being with it.

## Main definitions

* `Environment`: The variables.
* `Overrides`: The four of them that matter, as texts.
* `Overrides.apply`: Settings with the overrides in place.
-/

namespace PrintBridge

/-- The variables of the environment. -/
structure Environment where
  get? : String → Option Bytes

/-- The text of a variable. -/
def Environment.text? (e : Environment) (name : String) : Option String :=
  (e.get? name).bind Utf8.decode?

/-- The variables that override settings, as texts. -/
structure Overrides where
  library : Option String := none
  symbol : Option String := none
  output : Option String := none
  log : Option String := none
deriving DecidableEq

namespace Overrides

/-- The variable that names the library. -/
def libraryVariable : String := "JMATE_NATIVE_LIBRARY"

/-- The variable that names the symbol. -/
def symbolVariable : String := "JMATE_NATIVE_SYMBOL"

/-- The variable that names the stream. -/
def outputVariable : String := "JMATE_OUTPUT"

/-- The variable that names the log level. -/
def levelVariable : String := "JMATE_LOG"

/-- The variables that override settings. -/
def variableNames : List String :=
  [libraryVariable, symbolVariable, outputVariable, levelVariable]

/-- The overrides in an environment. -/
def ofEnvironment (e : Environment) : Overrides where
  library := e.text? libraryVariable
  symbol := e.text? symbolVariable
  output := e.text? outputVariable
  log := e.text? levelVariable

/-- The native section with its overrides. -/
def native (o : Overrides) (given : Option NativeSettings) : Option NativeSettings :=
  let withLibrary := match o.library with
    | none => given
    | some library => some { given.getD {} with library := some library }
  match o.symbol with
  | none => withLibrary
  | some symbol => some { withLibrary.getD {} with symbol := some symbol }

/-- The output section with its override. -/
def output? (o : Overrides) (given : Option OutputSettings) :
    Except SettingsError (Option OutputSettings) :=
  match o.output with
  | none => .ok given
  | some name =>
    (OutputStream.parse name).map fun s => some { given.getD {} with stream := some s }

/-- The log section with its override. -/
def log? (o : Overrides) (given : Option LogSettings) :
    Except SettingsError (Option LogSettings) :=
  match o.log with
  | none => .ok given
  | some level =>
    (checkLevel levelVariable level).map fun _ => some { given.getD {} with level := some level }

/-- Settings with the overrides in place. -/
def apply (o : Overrides) (p : ProjectSettings) : Except SettingsError ProjectSettings := do
  let output ← o.output? p.output
  let log ← o.log? p.log
  let merged : ProjectSettings := ⟨o.native p.native, output, log⟩
  merged.validate
  return merged

end Overrides

end PrintBridge
