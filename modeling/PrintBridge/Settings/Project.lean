import PrintBridge.Files.View
import PrintBridge.Log
import PrintBridge.Text.Blank
import PrintBridge.Text.Lowercase

/-!
# Project Settings

The settings of a project, in three sections: where the native routine is
found, which stream is printed to, and how much is logged. Sections and
settings can be absent, and what is absent has a default.

Settings are valid when the names in them can be names at all and the log
level is one of the known six. A level may be spelled in any case, and so may
a stream in the environment, where case is folded the way Unicode folds it.

## Main definitions

* `ProjectSettings`: The settings of a project.
* `SettingsError`: Why settings cannot be used.
* `ProjectSettings.validate`: The check for validity.
* `OutputStream.parse`: The stream that a text names.

## Theorems

* `validate_default`: Settings without sections are valid.
-/

namespace PrintBridge

/-- The streams that can be printed to. -/
inductive OutputStream where
  | stdout
  | stderr
deriving DecidableEq

/-- The name of a stream. -/
def OutputStream.name : OutputStream → String
  | stdout => "stdout"
  | stderr => "stderr"

/-- Where the native routine is found. -/
structure NativeSettings where
  library : Option String := none
  symbol : Option String := none
deriving DecidableEq

/-- What is printed to. -/
structure OutputSettings where
  stream : Option OutputStream := none
deriving DecidableEq

/-- How much is logged. -/
structure LogSettings where
  level : Option String := none
deriving DecidableEq

/-- The settings of a project, by sections. -/
structure ProjectSettings where
  native : Option NativeSettings := none
  output : Option OutputSettings := none
  log : Option LogSettings := none
deriving DecidableEq

/-- Why settings cannot be used. -/
inductive SettingsError where
  | notFound (path : Path)
  | unreadable (reason : FileError)
  /-- The file at the path is no document, or not one of settings. What is
      wrong with the settings in it is said where it is known. -/
  | malformed (path : Path) (detail : Option String)
  | invalidValue (field reason : String)
deriving DecidableEq

namespace SettingsError

/-- The text of an error up to the detail, and the detail. -/
def parts : SettingsError → String × String
  | notFound path => ("Configuration file not found: ", path.display)
  | unreadable reason => ("Failed to read configuration file: ", reason.message)
  | malformed path detail =>
    ("Invalid TOML syntax in " ++ path.display, ": " ++ detail.getD "malformed document")
  | invalidValue field reason => ("Invalid value for '" ++ field ++ "': ", reason)

/-- The text of an error. -/
def message (e : SettingsError) : String := e.parts.1 ++ e.parts.2

/-- The texts of what lies behind an error. -/
def causes : SettingsError → List String
  | unreadable reason => [reason.message]
  | _ => []

end SettingsError

/-- The symbol of the native routine where none is given. -/
def defaultSymbol : String := "snprintf"

/-- The library of the native routine where none is given: the process. -/
def defaultLibrary : Option String := none

/-- The log level where none is given. -/
def defaultLevel : String := "warn"

/-- The effective symbol. -/
def NativeSettings.effectiveSymbol (n : NativeSettings) : String := n.symbol.getD defaultSymbol

/-- The effective library, or none for the process. -/
def NativeSettings.effectiveLibrary (n : NativeSettings) : Option String :=
  n.library.or defaultLibrary

/-- The stream that a text names, in any case. The text is shown folded in the
    failure. -/
def OutputStream.parse (s : String) : Except SettingsError OutputStream :=
  let folded := Text.lowercase s
  if folded = OutputStream.stdout.name then .ok .stdout
  else if folded = OutputStream.stderr.name then .ok .stderr
  else .error (.invalidValue "output.stream"
    ("expected 'stdout' or 'stderr', got '" ++ folded ++ "'"))

/-- The names of the log levels, the strictest first. -/
def levelNames : List String := Log.Threshold.named.map Prod.fst

/-- The check of a log level that a field gives. -/
def checkLevel (field value : String) : Except SettingsError Unit :=
  if Text.lowercase value ∈ levelNames then .ok ()
  else .error (.invalidValue field
    ("expected one of " ++ ", ".intercalate levelNames ++ ", got '" ++ value ++ "'"))

namespace ProjectSettings

/-- The native section, which is empty where it is absent. -/
def effectiveNative (p : ProjectSettings) : NativeSettings := p.native.getD {}

/-- The stream, if one is given. -/
def stream? (p : ProjectSettings) : Option OutputStream := p.output.bind OutputSettings.stream

/-- The log level, if one is given. -/
def level? (p : ProjectSettings) : Option String := p.log.bind LogSettings.level

/-- The check of a symbol. -/
def checkSymbol (symbol : String) : Except SettingsError Unit :=
  if Text.isBlank symbol then
    .error (.invalidValue "native.symbol" "symbol name cannot be empty")
  else if '\x00' ∈ symbol.toList then
    .error (.invalidValue "native.symbol" "symbol name cannot contain a NUL byte")
  else .ok ()

/-- The check of a library. -/
def checkLibrary (library : String) : Except SettingsError Unit :=
  if Text.isBlank library then
    .error (.invalidValue "native.library" "library path cannot be empty")
  else .ok ()

/-- The check for validity: symbol, library, log level. What is absent is
    valid. -/
def validate (p : ProjectSettings) : Except SettingsError Unit := do
  match p.effectiveNative.symbol with
  | none => pure ()
  | some symbol => checkSymbol symbol
  match p.effectiveNative.library with
  | none => pure ()
  | some library => checkLibrary library
  match p.level? with
  | none => pure ()
  | some level => checkLevel "log.level" level

theorem validate_default : validate {} = .ok () := rfl

end ProjectSettings

end PrintBridge
