import PrintBridge.Settings.Decode
import PrintBridge.Settings.Environment

/-!
# Finding Settings

Settings come from a file that is named, or from the nearest one at or above
a directory, going up by the text of the path. Whatever stands under the name
of the settings file ends the search, also if it turns out not to be usable.
Where there is no such file the settings are the defaults. The environment
overrides either.

A file is checked on its own before the environment is looked at.

## Main definitions

* `Settings`: Settings with the directory that they were found in.
* `Settings.fromFile`, `Settings.fromDirectory`: Loading.
-/

namespace PrintBridge

/-- The name of the settings file. -/
def settingsFile : String := "jmate.toml"

/-- Settings with the directory that they were found in, if they were found. -/
structure Settings where
  project : ProjectSettings
  root : Option Path
deriving DecidableEq

namespace Settings

/-- The symbol of the native routine. -/
def symbol (s : Settings) : String := s.project.effectiveNative.effectiveSymbol

/-- The library of the native routine, or none for the process. -/
def library (s : Settings) : Option String := s.project.effectiveNative.effectiveLibrary

/-- The stream that is printed to. -/
def outputStream (s : Settings) : OutputStream := s.project.stream?.getD .stdout

/-- The log level. -/
def level (s : Settings) : String := s.project.level?.getD defaultLevel

/-- The settings in a file, checked. -/
def readFile (files : Files) (path : Path) : Except SettingsError ProjectSettings := do
  let content ← match files.readText path with
    | .ok content => .ok content
    | .error .notFound => .error (.notFound path)
    | .error reason => .error (.unreadable reason)
  let project ← match ProjectSettings.ofText content with
    | .ok project => .ok project
    | .error detail => .error (.malformed path detail)
  project.validate
  return project

/-- Settings from a file that is named. -/
def fromFile (files : Files) (o : Overrides) (path : Path) : Except SettingsError Settings := do
  let project ← readFile files path
  return ⟨← o.apply project, path.parent?⟩

/-- The settings file in a directory. -/
def fileIn (directory : Path) : Path := directory.join (Path.ofText settingsFile)

/-- The nearest directory with a settings file at or above another. -/
def findRoot? (files : Files) (start : Path) : Option Path :=
  start.ancestors.find? fun d => files.hasEntry (fileIn d)

/-- Settings for a directory. -/
def fromDirectory (files : Files) (o : Overrides) (start : Path) :
    Except SettingsError Settings := do
  let root := findRoot? files start
  let project ← match root with
    | some directory => readFile files (fileIn directory)
    | none => .ok {}
  return ⟨← o.apply project, root⟩

end Settings

end PrintBridge
