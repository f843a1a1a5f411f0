import PrintBridge.CommandLine.Run

/-!
# Places of a Run

Which files a run asks for. The settings file is the one that is named, or
one at or above the working directory, and the library is at its own path or
at one of the places where it is searched for. Everything else that a run
depends on is known without looking at files.

## Main definitions

* `settingsPlaces`: Where a settings file may stand.
* `libraryPlaces`: Where the native library may stand.
-/

namespace PrintBridge

namespace CommandLine

/-- The variables of the environment that a run asks for. -/
def variableNames : List String := Overrides.variableNames ++ [Options.logVariable]

/-- The paths where a settings file may stand. -/
def settingsPlaces (o : Options) (working : Option Path) : List Path :=
  match o.config with
  | some path => [path]
  | none => (working.toList.flatMap Path.ancestors).map Settings.fileIn

/-- The paths where the native library may stand. -/
def libraryPlaces (settings : Settings) (working : Option Path) : List Path :=
  settings.library.toList.flatMap fun name =>
    let path := Path.ofText name
    if path.isAbsolute then [path]
    else (Search.directories working).flatMap (Search.candidates name)

end CommandLine

end PrintBridge
