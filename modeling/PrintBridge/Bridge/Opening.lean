import PrintBridge.Library.Loader
import PrintBridge.Settings.Project

/-!
# Opening the Native Side

The routine that the native settings name: the symbol in the library, or in
the process where no library is named. That it was found is logged once.

## Main definitions

* `NativeSettings.openRoutine`: The routine that the settings name.
-/

namespace PrintBridge

/-- The routine that the settings name. -/
def NativeSettings.openRoutine {ρ : Type} (n : NativeSettings) (host : Host ρ) :
    Action (Loader ρ) (Routine ρ) := do
  let routine ← Loader.resolve host n.effectiveLibrary n.effectiveSymbol
  Action.log .debug "jmate_io::native"
    ("native bridge ready: " ++ n.effectiveSymbol ++ " from "
      ++ n.effectiveLibrary.getD "process image")
  return routine

end PrintBridge
