import PrintBridge.Failure
import PrintBridge.Settings.Project

/-!
# Failure Reports

How the program tells why it failed. A report names the failure first and
then what lies behind it, set in and numbered where there is more than one
cause. A cause that goes over several lines is set in as a whole.

## Main definitions

* `Report`: What is told.
* `Report.text`: How it is told.
* `Failure`: Why the program fails.
* `Failure.report?`: What is told about a failure.
-/

namespace PrintBridge

namespace CommandLine

/-- What is told about a failure. -/
structure Report where
  title : String
  causes : List String
deriving DecidableEq

namespace Report

/-- A cause, opened as given and with its later lines set in by so many
    blanks. -/
def cause (opening : String) (inset : Nat) (text : String) : String :=
  opening ++ String.ofList (text.toList.flatMap fun c =>
    if c = '\n' then '\n' :: List.replicate inset ' ' else [c])

/-- The number of a cause, right-aligned. -/
def numbered (n : Nat) : String :=
  let digits := n.repr
  String.ofList (List.replicate (5 - digits.length) ' ') ++ digits ++ ": "

/-- The causes, each as it stands on lines of its own. -/
def causeLines : List String → List String
  | [] => []
  | [only] => [cause "    " 4 only]
  | causes => causes.mapIdx fun i text => cause (numbered i) 7 text

/-- The report as it is written, with the end of its last line. -/
def text (r : Report) : String :=
  let behind := match r.causes with
    | [] => ""
    | causes => "\n\nCaused by:" ++ String.join ((causeLines causes).map fun line => "\n" ++ line)
  "Error: " ++ r.title ++ behind ++ "\n"

end Report

/-- Why the program fails. -/
inductive Failure where
  /-- The working directory is not known. -/
  | nowhere (reason : FileError)
  /-- There are no usable settings, in the file that was named or in one that
      was searched for. -/
  | settings (file : Option Path) (error : SettingsError)
  /-- A call cannot be made: its routine is not found, or there is no entry
      point for it. -/
  | call (error : PrintError)
  /-- A printing command failed on a text. -/
  | printing (command text : String) (error : PrintError)
  /-- The output broke down. -/
  | breakdown
deriving DecidableEq

namespace Failure

/-- What the settings were wanted for. -/
def settingsTitle : Option Path → String
  | some file => "Failed to load config: " ++ file.display
  | none => "Failed to load project configuration"

/-- What is told about a failure. Nobody is left to tell of a breakdown. -/
def report? : Failure → Option Report
  | nowhere reason => some ⟨reason.message, []⟩
  | settings file error => some ⟨settingsTitle file, error.message :: error.causes⟩
  | call error => some ⟨error.message, error.causes⟩
  | printing command text error =>
    some ⟨command ++ " " ++ Text.quote text ++ " failed", error.message :: error.causes⟩
  | breakdown => none

/-- The exit status of the program. -/
def status : Failure → Nat
  | breakdown => 101
  | _ => 1

theorem status_ne_zero (f : Failure) : f.status ≠ 0 := by
  cases f <;> exact Nat.succ_ne_zero _

end Failure

end CommandLine

end PrintBridge
