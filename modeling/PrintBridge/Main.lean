import PrintBridge.CommandLine.Places
import PrintBridge.Library.Snapshot
import PrintBridge.Sink.Plan

/-!
# The Program

The command line of the print bridge. It looks at the files and variables
that a run asks for, leaves everything else to the run, and writes down what
the run comes to.

## Main definitions

* `main`: The program.
-/

namespace PrintBridge

namespace CommandLine

/-- What is found at a path. -/
def look (path : Path) : IO Sight := do
  try
    let content ← IO.FS.readBinFile path.display
    return ⟨path, .ok content.toList⟩
  catch
    | .noFileOrDirectory .. => return ⟨path, .error .notFound⟩
    | .inappropriateType _ 21 _ => return ⟨path, .error .isDirectory⟩
    | .inappropriateType .. => return ⟨path, .error .notDirectory⟩
    | .invalidArgument _ 22 _ => return ⟨path, .error .nulInName⟩
    | .invalidArgument .. => return ⟨path, .error .nameTooLong⟩
    | e => return ⟨path, .error (.other (toString e))⟩

/-- The variables that a run asks for. -/
def environment : IO Environment := do
  let pairs ← variableNames.mapM fun name => do return (name, ← IO.getEnv name)
  return ⟨fun name =>
    ((pairs.find? fun pair => pair.1 == name).bind Prod.snd).map Utf8.encode⟩

/-- The working directory, if it is known. -/
def workingDirectory : IO (Option Path) := do
  try
    return some (Path.ofText (toString (← IO.currentDir)))
  catch _ => return none

/-- The surroundings with files as they were seen. -/
def surroundings (e : Environment) (working : Option Path) (s : Snapshot) :
    Surroundings Unit Bytes where
  host := Host.ofSnapshot s working
  environment := e
  routine := ()
  sink := Sink.memory
  output := []

/-- Carries out what the arguments ask for. The library is looked for when
    the settings are known that name it. -/
def perform (i : Invocation) : IO Completion := do
  let e ← environment
  let working ← workingDirectory
  let seen ← (settingsPlaces i.options working).mapM look
  let libraries ← match (surroundings e working seen).settings i.options.config with
    | .error _ => pure []
    | .ok settings => (libraryPlaces settings working).mapM look
  return i.run (surroundings e working (seen ++ libraries))

/-- Writes bytes and flushes. -/
def put (stream : IO.FS.Stream) (bytes : Bytes) : IO Unit := do
  stream.write bytes.toByteArray
  stream.flush

end CommandLine

end PrintBridge

open PrintBridge in
/-- The program. -/
def main (args : List String) : IO UInt32 := do
  let output ← IO.getStdout
  let errors ← IO.getStderr
  match CommandLine.Invocation.read (args.map Utf8.encode) with
  | .error ending =>
    CommandLine.put output (Utf8.encode ending.stdout)
    CommandLine.put errors (Utf8.encode ending.stderr)
    return ending.status.toUInt32
  | .ok i =>
    let c ← CommandLine.perform i
    CommandLine.put output c.stdout
    CommandLine.put errors c.stderr
    return c.status.toUInt32
