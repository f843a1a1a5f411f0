import PrintBridge.Bridge.Native
import PrintBridge.Bridge.Opening
import PrintBridge.CommandLine.Arguments
import PrintBridge.CommandLine.Report
import PrintBridge.Literal
import PrintBridge.Log.Filter
import PrintBridge.Settings.Discovery
import PrintBridge.Stream

/-!
# Running the Program

A run loads the settings, chooses the stream, and carries its command out.
Nothing is printed before the native side is open, and whatever fails ends
the run. A printing command does what a print stream does with the expanded
text and with the values that its arguments denote, so it prints all of a
call or nothing of it, and on one stream.

Log records go to the error stream, in between what is printed there.
Warnings about what is to be logged come before everything else, and the
report on a failure comes last.

## Main definitions

* `Surroundings`: What the program finds around it.
* `Job`: What is printed.
* `Completion`: What a run comes to.
* `Invocation.run`: A run.
* `CommandLine.run`: A run from the arguments on.

## Theorems

* `status_eq_zero_iff`: The exit status is zero exactly where nothing failed.
-/

namespace PrintBridge

namespace CommandLine

/-- What the program finds around it. Both output streams take bytes like one
    sink. -/
structure Surroundings (ρ τ : Type) where
  host : Host ρ
  environment : Environment
  /-- The state in which the routine is found. -/
  routine : ρ
  sink : Sink τ
  /-- The state in which the chosen stream is found. -/
  output : τ

/-- What is printed, as a link of a chain. -/
structure Job where
  /-- The subcommand that prints. -/
  command : Subcommand
  /-- The text that the subcommand was given, expanded. -/
  text : String
  link : Link
  /-- What is logged before anything else. -/
  announced : Trace

namespace Job

/-- Printing with a format and arguments. -/
def printf (format : String) (args : List String) : Job :=
  let expanded := Text.expand format
  let values := args.map Literal.read
  { command := .printf
    text := expanded
    link := .printf expanded (Box.allocate 0 values)
    announced := [.logged ⟨.debug, "jmate::commands::printf",
      "printf " ++ Text.quote expanded ++ " with ["
        ++ ", ".intercalate (values.map Value.text) ++ "]"⟩] }

/-- Printing a line. -/
def println (text : String) : Job :=
  let expanded := Text.expand text
  { command := .println, text := expanded, link := .println expanded, announced := [] }

end Job

/-- What a run comes to. -/
structure Completion where
  /-- What is answered on the standard output, apart from what is printed. -/
  answer : String := ""
  /-- The stream that is printed to. -/
  stream : OutputStream := .stdout
  filter : Log.Filter := {}
  warnings : List String := []
  trace : Trace := []
  failure : Option Failure := none

namespace Completion

/-- The bytes that are printed to a stream. -/
def printed (c : Completion) (stream : OutputStream) : Bytes :=
  if c.stream = stream then c.trace.accepted else []

/-- What an event leaves on the error stream. -/
def errorBytes (c : Completion) : Event → Bytes
  | .logged record => if c.filter.hears record then record.written else []
  | event => if c.stream = .stderr then event.accepted else []

/-- A warning as it is written. -/
def warned (warning : String) : String := "warning: " ++ warning ++ ", ignoring it\n"

/-- What stands on the standard output in the end. -/
def stdout (c : Completion) : Bytes := Utf8.encode c.answer ++ c.printed .stdout

/-- What stands on the error stream before any report. -/
def stderrBeforeReport (c : Completion) : Bytes :=
  Utf8.encode (String.join (c.warnings.map warned)) ++ c.trace.flatMap c.errorBytes

/-- What stands on the error stream in the end. -/
def stderr (c : Completion) : Bytes :=
  c.stderrBeforeReport ++
    Utf8.encode (((c.failure.bind Failure.report?).map Report.text).getD "")

/-- The exit status. -/
def status (c : Completion) : Nat := (c.failure.map Failure.status).getD 0

/-- The exit status is zero exactly where nothing failed. -/
theorem status_eq_zero_iff (c : Completion) : c.status = 0 ↔ c.failure = none := by
  rcases hc : c.failure with _ | f
  · simp only [status, hc, Option.map_none, Option.getD_none]
  · simp only [status, hc, Option.map_some, Option.getD_some, reduceCtorEq, iff_false]
    exact f.status_ne_zero

end Completion

variable {ρ τ : Type}

namespace Surroundings

/-- The settings for a run, from the file that is named or from the nearest
    one at or above the working directory. -/
def settings (s : Surroundings ρ τ) (file : Option Path) : Except Failure Settings :=
  let overrides := Overrides.ofEnvironment s.environment
  match file, s.host.working with
  | some path, _ =>
    (Settings.fromFile s.host.files overrides path).mapError (.settings file)
  | none, some directory =>
    (Settings.fromDirectory s.host.files overrides directory).mapError (.settings file)
  | none, none => .error (.nowhere .notFound)

end Surroundings

namespace Options

/-- The name of the level that is logged by so much verbosity. -/
def levelName (o : Options) (settings : Settings) : String :=
  match o.verbosity with
  | 0 => settings.level
  | 1 => "info"
  | 2 => "debug"
  | _ => "trace"

/-- The variable that refines what is logged. -/
def logVariable : String := "RUST_LOG"

/-- The specification under which the calls of entry points are logged. -/
def traceSpec : String := "jmate_io::bridge=debug"

/-- The specifications of the log filter: the level, then the calls of entry
    points where they are traced, then what the environment asks for. -/
def logSpecs (o : Options) (settings : Settings) (e : Environment) : List String :=
  [o.levelName settings] ++ (if o.trace then [traceSpec] else [])
    ++ (e.text? logVariable).toList

/-- The stream that is printed to. -/
def stream (o : Options) (settings : Settings) : OutputStream :=
  if o.stderr then .stderr else settings.outputStream

/-- The wrappers of the bridge. -/
def wrappers (o : Options) : List Wrapper := if o.trace then [.traced, .owned] else [.owned]

end Options

/-- The failure that an action stopped with. -/
def stopped (told : PrintError → Failure) : Stop → Failure
  | .failure e => told e
  | .panic => .breakdown

/-- Does a job: what happens, and the failure that ended it. -/
def Job.run (job : Job) (s : Surroundings ρ τ) (native : NativeSettings)
    (wrappers : List Wrapper) : Trace × Option Failure :=
  let opened := native.openRoutine s.host (Loader.start s.host)
  match opened.result with
  | .error stop => (job.announced ++ opened.trace, some (stopped .call stop))
  | .ok routine =>
    let bridge := Wrapper.wrapAll wrappers (Bridge.native routine s.sink)
    let done := Stream.runLink bridge job.link ⟨s.routine, Guarded.fresh s.output⟩
    (job.announced ++ opened.trace ++ done.trace,
      match done.result with
      | .ok () => none
      | .error stop => some (stopped (.printing job.command.name job.text) stop))

/-- The table of entry points, one on a line. -/
def entryTable : String :=
  String.join (EntryPoint.all.map fun e => e.arity.repr ++ "  " ++ e.name ++ "\n")

/-- Carries a command out under settings. -/
def Invocation.carryOut (i : Invocation) (s : Surroundings ρ τ) (settings : Settings) :
    Completion :=
  let (filter, warnings) := Log.Filter.ofSpecs (i.options.logSpecs settings s.environment)
  let start : Completion :=
    { stream := i.options.stream settings, filter := filter, warnings := warnings }
  let print (job : Job) : Completion :=
    let (trace, failure) := job.run s settings.project.effectiveNative i.options.wrappers
    { start with trace := trace, failure := failure }
  match i.command with
  | .printf format args => print (.printf format args)
  | .println text => print (.println text)
  | .entry none => { start with answer := entryTable }
  | .entry (some count) =>
    match EntryPoint.select count with
    | .ok e => { start with answer := e.name ++ "\n" }
    | .error e => { start with failure := some (.call e) }

/-- A run of the program. -/
def Invocation.run (i : Invocation) (s : Surroundings ρ τ) : Completion :=
  match s.settings i.options.config with
  | .error failure => { failure := some failure }
  | .ok settings => i.carryOut s settings

/-- A run of the program from its arguments on, if they ask for a command. -/
def run (args : List Bytes) (s : Surroundings ρ τ) : Except Ending Completion :=
  (Invocation.read args).map fun i => i.run s

/-- The name of the program. -/
def programName : String := "jmate"

/-- The version of the program. -/
def version : String := "0.1.0"

/-- How the program is used. -/
def usage : String :=
  "Usage: jmate [OPTIONS] <COMMAND>\n\n" ++
  "Commands:\n" ++
  "  printf <FORMAT> [ARGS]...  Format and print arguments\n" ++
  "  println <TEXT>             Print text followed by a newline\n" ++
  "  entry [N]                  Show the entry point selected for N arguments\n" ++
  "  help [COMMAND]             Show this text\n\n" ++
  "Options:\n" ++
  "      --config <PATH>  Settings file to use\n" ++
  "  -v, --verbose...     Log more\n" ++
  "      --trace          Log every entry point invocation\n" ++
  "      --stderr         Print to the error stream\n" ++
  "  -h, --help           Show this text\n" ++
  "  -V, --version        Show the version\n"

namespace Ending

/-- The exit status. -/
def status : Ending → Nat
  | misuse => 2
  | help => 0
  | version _ => 0

/-- What is written to the standard output. -/
def stdout : Ending → String
  | misuse => ""
  | help => usage
  | version none => programName ++ " " ++ CommandLine.version ++ "\n"
  | version (some c) => programName ++ "-" ++ c.name ++ " " ++ CommandLine.version ++ "\n"

/-- What is written to the error stream. -/
def stderr : Ending → String
  | misuse => usage
  | _ => ""

end Ending

end CommandLine

end PrintBridge
