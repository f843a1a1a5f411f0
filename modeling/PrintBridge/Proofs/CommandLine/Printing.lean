import Mathlib.Data.List.Flatten
import PrintBridge.CommandLine.Run
import PrintBridge.Library.Snapshot
import PrintBridge.Proofs.Bridge.Output
import PrintBridge.Proofs.Settings.Variables
import PrintBridge.Proofs.Sink.Sparing
import PrintBridge.Proofs.Stream.Wrapping
import PrintBridge.Sink.Plan

/-!
# Printing from the Command Line

A run of a printing command is one library call, on one stream, and nothing else is
printed.

Before the call there are two stages that can fail. The settings are loaded and the
routine that they name is found, and until then nothing has touched a stream. The
call itself has the stages of any native call: its arguments are counted, lowered and
rendered before the first byte is written. So a run that fails at any of these stages
has printed nothing, and a run that succeeds has printed all of one rendering. The
wrappers that the flags ask for add log records and change nothing.

The error stream also takes log records, what the log has to say about its own
filter, and at the end the report of a failure. `Completion.unlogged` is a run as it
would be told without the log.

## Main definitions

* `Action.Quiet`: An action that does not touch the output.
* `Surroundings.Given`: What the settings file of a run gives.
* `Options.Chooses`: The stream that flags, environment and file choose.
* `Completion.Prints`: A run prints some bytes to its stream and nothing else.
* `Completion.Comes`: A run comes to what a library call comes to.
* `Command.Asks`: What a printing command has to do.
* `Surroundings.Opens`: Settings are loaded and the routine is found.
* `Surroundings.Renders`: All stages before the first write succeed.
* `Completion.OfPrintf`, `Completion.OfPrintln`: What the two printing commands come
  to.

## Theorems

* `resolve_quiet`: To find a routine does not touch the output.
* `rendering_ok_iff`: The stages of a call before the first write.
* `printf_of_rendered`, `printf_of_unrendered`: A library call, by its rendering.
* `wrapped_runLink`: Wrappers do not change what is printed.
* `unlogged_stderr_sublist`: The log only adds to the error stream.
* `comes_of_opens`: A run over a routine that is found is a library call.
* `nothing_of_closed`, `nothing_of_unrendered`: Any other run prints nothing and
  fails, and so does a call that is not rendered.
* `run_prints`: What runs of the printing commands come to.
-/

namespace PrintBridge

variable {ρ τ σ α β : Type}

section Quiet

/-- An action that neither writes nor flushes. -/
def Action.Quiet (x : Action σ α) : Prop := ∀ s, Trace.outputs (x s).trace = []

namespace Action.Quiet

theorem pure (a : α) : Quiet (Pure.pure a : Action σ α) := fun _ => rfl

theorem fail (e : PrintError) : Quiet (Action.fail e : Action σ α) := fun _ => rfl

theorem log (level : Log.Level) (target text : String) :
    Quiet (Action.log level target text : Action σ Unit) := fun _ => rfl

theorem bind {x : Action σ α} {f : α → Action σ β} (hx : x.Quiet) (hf : ∀ a, (f a).Quiet) :
    Quiet (x >>= f) := by
  intro s
  rcases h : (x s).result with stop | a
  · rw [Action.bind_of_error x f s stop h]
    exact hx s
  · rw [Action.bind_of_ok x f s a h, Trace.outputs_append, hx s, hf a]
    rfl

end Action.Quiet

namespace Loader

theorem load_quiet (host : Host ρ) (name : String) : (load host name).Quiet := by
  intro l
  rcases hpath : l.resolvePath? host name with _ | path
  · rw [load_of_absent host name l hpath]
    rfl
  · rcases hplace : l.find? path with _ | place
    · rcases hopen : host.openLibrary path with reason | image
      · rw [load_of_refused host name l path reason hpath hplace hopen]
        rfl
      · rw [load_of_opened host name l path image hpath hplace hopen]
        rfl
    · rw [load_of_cached host name l path place hpath hplace]
      rfl

/-- To find a routine does not touch the output. -/
theorem resolve_quiet (host : Host ρ) (library : Option String) (symbol : String) :
    (resolve host library symbol).Quiet := by
  have himage : (image host library).Quiet := by
    cases library with
    | none => exact fun _ => rfl
    | some name => exact .bind (load_quiet host name) fun _ _ => rfl
  refine .bind himage fun found => ?_
  cases found.bind (·.lookup? symbol) with
  | none => exact .fail _
  | some routine => exact .bind (fun _ => rfl) fun _ => .pure _

end Loader

theorem NativeSettings.openRoutine_quiet (n : NativeSettings) (host : Host ρ) :
    (n.openRoutine host).Quiet :=
  .bind (Loader.resolve_quiet host _ _) fun _ => .bind (.log _ _ _) fun _ => .pure _

/-- The routine that is opened is the one that is found. -/
theorem NativeSettings.openRoutine_result (n : NativeSettings) (host : Host ρ) (l : Loader ρ) :
    (n.openRoutine host l).result =
      (Loader.resolve host n.effectiveLibrary n.effectiveSymbol l).result := by
  unfold openRoutine
  rcases h : (Loader.resolve host n.effectiveLibrary n.effectiveSymbol l).result with stop | r
  · rw [Action.bind_of_error _ _ l stop h]
  · rw [Action.bind_of_ok _ _ l r h]
    rfl

end Quiet

section Calls

/-- A call is rendered exactly if it has an entry point, it is lowered, and the
    routine renders what was lowered. -/
theorem Print.rendering_ok_iff (routine : Routine ρ) (p : Print) (t : ρ) (bytes : Bytes) :
    (p.rendering routine t).result = .ok bytes ↔
      p.args.length ≤ maxArity ∧ ∃ lowered arena,
        Lowering.call p.format p.values Arena.empty = (.ok lowered, arena) ∧
          (routine.render lowered.format lowered.words arena t).result = .ok bytes := by
  rcases hcall : p.call? with _ | call
  · have hlt := p.call?_eq_none_iff.1 hcall
    have hrendering : p.rendering routine =
        Action.fail (.unsupportedArity p.args.length maxArity) := by
      simp only [Print.rendering, hcall]
    rw [hrendering]
    simp only [Action.fail, reduceCtorEq, Nat.not_le.2 hlt, false_and]
  · rcases (p.call?_eq_some_iff call).1 hcall with ⟨hformat, hargs⟩
    have hrendering : p.rendering routine = Bridge.rendering routine call := by
      simp only [Print.rendering, hcall]
    have hfew : p.args.length ≤ maxArity := by
      rw [← hargs, call.args_length]
      exact call.entry.arity_le
    rw [hrendering, ← hformat, ← p.values_of_call? call hcall]
    rcases hlower : Lowering.call call.format call.values Arena.empty with ⟨e | lowered, arena⟩
    · rw [Bridge.rendering_of_refused routine call e arena hlower]
      simp only [Action.fail, reduceCtorEq, false_iff]
      rintro ⟨-, lowered, left, hlowered, -⟩
      exact absurd (Prod.mk.inj hlowered).1 (by simp only [reduceCtorEq, not_false_eq_true])
    · rw [Bridge.rendering_of_lowered routine call lowered arena hlower]
      refine ⟨fun h => ⟨hfew, lowered, arena, rfl, h⟩, ?_⟩
      rintro ⟨-, again, left, hagain, h⟩
      rcases Prod.mk.inj hagain with ⟨hsame, hleft⟩
      rwa [Except.ok.inj hsame, hleft]

/-- A library call is a dispatch whose entry point is not told. -/
theorem Stream.printf_eq_outcome (b : Bridge σ) (r : Reached σ) :
    printf b r.print.format r.print.args r.state =
      ⟨(r.outcome b).result.map fun _ => (), (r.outcome b).state, (r.outcome b).trace⟩ :=
  Action.bind_return _ (fun _ => ()) r.state

variable (routine : Routine ρ) (sink : Sink τ) (p : Print) (s : NativeState ρ τ)

/-- A library call that was rendered ends as the delivery of what was rendered, and
    prints what is delivered. -/
theorem Stream.printf_of_rendered (bytes : Bytes)
    (h : (p.rendering routine s.routine).result = .ok bytes) :
    (printf (Bridge.native routine sink) p.format p.args s).result =
        (Bridge.deliver sink bytes s.sink.content).result ∧
      Trace.outputs (printf (Bridge.native routine sink) p.format p.args s).trace =
        (Bridge.deliver sink bytes s.sink.content).trace := by
  rw [printf_eq_outcome (Bridge.native routine sink) ⟨p, s⟩]
  refine ⟨?_, Reached.outputs_of_rendered routine sink ⟨p, s⟩ bytes h⟩
  rcases (Reached.outcome_of_rendered routine sink ⟨p, s⟩ bytes h).1 with ⟨entry, hresult⟩
  rw [hresult]
  cases (Bridge.deliver sink bytes s.sink.content).result with
  | _ => rfl

/-- Any other library call fails and prints nothing. -/
theorem Stream.printf_of_unrendered (stop : Stop)
    (h : (p.rendering routine s.routine).result = .error stop) :
    (printf (Bridge.native routine sink) p.format p.args s).result = .error stop ∧
      Trace.outputs (printf (Bridge.native routine sink) p.format p.args s).trace = [] := by
  rw [printf_eq_outcome (Bridge.native routine sink) ⟨p, s⟩]
  rcases Reached.outcome_of_unrendered routine sink ⟨p, s⟩ stop h with ⟨hresult, -, -, houtputs⟩
  rw [hresult]
  exact ⟨rfl, houtputs⟩

/-- A library call that succeeds has printed all of its rendering. -/
theorem Stream.printf_accepted (bytes : Bytes)
    (h : (p.rendering routine s.routine).result = .ok bytes)
    (hok : (printf (Bridge.native routine sink) p.format p.args s).result = .ok ()) :
    Trace.accepted (printf (Bridge.native routine sink) p.format p.args s).trace = bytes := by
  rcases printf_of_rendered routine sink p s bytes h with ⟨hresult, houtputs⟩
  rw [hresult] at hok
  rw [← Trace.accepted_outputs, houtputs]
  exact Bridge.deliver_accepted_of_flushed sink bytes _ .done ((Bridge.deliver_ok_iff ..).1 hok)

/-- Records of logging wrappers are no output. -/
theorem Trace.outputs_unannounced (t : Trace) : outputs (unannounced t) = outputs t := by
  unfold outputs unannounced
  rw [List.filter_filter]
  refine List.filter_congr fun e _ => ?_
  cases e with
  | logged _ => rfl
  | _ => simp only [Event.announces, Bool.not_false, Bool.and_true]

/-- Wrappers do not change how a library call ends, nor what it prints. -/
theorem Stream.wrapped_runLink (ws : List Wrapper) (b : Bridge σ) (link : Link) (t : σ) :
    (runLink (Wrapper.wrapAll ws b) link t).result = (runLink b link t).result ∧
      Trace.outputs (runLink (Wrapper.wrapAll ws b) link t).trace =
        Trace.outputs (runLink b link t).trace := by
  rw [runLink_eq_makeAll, runLink_eq_makeAll]
  rcases (wrapAll_compares ws b).makeAll link.prints t t rfl with ⟨hresult, -, htrace⟩
  refine ⟨hresult, ?_⟩
  rw [← Trace.outputs_unannounced, htrace, Trace.outputs_unannounced]

/-- No newline follows a text that failed. -/
theorem Stream.println_of_error (b : Bridge σ) (text : String) (t : σ) (stop : Stop)
    (h : (printf b text [] t).result = .error stop) :
    (println b text t).result = .error stop ∧
      (println b text t).trace = (printf b text [] t).trace := by
  have hprintln : println b text t =
      ⟨.error stop, (printf b text [] t).state, (printf b text [] t).trace⟩ :=
    Action.bind_of_error _ _ t stop h
  rw [hprintln]
  exact ⟨rfl, rfl⟩

/-- What is kept in memory is written at once. -/
theorem Bridge.deliver_memory (bytes t : Bytes) :
    (deliver Sink.memory bytes t).result = .ok () := by
  have hwritten : (Sink.memory.deliver bytes t).result = .ok () := by
    by_cases hbytes : bytes = []
    · rw [hbytes, Sink.deliver_nil]
    · have hcount : bytes.length ≠ 0 := fun h => hbytes (List.length_eq_zero_iff.1 h)
      rw [Sink.deliver_of_accepted _ bytes t bytes.length hbytes hcount rfl, List.drop_length,
        Sink.deliver_nil]
  rw [deliver_of_completed _ bytes t hwritten]
  rfl

end Calls

/-- Whether this event is a log record. -/
def Event.isLogged : Event → Bool
  | logged _ => true
  | _ => false

namespace CommandLine

section Chosen

/-- What the settings file of a run gives: one that is named, or the nearest one at or
    above the working directory. Where none is found, nothing is given. -/
inductive Surroundings.Given (s : Surroundings ρ τ) : Option Path → ProjectSettings → Prop where
  | named {path : Path} {p : ProjectSettings}
      (hread : Settings.readFile s.host.files path = .ok p) : Given s (some path) p
  | found {directory root : Path} {p : ProjectSettings}
      (hworking : s.host.working = some directory)
      (hroot : Settings.findRoot? s.host.files directory = some root)
      (hread : Settings.readFile s.host.files (Settings.fileIn root) = .ok p) : Given s none p
  | absent {directory : Path} (hworking : s.host.working = some directory)
      (hroot : Settings.findRoot? s.host.files directory = none) : Given s none {}

/-- The stream that is chosen: by the flag, else by the variable, else by the file.
    Without any of them it is the standard output. -/
structure Options.Chooses (options : Options) (o : Overrides) (p : ProjectSettings)
    (stream : OutputStream) : Prop where
  flag : options.stderr = true → stream = .stderr
  environment : options.stderr = false → ∀ name, o.output = some name →
    Text.lowercase name = stream.name
  file : options.stderr = false → o.output = none → stream = p.stream?.getD .stdout

variable {s : Surroundings ρ τ} {options : Options} {o : Overrides} {settings : Settings}

/-- Settings that were loaded are what the file gives with the overrides in place. -/
theorem Surroundings.applied_of_settings {file : Option Path}
    (h : s.settings file = .ok settings) :
    ∃ p, s.Given file p ∧
      (Overrides.ofEnvironment s.environment).apply p = .ok settings.project := by
  cases file with
  | some path =>
    rcases Settings.applied_of_fromFile (mapError_eq_ok_iff.1 h) with ⟨p, hread, hmerged⟩
    exact ⟨p, .named hread, hmerged⟩
  | none =>
    rcases hworking : s.host.working with _ | directory
    · simp only [Surroundings.settings, hworking, reduceCtorEq] at h
    · simp only [Surroundings.settings, hworking, mapError_eq_ok_iff] at h
      rcases Settings.applied_of_fromDirectory h with
        ⟨p, hmerged, ⟨root, hroot, hread⟩ | ⟨hroot, rfl⟩⟩
      · exact ⟨p, .found hworking hroot hread, hmerged⟩
      · exact ⟨{}, .absent hworking hroot, hmerged⟩

/-- What is chosen is the stream of the settings, unless the flag is given. -/
theorem Options.chooses_of_effective {p : ProjectSettings}
    (h : Settings.Effective o p settings) : options.Chooses o p (options.stream settings) := by
  have hstream (hflag : options.stderr = false) : options.stream settings = settings.outputStream :=
    if_neg (ne_true_of_eq_false hflag)
  refine ⟨fun hflag => if_pos hflag, fun hflag name hname => ?_, fun hflag hnone => ?_⟩
  · rw [hstream hflag]
    exact h.stream_replaced name hname
  · rw [hstream hflag]
    exact h.stream_kept hnone

end Chosen

section Told

namespace Completion

/-- The run as it would be told without the log. -/
def unlogged (c : Completion) : Completion :=
  { c with warnings := [], trace := c.trace.filter fun e => !e.isLogged }

/-- The report on a failure, as it stands at the end of the error stream. -/
def reported (c : Completion) : Bytes :=
  Utf8.encode (((c.failure.bind Failure.report?).map Report.text).getD "")

/-- The run printed these bytes to its stream, and nothing else. -/
structure Prints (c : Completion) (bytes : Bytes) : Prop where
  stdout : c.stdout = if c.stream = .stdout then bytes else []
  stderr : c.unlogged.stderr = (if c.stream = .stderr then bytes else []) ++ c.reported
  /-- The log only adds to the error stream. -/
  logged : c.unlogged.stderr.Sublist c.stderr
  /-- Only a failure is reported. -/
  unreported : c.status = 0 → c.reported = []

/-- The run comes to what a library call comes to. -/
structure Comes {σ : Type} (c : Completion) (done : Outcome σ Unit) : Prop where
  status : c.status = 0 ↔ done.result = .ok ()
  /-- The output sees the same writes and flushes. -/
  outputs : Trace.outputs c.trace = Trace.outputs done.trace
  prints : c.Prints (Trace.accepted done.trace)

theorem unlogged_stderr_sublist (c : Completion) : c.unlogged.stderr.Sublist c.stderr := by
  refine List.Sublist.append (List.Sublist.append (List.nil_sublist _) ?_) (.refl _)
  exact List.filter_sublist.flatMap c.errorBytes

/-- Without log records the error stream has what is printed to it. -/
theorem flatMap_errorBytes (c : Completion) (t : Trace) :
    (t.filter fun e => !e.isLogged).flatMap c.errorBytes =
      if c.stream = .stderr then t.accepted else [] := by
  induction t with
  | nil => exact (ite_self _).symm
  | cons e rest ih =>
      cases e with
      | logged record => exact ih
      | _ =>
        rw [List.filter_cons_of_pos rfl, List.flatMap_cons, ih]
        by_cases hstream : c.stream = .stderr
        · simp only [errorBytes, if_pos hstream, Trace.accepted, List.flatMap_cons]
        · simp only [errorBytes, if_neg hstream, List.nil_append]

/-- A run that answers nothing prints what the output accepted. -/
theorem prints_accepted (c : Completion) (h : c.answer = "") : c.Prints c.trace.accepted := by
  refine ⟨?_, ?_, c.unlogged_stderr_sublist, fun hstatus => ?_⟩
  · rw [stdout, h]
    rfl
  · rw [← c.flatMap_errorBytes c.trace]
    rfl
  · rw [reported, c.status_eq_zero_iff.1 hstatus]
    rfl

theorem prints_of_outputs {c : Completion} {t : Trace} (h : c.answer = "")
    (houtputs : Trace.outputs c.trace = Trace.outputs t) : c.Prints t.accepted := by
  rw [← Trace.accepted_outputs, ← houtputs, Trace.accepted_outputs]
  exact c.prints_accepted h

end Completion

end Told

section Runs

/-- What a printing command has to do. -/
inductive Command.Asks : Command → Job → Prop where
  | printf (format : String) (args : List String) : Asks (.printf format args) (.printf format args)
  | println (text : String) : Asks (.println text) (.println text)

/-- What is announced about a job is no output. -/
theorem Command.Asks.quiet {command : Command} {job : Job} (h : command.Asks job) :
    Trace.outputs job.announced = [] := by
  cases h with
  | printf format args => rfl
  | println text => rfl

variable (s : Surroundings ρ τ) (options : Options)

/-- The state in which the library call of a run starts. -/
def Surroundings.start : NativeState ρ τ := ⟨s.routine, Guarded.fresh s.output⟩

/-- The settings are loaded, and the routine that they name is found. -/
structure Surroundings.Opens (settings : Settings) (routine : Routine ρ) : Prop where
  loaded : s.settings options.config = .ok settings
  resolved : (Loader.resolve s.host settings.library settings.symbol
    (Loader.start s.host)).result = .ok routine

/-- All stages before the first write succeed: settings and routine, the number of
    arguments, the lowering and the rendering. -/
inductive Surroundings.Renders (format : String) (values : List Value) (bytes : Bytes) : Prop where
  | stages {settings : Settings} {routine : Routine ρ} {lowered : LoweredCall} {arena : Arena}
      (opened : s.Opens options settings routine)
      (few : values.length ≤ maxArity)
      (marshalled : Lowering.call format values Arena.empty = (.ok lowered, arena))
      (rendered : (routine.render lowered.format lowered.words arena s.routine).result = .ok bytes)

/-- A run that does a job under settings. -/
def Job.completion (job : Job) (settings : Settings) : Completion where
  stream := options.stream settings
  filter := (Log.Filter.ofSpecs (options.logSpecs settings s.environment)).1
  warnings := (Log.Filter.ofSpecs (options.logSpecs settings s.environment)).2
  trace := (job.run s settings.project.effectiveNative options.wrappers).1
  failure := (job.run s settings.project.effectiveNative options.wrappers).2

variable {s options} {command : Command} {job : Job} {settings : Settings} {routine : Routine ρ}

/-- A job ends as its library call ends, if the routine is found. -/
theorem Job.run_of_found (ws : List Wrapper) {n : NativeSettings}
    (h : (n.openRoutine s.host (Loader.start s.host)).result = .ok routine) :
    (job.run s n ws).1 = job.announced ++ (n.openRoutine s.host (Loader.start s.host)).trace ++
        (Stream.runLink (Wrapper.wrapAll ws (Bridge.native routine s.sink)) job.link
          s.start).trace ∧
      ((job.run s n ws).2 = none ↔
        (Stream.runLink (Wrapper.wrapAll ws (Bridge.native routine s.sink)) job.link
          s.start).result = .ok ()) := by
  simp only [Job.run, h, Surroundings.start, true_and]
  rcases (Stream.runLink (Wrapper.wrapAll ws (Bridge.native routine s.sink)) job.link
    ⟨s.routine, Guarded.fresh s.output⟩).result with stop | _
  · simp only [reduceCtorEq]
  · simp only

/-- Otherwise it fails, and that is all. -/
theorem Job.run_of_missing (ws : List Wrapper) {n : NativeSettings} {stop : Stop}
    (h : (n.openRoutine s.host (Loader.start s.host)).result = .error stop) :
    (job.run s n ws).1 = job.announced ++ (n.openRoutine s.host (Loader.start s.host)).trace ∧
      (job.run s n ws).2 = some (stopped .call stop) := by
  simp only [Job.run, h, and_self]

theorem run_of_loaded (hjob : command.Asks job) (h : s.settings options.config = .ok settings) :
    Invocation.run ⟨options, command⟩ s = job.completion s options settings := by
  cases hjob with
  | _ =>
    simp only [Invocation.run, h]
    rfl

theorem run_of_unloaded {failure : Failure} (h : s.settings options.config = .error failure) :
    Invocation.run ⟨options, command⟩ s = { failure := some failure } := by
  simp only [Invocation.run, h]

/-- A run over a routine that is found is a library call. -/
theorem comes_of_opens (hjob : command.Asks job) (h : s.Opens options settings routine) :
    (Invocation.run ⟨options, command⟩ s).Comes
      (Stream.runLink (Bridge.native routine s.sink) job.link s.start) := by
  have hfound : (settings.project.effectiveNative.openRoutine s.host
      (Loader.start s.host)).result = .ok routine :=
    (NativeSettings.openRoutine_result _ _ _).trans h.resolved
  have hquiet := settings.project.effectiveNative.openRoutine_quiet s.host (Loader.start s.host)
  rcases job.run_of_found options.wrappers hfound with ⟨htrace, hfailure⟩
  rcases Stream.wrapped_runLink options.wrappers (Bridge.native routine s.sink) job.link s.start
    with ⟨hresult, hsame⟩
  rw [run_of_loaded hjob h.loaded]
  -- What comes before the call touches no output, and the wrappers around it do not either.
  have houtputs : Trace.outputs (job.completion s options settings).trace =
      Trace.outputs (Stream.runLink (Bridge.native routine s.sink) job.link s.start).trace := by
    rw [Job.completion, htrace, Trace.outputs_append, Trace.outputs_append, hjob.quiet, hquiet]
    exact hsame
  refine ⟨?_, houtputs, Completion.prints_of_outputs rfl houtputs⟩
  rw [Completion.status_eq_zero_iff, ← hresult]
  exact hfailure

/-- A run without settings or without a routine fails and prints nothing. -/
theorem nothing_of_closed (hjob : command.Asks job)
    (h : ∀ settings routine, ¬ s.Opens options settings routine) :
    (Invocation.run ⟨options, command⟩ s).status ≠ 0 ∧
      (Invocation.run ⟨options, command⟩ s).Prints [] := by
  rcases hload : s.settings options.config with failure | settings
  · -- Nothing was announced yet.
    rw [run_of_unloaded hload]
    exact ⟨failure.status_ne_zero, Completion.prints_accepted _ rfl⟩
  · rcases hopen : (settings.project.effectiveNative.openRoutine s.host
      (Loader.start s.host)).result with stop | routine
    · -- The search for the routine has failed, and it has only logged.
      rcases job.run_of_missing options.wrappers hopen with ⟨htrace, hfailure⟩
      have houtputs : Trace.outputs (job.completion s options settings).trace = [] := by
        rw [Job.completion, htrace, Trace.outputs_append, hjob.quiet,
          settings.project.effectiveNative.openRoutine_quiet]
        rfl
      rw [run_of_loaded hjob hload, Ne, Completion.status_eq_zero_iff]
      refine ⟨?_, Completion.prints_of_outputs (t := []) rfl houtputs⟩
      rw [Job.completion, hfailure]
      exact Option.some_ne_none _
    · rw [NativeSettings.openRoutine_result] at hopen
      exact absurd ⟨hload, hopen⟩ (h settings routine)

/-- The stages before the first write are those of opening and of rendering the call. -/
theorem renders_iff (format : String) (values : List Value) (bytes : Bytes) :
    s.Renders options format values bytes ↔ ∃ settings routine, s.Opens options settings routine ∧
      ((Print.mk format (Box.allocate 0 values)).rendering routine s.routine).result =
        .ok bytes := by
  have hvalues : (Print.mk format (Box.allocate 0 values)).values = values :=
    Box.allocate_values 0 values
  have hlength : (Box.allocate 0 values).length = values.length := by
    rw [← List.length_map Box.value, Box.allocate_values]
  simp only [Print.rendering_ok_iff, hvalues, hlength]
  constructor
  · rintro ⟨opened, few, marshalled, rendered⟩
    exact ⟨_, _, opened, few, _, _, marshalled, rendered⟩
  · rintro ⟨settings, routine, opened, few, lowered, arena, marshalled, rendered⟩
    exact .stages opened few marshalled rendered

/-- A run that calls the library with something that is not rendered fails and prints
    nothing. -/
theorem nothing_of_unrendered (hjob : command.Asks job) {format : String} {values : List Value}
    (hnone : ¬ ∃ bytes, s.Renders options format values bytes)
    (hlink : ∀ (routine : Routine ρ) (stop : Stop),
      ((Print.mk format (Box.allocate 0 values)).rendering routine s.routine).result =
          .error stop →
        (Stream.runLink (Bridge.native routine s.sink) job.link s.start).result = .error stop ∧
          Trace.outputs
            (Stream.runLink (Bridge.native routine s.sink) job.link s.start).trace = []) :
    (Invocation.run ⟨options, command⟩ s).status ≠ 0 ∧
      (Invocation.run ⟨options, command⟩ s).Prints [] := by
  by_cases hopen : ∃ settings routine, s.Opens options settings routine
  · rcases hopen with ⟨settings, routine, hopen⟩
    rcases hrendering : ((Print.mk format (Box.allocate 0 values)).rendering routine
      s.routine).result with stop | bytes
    · rcases hlink routine stop hrendering with ⟨hresult, houtputs⟩
      have hcomes := comes_of_opens hjob hopen
      have hprints := hcomes.prints
      rw [← Trace.accepted_outputs, houtputs] at hprints
      refine ⟨fun hstatus => ?_, hprints⟩
      rw [hcomes.status.1 hstatus] at hresult
      exact absurd hresult (by simp only [reduceCtorEq, not_false_eq_true])
    · -- With a rendering all stages would have succeeded.
      exact absurd ⟨bytes, (renders_iff ..).2 ⟨settings, routine, hopen, hrendering⟩⟩ hnone
  · exact nothing_of_closed hjob fun settings routine h => hopen ⟨settings, routine, h⟩

end Runs

variable (s : Surroundings ρ τ) (options : Options)

/-- What printing with a format and arguments comes to. -/
structure Completion.OfPrintf (c : Completion) (format : String) (args : List String) : Prop where
  /-- The stages before the first write succeed, and so does the writing. -/
  status : c.status = 0 ↔ ∃ bytes,
    s.Renders options (Text.expand format) (args.map Literal.read) bytes ∧
      (Bridge.deliver s.sink bytes s.output).result = .ok ()
  /-- A run that succeeds has printed the rendering, all of it and on one stream. -/
  whole : ∀ bytes, s.Renders options (Text.expand format) (args.map Literal.read) bytes →
    c.status = 0 → c.Prints bytes
  /-- A run that fails before the first write has printed nothing. -/
  nothing : (¬ ∃ bytes, s.Renders options (Text.expand format) (args.map Literal.read) bytes) →
    c.status ≠ 0 ∧ c.Prints []
  library : ∀ settings routine, s.Opens options settings routine →
    c.Comes (Stream.printf (Bridge.native routine s.sink) (Text.expand format)
      (Box.allocate 0 (args.map Literal.read)) s.start)

/-- What printing a line comes to. -/
structure Completion.OfPrintln (c : Completion) (text : String) : Prop where
  /-- The text and the newline are printed by the library. -/
  status : c.status = 0 ↔ ∃ settings routine, s.Opens options settings routine ∧
    (Stream.println (Bridge.native routine s.sink) (Text.expand text) s.start).result = .ok ()
  /-- A text that is not rendered leaves nothing behind, not even a newline. -/
  nothing : (¬ ∃ bytes, s.Renders options (Text.expand text) [] bytes) →
    c.status ≠ 0 ∧ c.Prints []
  library : ∀ settings routine, s.Opens options settings routine →
    c.Comes (Stream.println (Bridge.native routine s.sink) (Text.expand text) s.start)
  /-- No newline follows a text that failed. -/
  cut : ∀ settings routine, s.Opens options settings routine → ∀ stop,
    (Stream.printf (Bridge.native routine s.sink) (Text.expand text) [] s.start).result =
        .error stop →
      c.Comes (Stream.printf (Bridge.native routine s.sink) (Text.expand text) [] s.start)

theorem ofPrintf_of_run (format : String) (args : List String) :
    (Invocation.run ⟨options, .printf format args⟩ s).OfPrintf s options format args := by
  have hjob := Command.Asks.printf format args
  let call : Print := ⟨Text.expand format, Box.allocate 0 (args.map Literal.read)⟩
  have hlibrary : ∀ settings routine, s.Opens options settings routine →
      (Invocation.run ⟨options, .printf format args⟩ s).Comes
        (Stream.printf (Bridge.native routine s.sink) call.format call.args s.start) :=
    fun settings routine h => comes_of_opens hjob h
  have hnothing : (¬ ∃ bytes, s.Renders options call.format (args.map Literal.read) bytes) →
      (Invocation.run ⟨options, .printf format args⟩ s).status ≠ 0 ∧
        (Invocation.run ⟨options, .printf format args⟩ s).Prints [] :=
    fun hnone => nothing_of_unrendered hjob hnone fun routine stop h =>
      Stream.printf_of_unrendered routine s.sink call s.start stop h
  refine ⟨⟨fun hstatus => ?_, ?_⟩, fun bytes hrenders hstatus => ?_, hnothing, hlibrary⟩
  · -- Without a rendering the run would have failed.
    have hsome : ∃ bytes, s.Renders options call.format (args.map Literal.read) bytes :=
      by_contra fun hnone => (hnothing hnone).1 hstatus
    rcases hsome with ⟨bytes, hrenders⟩
    rcases (renders_iff ..).1 hrenders with ⟨settings, routine, hopen, hrendering⟩
    have hok := (hlibrary settings routine hopen).status.1 hstatus
    rw [(Stream.printf_of_rendered routine s.sink call s.start bytes hrendering).1] at hok
    exact ⟨bytes, hrenders, hok⟩
  · rintro ⟨bytes, hrenders, hdelivered⟩
    rcases (renders_iff ..).1 hrenders with ⟨settings, routine, hopen, hrendering⟩
    refine (hlibrary settings routine hopen).status.2 ?_
    rw [(Stream.printf_of_rendered routine s.sink call s.start bytes hrendering).1]
    exact hdelivered
  · rcases (renders_iff ..).1 hrenders with ⟨settings, routine, hopen, hrendering⟩
    have hcomes := hlibrary settings routine hopen
    rw [← Stream.printf_accepted routine s.sink call s.start bytes hrendering
      (hcomes.status.1 hstatus)]
    exact hcomes.prints

theorem ofPrintln_of_run (text : String) :
    (Invocation.run ⟨options, .println text⟩ s).OfPrintln s options text := by
  have hjob := Command.Asks.println text
  have hlibrary : ∀ settings routine, s.Opens options settings routine →
      (Invocation.run ⟨options, .println text⟩ s).Comes
        (Stream.println (Bridge.native routine s.sink) (Text.expand text) s.start) := by
    intro settings routine h
    -- The job is fixed first, so that its link is known to be a line.
    have hcomes := comes_of_opens hjob h
    exact hcomes
  refine ⟨⟨fun hstatus => ?_, ?_⟩, fun hnone => ?_, hlibrary,
    fun settings routine hopen stop h => ?_⟩
  · have hsome : ∃ settings routine, s.Opens options settings routine := by
      by_contra hclosed
      exact (nothing_of_closed hjob fun settings routine h =>
        hclosed ⟨settings, routine, h⟩).1 hstatus
    rcases hsome with ⟨settings, routine, hopen⟩
    exact ⟨settings, routine, hopen, (hlibrary settings routine hopen).status.1 hstatus⟩
  · rintro ⟨settings, routine, hopen, hok⟩
    exact (hlibrary settings routine hopen).status.2 hok
  · -- What is not rendered is the text, and the newline is not tried.
    refine nothing_of_unrendered hjob hnone fun routine stop h => ?_
    rcases Stream.printf_of_unrendered routine s.sink ⟨Text.expand text, []⟩ s.start stop h with
      ⟨hresult, houtputs⟩
    rcases Stream.println_of_error (Bridge.native routine s.sink) _ s.start stop hresult with
      ⟨hline, htrace⟩
    exact ⟨hline, (congrArg Trace.outputs htrace).trans houtputs⟩
  · rcases Stream.println_of_error (Bridge.native routine s.sink) _ s.start stop h with
      ⟨hline, htrace⟩
    have hcomes := hlibrary settings routine hopen
    refine ⟨?_, htrace ▸ hcomes.outputs, htrace ▸ hcomes.prints⟩
    rw [hcomes.status, hline, h]

/-- The printing commands are library calls, on the stream that flags, environment and file
    choose. A run that fails before the first write prints nothing. -/
theorem run_prints {o : Overrides} (henv : s.environment.Gives o) :
    (∀ format args,
        (Invocation.run ⟨options, .printf format args⟩ s).OfPrintf s options format args) ∧
      (∀ text, (Invocation.run ⟨options, .println text⟩ s).OfPrintln s options text) ∧
      ∀ command job, Command.Asks command job →
        ∀ settings, s.settings options.config = .ok settings →
          ∃ p, s.Given options.config p ∧
            options.Chooses o p (Invocation.run ⟨options, command⟩ s).stream := by
  refine ⟨ofPrintf_of_run s options, ofPrintln_of_run s options,
    fun command job hjob settings h => ?_⟩
  rcases Surroundings.applied_of_settings h with ⟨p, hgiven, hmerged⟩
  rw [henv.ofEnvironment_eq] at hmerged
  refine ⟨p, hgiven, ?_⟩
  rw [run_of_loaded hjob h]
  exact Options.chooses_of_effective
    (Settings.effective_of_merged (Overrides.merged_of_apply hmerged))

/-- An environment that asks for the error stream. -/
def erringEnvironment : Environment where
  get? name := if name = Overrides.outputVariable then some (Utf8.encode "STDERR") else none

/-- Surroundings without files, with output that is kept. -/
def erringSurroundings : Surroundings Unit Bytes where
  host := Host.ofSnapshot [] (some (Path.ofText "a"))
  environment := erringEnvironment
  routine := ()
  sink := Sink.memory
  output := []

/-- A run that prints a number. -/
def numberRun : Completion :=
  Invocation.run ⟨{}, .printf "%d\\n" ["0x2A"]⟩ erringSurroundings

/-- A number in hexadecimal is printed as a decimal one, with the newline that was asked
    for, to the error stream. -/
theorem run_prints_number :
    numberRun.status = 0 ∧ numberRun.stdout = [] ∧
      numberRun.unlogged.stderr = Utf8.encode "42\n" := by
  have hgives : erringSurroundings.environment.Gives { output := some "STDERR" } :=
    ⟨rfl, rfl, rfl, rfl⟩
  have hload : erringSurroundings.settings none =
      .ok ⟨{ output := some ⟨some .stderr⟩ }, none⟩ := by decide +kernel
  have hrenders : erringSurroundings.Renders {} (Text.expand "%d\\n")
      (["0x2A"].map Literal.read) (Utf8.encode "42\n") := by
    rw [show Text.expand "%d\\n" = "%d\n" by decide +kernel,
      show ["0x2A"].map Literal.read = [.int 42] by decide +kernel]
    have hlowered : Lowering.call "%d\n" [.int 42] Arena.empty =
        (.ok ⟨.text 0, [.bits 42]⟩, ⟨[Utf8.encode "%d\n" ++ [0]]⟩) := rfl
    exact .stages ⟨hload, rfl⟩ (by decide) hlowered (by decide +kernel)
  rcases run_prints erringSurroundings {} hgives with ⟨hprintf, -, hchosen⟩
  have hrun := hprintf "%d\\n" ["0x2A"]
  have hstatus : numberRun.status = 0 :=
    hrun.status.2 ⟨_, hrenders, Bridge.deliver_memory _ _⟩
  have hprints : numberRun.Prints (Utf8.encode "42\n") := hrun.whole _ hrenders hstatus
  rcases hchosen _ _ (.printf "%d\\n" ["0x2A"]) _ hload with ⟨p, -, hchooses⟩
  have hname : Text.lowercase "STDERR" = numberRun.stream.name :=
    hchooses.environment rfl "STDERR" rfl
  -- The variable has the name in capitals, and only one stream has that name.
  have hstream : numberRun.stream = .stderr := by
    cases h : numberRun.stream with
    | stdout =>
      rw [h] at hname
      exact absurd hname (by decide +kernel)
    | stderr => rfl
  refine ⟨hstatus, ?_, ?_⟩
  · rw [hprints.stdout, hstream]
    rfl
  · rw [hprints.stderr, hprints.unreported hstatus, hstream, if_pos rfl, List.append_nil]

end CommandLine

end PrintBridge
