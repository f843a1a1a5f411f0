import PrintBridge.Files.Snapshot
import PrintBridge.Proofs.Results
import PrintBridge.Settings.Discovery

/-!
# Precedence of Settings

Where an effective setting comes from, and when there is one.

Settings are checked twice: a file on its own, before the environment is
looked at, and what has become of it at the end. The first check makes a bad
file a failure even where the environment overrides what is bad in it. With
it, the second check has nothing to find but a bad override, so loading
succeeds exactly when file and overrides are valid, each by itself.

Four settings in three sections meet four overrides. They do not get in each
other's way: an override replaces its own setting and nothing else, and it
brings its section into being where there was none. `Overrides.Merged` says
so field by field. Since an override puts what it says in the place where it
would put it again, to merge a second time changes nothing.

## Main definitions

* `SymbolValid`, `LibraryValid`, `LevelValid`: Valid settings.
* `ProjectSettings.Valid`, `Overrides.Valid`: Validity of all of them.
* `Overrides.Merged`: Settings as overrides have changed them.
* `Environment.Gives`: The overrides that an environment gives as text.
* `Settings.Loading`: Loading, from what a file gives or without a file.
* `Settings.Effective`: Where effective settings come from.

## Theorems

* `validate_eq_ok_iff`: The check is for validity.
* `merged_of_apply`: What merging comes to, field by field.
* `apply_succeeds_iff`: When overrides can be merged into valid settings.
* `apply_again`: To merge a second time changes nothing.
* `Loading.eq_checked`: Loading is the check of the file and then the merging.
* `loading_precedence`: When loading succeeds, and what it gives.
-/

namespace PrintBridge

/-- A symbol that can name a routine. -/
structure SymbolValid (symbol : String) : Prop where
  not_blank : Text.isBlank symbol = false
  no_nul : '\x00' ∉ symbol.toList

/-- A library that can be looked for. -/
def LibraryValid (library : String) : Prop := Text.isBlank library = false

/-- A log level: one of six names, in any case. -/
def LevelValid (level : String) : Prop :=
  Text.lowercase level ∈ ["off", "error", "warn", "info", "debug", "trace"]

/-- Settings that are valid. What is absent is valid. -/
structure ProjectSettings.Valid (p : ProjectSettings) : Prop where
  symbol : ∀ s, p.effectiveNative.symbol = some s → SymbolValid s
  library : ∀ s, p.effectiveNative.library = some s → LibraryValid s
  level : ∀ s, p.level? = some s → LevelValid s

/-- Overrides of which each is valid for its setting. -/
structure Overrides.Valid (o : Overrides) : Prop where
  symbol : ∀ s, o.symbol = some s → SymbolValid s
  library : ∀ s, o.library = some s → LibraryValid s
  output : ∀ s, o.output = some s → ∃ stream : OutputStream, Text.lowercase s = stream.name
  level : ∀ s, o.log = some s → LevelValid s

/-- What has become of settings under overrides. -/
structure Overrides.Merged (o : Overrides) (p q : ProjectSettings) : Prop where
  /-- An override replaces its setting, and without one the setting stays. -/
  symbol : q.effectiveNative.symbol = o.symbol.or p.effectiveNative.symbol
  library : q.effectiveNative.library = o.library.or p.effectiveNative.library
  level : q.level? = o.log.or p.level?
  stream_kept : o.output = none → q.stream? = p.stream?
  stream_replaced : ∀ s, o.output = some s →
    ∃ stream : OutputStream, Text.lowercase s = stream.name ∧ q.stream? = some stream
  /-- A section is there if it was or if something in it is overridden. -/
  native_present : q.native.isSome ↔
    p.native.isSome ∨ o.library.isSome ∨ o.symbol.isSome
  output_present : q.output.isSome ↔ p.output.isSome ∨ o.output.isSome
  log_present : q.log.isSome ↔ p.log.isSome ∨ o.log.isSome

theorem checkSymbol_eq_ok_iff (s : String) :
    ProjectSettings.checkSymbol s = .ok () ↔ SymbolValid s := by
  unfold ProjectSettings.checkSymbol
  constructor
  · intro h
    rcases hblank : Text.isBlank s with _ | _
    · rw [hblank, if_neg Bool.false_ne_true] at h
      refine ⟨hblank, fun hnul => ?_⟩
      rw [if_pos hnul] at h
      exact absurd h (by simp only [reduceCtorEq, not_false_eq_true])
    · rw [hblank, if_pos rfl] at h
      exact absurd h (by simp only [reduceCtorEq, not_false_eq_true])
  · rintro ⟨hblank, hnul⟩
    rw [hblank, if_neg Bool.false_ne_true, if_neg hnul]

theorem checkLibrary_eq_ok_iff (s : String) :
    ProjectSettings.checkLibrary s = .ok () ↔ LibraryValid s := by
  unfold ProjectSettings.checkLibrary LibraryValid
  rcases Text.isBlank s with _ | _
  · exact ⟨fun _ => rfl, fun _ => rfl⟩
  · simp only [if_true, reduceCtorEq]

/-- Whichever field is named in a failure, the check is the same. -/
theorem checkLevel_eq_ok_iff (field s : String) : checkLevel field s = .ok () ↔ LevelValid s := by
  unfold checkLevel LevelValid
  rw [show levelNames = ["off", "error", "warn", "info", "debug", "trace"] from rfl]
  split
  · simp only [*]
  · simp only [*, reduceCtorEq]

theorem parse_eq_ok_iff (s : String) (stream : OutputStream) :
    OutputStream.parse s = .ok stream ↔ Text.lowercase s = stream.name := by
  unfold OutputStream.parse
  simp only
  -- The two names differ, so the order of the tests does not matter.
  have hdiffer : OutputStream.stderr.name ≠ OutputStream.stdout.name := by decide
  by_cases hout : Text.lowercase s = OutputStream.stdout.name
  · rw [if_pos hout, hout]
    cases stream with
    | stdout => simp only
    | stderr => simp only [Except.ok.injEq, reduceCtorEq, hdiffer.symm]
  · rw [if_neg hout]
    by_cases herr : Text.lowercase s = OutputStream.stderr.name
    · rw [if_pos herr, herr]
      cases stream with
      | stdout => simp only [Except.ok.injEq, reduceCtorEq, hdiffer]
      | stderr => simp only
    · rw [if_neg herr]
      cases stream with
      | stdout => simp only [reduceCtorEq, hout]
      | stderr => simp only [reduceCtorEq, herr]

/-- Two checks succeed one after the other if each does. -/
theorem check_then_eq_ok_iff {ε : Type} (x y : Except ε Unit) :
    (x.bind fun _ => y) = .ok () ↔ x = .ok () ∧ y = .ok () := by
  rcases x with e | _
  · simp only [Except.bind, reduceCtorEq, false_and]
  · exact ⟨fun h => ⟨rfl, h⟩, fun h => h.2⟩

/-- The check of what may be absent. -/
def checkGiven (check : String → Except SettingsError Unit) :
    Option String → Except SettingsError Unit
  | none => .ok ()
  | some s => check s

theorem checkGiven_eq_ok_iff (check : String → Except SettingsError Unit)
    (given : Option String) :
    checkGiven check given = .ok () ↔ ∀ s, given = some s → check s = .ok () := by
  cases given with
  | none => exact ⟨fun _ s h => (nomatch h), fun _ => rfl⟩
  | some s => simp only [checkGiven, Option.some.injEq, forall_eq']

/-- The three checks stand one after the other. -/
theorem validate_eq_checks (p : ProjectSettings) :
    p.validate =
      (checkGiven ProjectSettings.checkSymbol p.effectiveNative.symbol).bind fun _ =>
        (checkGiven ProjectSettings.checkLibrary p.effectiveNative.library).bind fun _ =>
          checkGiven (checkLevel "log.level") p.level? := by
  unfold ProjectSettings.validate
  cases p.effectiveNative.symbol <;> cases p.effectiveNative.library <;> cases p.level? <;> rfl

theorem validate_eq_ok_iff (p : ProjectSettings) : p.validate = .ok () ↔ p.Valid := by
  rw [validate_eq_checks, check_then_eq_ok_iff, check_then_eq_ok_iff, checkGiven_eq_ok_iff,
    checkGiven_eq_ok_iff, checkGiven_eq_ok_iff]
  simp only [checkSymbol_eq_ok_iff, checkLibrary_eq_ok_iff, checkLevel_eq_ok_iff]
  exact ⟨fun h => ⟨h.1, h.2.1, h.2.2⟩, fun h => ⟨h.symbol, h.library, h.level⟩⟩

namespace Overrides

variable {o : Overrides} {p q : ProjectSettings}

theorem apply_eq_ok_iff :
    o.apply p = .ok q ↔
      o.output? p.output = .ok q.output ∧ o.log? p.log = .ok q.log ∧
        q.native = o.native p.native ∧ q.validate = .ok () := by
  constructor
  · intro h
    rcases bind_eq_ok_iff.1 h with ⟨output, houtput, h⟩
    rcases bind_eq_ok_iff.1 h with ⟨log, hlog, h⟩
    rcases bind_eq_ok_iff.1 h with ⟨_, hvalid, h⟩
    obtain rfl := Except.ok.inj h
    exact ⟨houtput, hlog, rfl, hvalid⟩
  · rintro ⟨houtput, hlog, hnative, hvalid⟩
    rcases q with ⟨native, output, log⟩
    simp only at houtput hlog hnative
    subst hnative
    simp only [apply, bind, Except.bind, pure, Except.pure, houtput, hlog, hvalid]

/-- Either override of the native section leaves the other setting alone. -/
theorem native_symbol (given : Option NativeSettings) :
    ((o.native given).getD {}).symbol = o.symbol.or (given.getD {}).symbol := by
  unfold Overrides.native
  rcases o.library with _ | library <;> rcases o.symbol with _ | symbol <;> rfl

theorem native_library (given : Option NativeSettings) :
    ((o.native given).getD {}).library = o.library.or (given.getD {}).library := by
  unfold Overrides.native
  rcases o.library with _ | library <;> rcases o.symbol with _ | symbol <;> rfl

theorem native_isSome (given : Option NativeSettings) :
    (o.native given).isSome ↔ given.isSome ∨ o.library.isSome ∨ o.symbol.isSome := by
  unfold Overrides.native
  rcases o.library with _ | library <;> rcases o.symbol with _ | symbol <;>
    simp only [Option.isSome_none, Option.isSome_some, Bool.false_eq_true, or_false, or_true]

theorem native_native (given : Option NativeSettings) :
    o.native (o.native given) = o.native given := by
  unfold Overrides.native
  rcases o.library with _ | library <;> rcases o.symbol with _ | symbol <;> rfl

theorem output?_eq_ok_iff (given out : Option OutputSettings) :
    o.output? given = .ok out ↔
      (o.output = none ∧ out = given) ∨
        ∃ name, o.output = some name ∧
          ∃ stream : OutputStream, Text.lowercase name = stream.name ∧
            out = some ⟨some stream⟩ := by
  unfold output?
  cases o.output with
  | none => simp only [Except.ok.injEq, true_and, reduceCtorEq, false_and, exists_false, or_false,
      eq_comm]
  | some name =>
      simp only [reduceCtorEq, false_and, false_or, Option.some.injEq, exists_eq_left',
        ← parse_eq_ok_iff]
      cases OutputStream.parse name with
      | error e => simp only [Except.map, reduceCtorEq, false_and, exists_false]
      | ok stream =>
          simp only [Except.map, Except.ok.injEq, exists_eq_left', eq_comm]

theorem log?_eq_ok_iff (given log : Option LogSettings) :
    o.log? given = .ok log ↔
      (o.log = none ∧ log = given) ∨
        ∃ level, o.log = some level ∧ LevelValid level ∧ log = some ⟨some level⟩ := by
  unfold log?
  cases o.log with
  | none => simp only [Except.ok.injEq, true_and, reduceCtorEq, false_and, exists_false, or_false,
      eq_comm]
  | some level =>
      simp only [reduceCtorEq, false_and, false_or, Option.some.injEq, exists_eq_left',
        ← checkLevel_eq_ok_iff levelVariable]
      cases checkLevel levelVariable level with
      | error e => simp only [Except.map, reduceCtorEq, false_and]
      | ok _ => simp only [Except.map, Except.ok.injEq, true_and, eq_comm]

theorem merged_of_apply (h : o.apply p = .ok q) : o.Merged p q := by
  rcases apply_eq_ok_iff.1 h with ⟨houtput, hlog, hnative, -⟩
  have hsome : q.native.isSome ↔ p.native.isSome ∨ o.library.isSome ∨ o.symbol.isSome := by
    rw [hnative, native_isSome]
  have hsymbol : q.effectiveNative.symbol = o.symbol.or p.effectiveNative.symbol := by
    rw [ProjectSettings.effectiveNative, hnative, native_symbol, ProjectSettings.effectiveNative]
  have hlibrary : q.effectiveNative.library = o.library.or p.effectiveNative.library := by
    rw [ProjectSettings.effectiveNative, hnative, native_library, ProjectSettings.effectiveNative]
  -- The other two sections have a single setting, so an override replaces them.
  refine ⟨hsymbol, hlibrary, ?_, ?_, ?_, hsome, ?_, ?_⟩
  · unfold ProjectSettings.level?
    rcases (log?_eq_ok_iff _ _).1 hlog with ⟨hnone, hkept⟩ | ⟨level, hsome, -, hnew⟩
    · rw [hnone, hkept, Option.none_or]
    · rw [hsome, hnew, Option.some_or, Option.bind_some]
  · intro hnone
    rcases (output?_eq_ok_iff _ _).1 houtput with ⟨-, hkept⟩ | ⟨name, hsome, -⟩
    · rw [ProjectSettings.stream?, hkept, ProjectSettings.stream?]
    · rw [hnone] at hsome
      exact absurd hsome (by simp only [reduceCtorEq, not_false_eq_true])
  · intro s hs
    rcases (output?_eq_ok_iff _ _).1 houtput with ⟨hnone, -⟩ | ⟨name, hsome, stream, hname, hnew⟩
    · rw [hnone] at hs
      exact absurd hs (by simp only [reduceCtorEq, not_false_eq_true])
    · rw [hs, Option.some.injEq] at hsome
      rw [hsome]
      exact ⟨stream, hname, by rw [ProjectSettings.stream?, hnew, Option.bind_some]⟩
  · rcases (output?_eq_ok_iff _ _).1 houtput with ⟨hnone, hkept⟩ | ⟨name, hsome, stream, -, hnew⟩
    · rw [hkept, hnone, Option.isSome_none, Bool.false_eq_true, or_false]
    · simp only [hnew, hsome, Option.isSome_some, or_true]
  · rcases (log?_eq_ok_iff _ _).1 hlog with ⟨hnone, hkept⟩ | ⟨level, hsome, -, hnew⟩
    · rw [hkept, hnone, Option.isSome_none, Bool.false_eq_true, or_false]
    · simp only [hnew, hsome, Option.isSome_some, or_true]

/-- Valid settings take overrides exactly if those are valid. -/
theorem apply_succeeds_iff (hp : p.Valid) : (∃ q, o.apply p = .ok q) ↔ o.Valid := by
  constructor
  · rintro ⟨q, h⟩
    -- An override is found again in what was merged, and that is valid.
    have hmerged := merged_of_apply h
    rcases apply_eq_ok_iff.1 h with ⟨houtput, hlog, -, hvalid⟩
    have hq := (validate_eq_ok_iff q).1 hvalid
    refine ⟨fun s hs => hq.symbol s ?_, fun s hs => hq.library s ?_, fun s hs => ?_,
      fun s hs => hq.level s ?_⟩
    · rw [hmerged.symbol, hs, Option.some_or]
    · rw [hmerged.library, hs, Option.some_or]
    · rcases hmerged.stream_replaced s hs with ⟨stream, hname, -⟩
      exact ⟨stream, hname⟩
    · rw [hmerged.level, hs, Option.some_or]
  · intro ho
    -- What is merged is an override or was there before, and either is valid.
    have houtput : ∃ output, o.output? p.output = .ok output := by
      cases hset : o.output with
      | none => exact ⟨p.output, (output?_eq_ok_iff _ _).2 (.inl ⟨hset, rfl⟩)⟩
      | some s =>
          rcases ho.output s hset with ⟨stream, hname⟩
          exact ⟨_, (output?_eq_ok_iff _ _).2 (.inr ⟨s, hset, stream, hname, rfl⟩)⟩
    have hlog : ∃ log, o.log? p.log = .ok log ∧
        ∀ level, log.bind LogSettings.level = some level → LevelValid level := by
      cases hset : o.log with
      | none => exact ⟨p.log, (log?_eq_ok_iff _ _).2 (.inl ⟨hset, rfl⟩), hp.level⟩
      | some s =>
          refine ⟨_, (log?_eq_ok_iff _ _).2 (.inr ⟨s, hset, ho.level s hset, rfl⟩), ?_⟩
          intro level hlevel
          rw [Option.bind_some, Option.some.injEq] at hlevel
          exact hlevel ▸ ho.level s hset
    rcases houtput with ⟨output, houtput⟩
    rcases hlog with ⟨log, hlog, hlevel⟩
    refine ⟨⟨o.native p.native, output, log⟩, apply_eq_ok_iff.2 ⟨houtput, hlog, rfl, ?_⟩⟩
    refine (validate_eq_ok_iff _).2 ⟨fun s hs => ?_, fun s hs => ?_, hlevel⟩
    · rw [ProjectSettings.effectiveNative, native_symbol, Option.or_eq_some_iff] at hs
      rcases hs with hs | ⟨-, hs⟩
      · exact ho.symbol s hs
      · exact hp.symbol s hs
    · rw [ProjectSettings.effectiveNative, native_library, Option.or_eq_some_iff] at hs
      rcases hs with hs | ⟨-, hs⟩
      · exact ho.library s hs
      · exact hp.library s hs

/-- Overrides in place are put there again in vain. -/
theorem apply_again (h : o.apply p = .ok q) : o.apply q = .ok q := by
  rcases apply_eq_ok_iff.1 h with ⟨houtput, hlog, hnative, hvalid⟩
  refine apply_eq_ok_iff.2 ⟨?_, ?_, ?_, hvalid⟩
  -- What replaces a section does not look at the section.
  · rcases (output?_eq_ok_iff _ _).1 houtput with ⟨hnone, -⟩ | hreplaced
    · exact (output?_eq_ok_iff _ _).2 (.inl ⟨hnone, rfl⟩)
    · exact (output?_eq_ok_iff _ _).2 (.inr hreplaced)
  · rcases (log?_eq_ok_iff _ _).1 hlog with ⟨hnone, -⟩ | hreplaced
    · exact (log?_eq_ok_iff _ _).2 (.inl ⟨hnone, rfl⟩)
    · exact (log?_eq_ok_iff _ _).2 (.inr hreplaced)
  · rw [hnative, native_native]

end Overrides

/-- An environment in which the four variables are unset or hold texts. -/
structure Environment.Gives (e : Environment) (o : Overrides) : Prop where
  library : e.get? Overrides.libraryVariable = o.library.map Utf8.encode
  symbol : e.get? Overrides.symbolVariable = o.symbol.map Utf8.encode
  output : e.get? Overrides.outputVariable = o.output.map Utf8.encode
  log : e.get? Overrides.levelVariable = o.log.map Utf8.encode

theorem Environment.Gives.ofEnvironment_eq {e : Environment} {o : Overrides} (h : e.Gives o) :
    Overrides.ofEnvironment e = o := by
  have htext : ∀ (name : String) (given : Option String),
      e.get? name = given.map Utf8.encode → e.text? name = given := by
    intro name given hname
    rw [Environment.text?, hname]
    cases given with
    | none => rfl
    | some s => exact Utf8.decode?_encode s
  rcases o with ⟨library, symbol, output, log⟩
  rw [Overrides.ofEnvironment, htext _ _ h.library, htext _ _ h.symbol, htext _ _ h.output,
    htext _ _ h.log]

namespace Settings

/-- Loading in an environment: what a file gives, where it is found, and what
    comes of it. Where there is no file, nothing is given. -/
inductive Loading (files : Files) (e : Environment) :
    ProjectSettings → Option Path → Except SettingsError Settings → Prop where
  | file {path : Path} {content : String} {p : ProjectSettings}
      (hread : files.readText path = .ok content)
      (hparse : ProjectSettings.ofText content = .ok p) :
      Loading files e p path.parent? (fromFile files (.ofEnvironment e) path)
  | directory {start directory : Path} {content : String} {p : ProjectSettings}
      (hfind : findRoot? files start = some directory)
      (hread : files.readText (fileIn directory) = .ok content)
      (hparse : ProjectSettings.ofText content = .ok p) :
      Loading files e p (some directory) (fromDirectory files (.ofEnvironment e) start)
  | absent {start : Path} (hfind : findRoot? files start = none) :
      Loading files e {} none (fromDirectory files (.ofEnvironment e) start)

/-- Where effective settings come from: the environment, the file, or else the
    default. -/
structure Effective (o : Overrides) (p : ProjectSettings) (s : Settings) : Prop where
  symbol : s.symbol = (o.symbol.or p.effectiveNative.symbol).getD "snprintf"
  library : s.library = o.library.or p.effectiveNative.library
  stream_kept : o.output = none → s.outputStream = p.stream?.getD .stdout
  stream_replaced : ∀ name, o.output = some name → Text.lowercase name = s.outputStream.name
  level : s.level = (o.log.or p.level?).getD "warn"

variable {files : Files} {e : Environment} {o : Overrides} {p : ProjectSettings}
  {root : Option Path} {load : Except SettingsError Settings}

theorem effective_of_merged {s : Settings} (h : o.Merged p s.project) : Effective o p s := by
  refine ⟨?_, ?_, fun hnone => ?_, fun name hname => ?_, ?_⟩
  · rw [Settings.symbol, NativeSettings.effectiveSymbol, h.symbol, defaultSymbol]
  · rw [Settings.library, NativeSettings.effectiveLibrary, h.library, defaultLibrary,
      Option.or_none]
  · rw [Settings.outputStream, h.stream_kept hnone]
  · rcases h.stream_replaced name hname with ⟨stream, hfold, hstream⟩
    rw [hfold, Settings.outputStream, hstream, Option.getD_some]
  · rw [Settings.level, h.level, defaultLevel]

theorem readFile_of_parse {path : Path} {content : String}
    (hread : files.readText path = .ok content) (hparse : ProjectSettings.ofText content = .ok p) :
    readFile files path = p.validate.map fun _ => p := by
  simp only [readFile, hread, hparse, bind, Except.bind, pure, Except.pure]
  cases p.validate <;> rfl

theorem bind_checked (o : Overrides) (p : ProjectSettings) (root : Option Path)
    (check : Except SettingsError Unit) :
    (do
      let project ← check.map fun _ => p
      return (⟨← o.apply project, root⟩ : Settings)) =
      check.bind fun _ => (o.apply p).map fun merged => ⟨merged, root⟩ := by
  cases check <;> rfl

/-- A file is checked, and the overrides are put in place. -/
theorem Loading.eq_checked (h : Loading files e p root load) :
    load = p.validate.bind fun _ =>
      ((Overrides.ofEnvironment e).apply p).map fun merged => ⟨merged, root⟩ := by
  cases h with
  | file hread hparse =>
      rw [← bind_checked, ← readFile_of_parse hread hparse, fromFile]
  | directory hfind hread hparse =>
      rw [← bind_checked, ← readFile_of_parse hread hparse, fromDirectory, hfind]
  | absent hfind =>
      rw [← bind_checked, ProjectSettings.validate_default, fromDirectory, hfind]
      rfl

/-- Loading succeeds exactly if the file by itself and the overrides are
    valid. -/
theorem loading_eq_ok_iff (h : e.Gives o) (hl : Loading files e p root load) (s : Settings) :
    load = .ok s ↔ p.validate = .ok () ∧ o.apply p = .ok s.project ∧ s.root = root := by
  rw [hl.eq_checked, h.ofEnvironment_eq]
  rcases s with ⟨project, found⟩
  cases p.validate with
  | error _ => simp only [Except.bind, reduceCtorEq, false_and]
  | ok _ =>
      cases o.apply p with
      | error _ => simp only [Except.bind, Except.map, reduceCtorEq, false_and, and_false]
      | ok merged =>
          simp only [Except.bind, Except.map, Except.ok.injEq, Settings.mk.injEq, true_and,
            @eq_comm _ root]

/-- Loading succeeds exactly if the file by itself and every override are valid,
    and then each setting comes from the environment, the file or the default,
    whatever the others do. What is loaded is valid, and the overrides have
    nothing more to do in it. -/
theorem loading_precedence (h : e.Gives o) (hl : Loading files e p root load) :
    ((∃ s, load = .ok s) ↔ p.validate = .ok () ∧ o.Valid) ∧
      ∀ s, load = .ok s →
        Effective o p s ∧ o.Merged p s.project ∧
          s.project.validate = .ok () ∧ s.project.Valid ∧
          (Overrides.ofEnvironment e).apply s.project = .ok s.project := by
  have hiff := loading_eq_ok_iff h hl
  constructor
  · constructor
    · rintro ⟨s, hs⟩
      rcases (hiff s).1 hs with ⟨hfile, hmerged, -⟩
      exact ⟨hfile, (Overrides.apply_succeeds_iff ((validate_eq_ok_iff p).1 hfile)).1 ⟨_, hmerged⟩⟩
    · rintro ⟨hfile, ho⟩
      rcases (Overrides.apply_succeeds_iff ((validate_eq_ok_iff p).1 hfile)).2 ho with ⟨q, hq⟩
      exact ⟨⟨q, root⟩, (hiff _).2 ⟨hfile, hq, rfl⟩⟩
  · intro s hs
    rcases (hiff s).1 hs with ⟨-, hmerged, -⟩
    have hvalid := (Overrides.apply_eq_ok_iff.1 hmerged).2.2.2
    have hfields := Overrides.merged_of_apply hmerged
    rw [h.ofEnvironment_eq]
    exact ⟨effective_of_merged hfields, hfields, hvalid, (validate_eq_ok_iff _).1 hvalid,
      Overrides.apply_again hmerged⟩

/-- A symbol and a log level in the environment. -/
def namedEnvironment : Environment where
  get? name :=
    if name = Overrides.symbolVariable then some (Utf8.encode "my_snprintf")
    else if name = Overrides.levelVariable then some (Utf8.encode "Debug")
    else none

/-- A settings file for the log level. -/
def levelFile : Files :=
  Snapshot.view [⟨Path.ofText "jmate.toml", .ok (Utf8.encode "[log]\nlevel=\"off\"")⟩]

/-- The level of the environment goes before the level of the file, and the
    native section comes into being. -/
theorem loading_precedence_level :
    ∃ s, fromDirectory levelFile (.ofEnvironment namedEnvironment) (Path.ofText "a") = .ok s ∧
      s.symbol = "my_snprintf" ∧ s.library = none ∧ s.outputStream = .stdout ∧ s.level = "Debug" ∧
      s.project.native.isSome := by
  have hgives : namedEnvironment.Gives ⟨none, some "my_snprintf", none, some "Debug"⟩ :=
    ⟨rfl, rfl, rfl, rfl⟩
  have hload : Loading levelFile namedEnvironment { log := some ⟨some "off"⟩ } (some ⟨[]⟩)
      (fromDirectory levelFile (.ofEnvironment namedEnvironment) (Path.ofText "a")) :=
    .directory (by decide +kernel) rfl (toOption_eq_some_iff.1 (by decide +kernel))
  have hvalid : Overrides.Valid ⟨none, some "my_snprintf", none, some "Debug"⟩ := by
    refine ⟨fun s hs => ?_, fun s hs => (nomatch hs), fun s hs => (nomatch hs), fun s hs => ?_⟩
    · rw [← Option.some.inj hs]
      exact ⟨by decide +kernel, by decide +kernel⟩
    · rw [← Option.some.inj hs, LevelValid]
      decide +kernel
  rcases loading_precedence hgives hload with ⟨hiff, hall⟩
  rcases hiff.2 ⟨toOption_eq_some_iff.1 (by decide +kernel), hvalid⟩ with ⟨s, hs⟩
  rcases hall s hs with ⟨heffective, hmerged, -⟩
  exact ⟨s, hs, heffective.symbol, heffective.library, heffective.stream_kept rfl,
    heffective.level, hmerged.native_present.2 (.inr (.inr rfl))⟩

end Settings

end PrintBridge
