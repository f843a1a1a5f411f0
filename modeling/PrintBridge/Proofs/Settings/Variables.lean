import PrintBridge.Proofs.Settings.Precedence

/-!
# Variables That Are Set

What becomes of every variable that is set, whatever bytes it holds.

Variables are looked at as texts. One that holds a text is heeded: its setting is
the one that it names, or nothing is loaded at all. One that holds bytes that are
no text is not there for those who look. The settings are those of the environment
without it, which come from the file or are the defaults, and nobody is told. So a
library whose path is no text cannot be named by its variable, and what is loaded in
its place is another one.

Both ways of loading come down to a file that was read and overrides that were put
in place, so what holds of the overrides holds of either.

## Main definitions

* `Environment.without`: An environment without one of its variables.
* `Settings.Heeds`: Settings that heed the texts in an environment.

## Theorems

* `text?_without`: A variable that holds no text is not seen.
* `applied_of_fromFile`, `applied_of_fromDirectory`: Loading puts the overrides in
  place of what a file gives.
* `heeds_of_apply`: Overrides that were put in place are heeded.
* `variables_heeded`: Every variable that is set is heeded or not seen.
-/

namespace PrintBridge

/-- The environment without a variable. -/
def Environment.without (e : Environment) (name : String) : Environment where
  get? other := if other = name then none else e.get? other

/-- Settings that are the ones named by the texts in an environment. A stream may be
    named in any case. -/
structure Settings.Heeds (s : Settings) (e : Environment) : Prop where
  library : ∀ t, e.get? "JMATE_NATIVE_LIBRARY" = some (Utf8.encode t) → s.library = some t
  symbol : ∀ t, e.get? "JMATE_NATIVE_SYMBOL" = some (Utf8.encode t) → s.symbol = t
  output : ∀ t, e.get? "JMATE_OUTPUT" = some (Utf8.encode t) →
    Text.lowercase t = s.outputStream.name
  level : ∀ t, e.get? "JMATE_LOG" = some (Utf8.encode t) → s.level = t

namespace Environment

variable {e : Environment} {name : String}

theorem text?_of_encode {t : String} (h : e.get? name = some (Utf8.encode t)) :
    e.text? name = some t := by
  rw [text?, h, Option.bind_some, Utf8.decode?_encode]

/-- A variable that holds no text is left out for all who look at texts. -/
theorem text?_without {bytes : Bytes} (h : e.get? name = some bytes)
    (hbytes : ∀ t, bytes ≠ Utf8.encode t) (other : String) :
    (e.without name).text? other = e.text? other := by
  by_cases hother : other = name
  · have hnone : Utf8.decode? bytes = none :=
      Option.eq_none_iff_forall_ne_some.2 fun t ht =>
        hbytes t ((Utf8.decode?_eq_some_iff bytes t).1 ht)
    have hleft : (e.without name).get? other = none := if_pos hother
    rw [text?, text?, hleft, hother, h, Option.bind_some, hnone]
    rfl
  · have hkept : (e.without name).get? other = e.get? other := if_neg hother
    rw [text?, text?, hkept]

end Environment

/-- So the overrides are the same without it. -/
theorem Overrides.ofEnvironment_without {e : Environment} {name : String} {bytes : Bytes}
    (h : e.get? name = some bytes) (hbytes : ∀ t, bytes ≠ Utf8.encode t) :
    ofEnvironment (e.without name) = ofEnvironment e := by
  simp only [ofEnvironment, Environment.text?_without h hbytes]

namespace Settings

variable {files : Files} {e : Environment} {o : Overrides} {s : Settings}

/-- Loading a file puts the overrides in place of what the file gives. -/
theorem applied_of_fromFile {path : Path} (h : fromFile files o path = .ok s) :
    ∃ p, readFile files path = .ok p ∧ o.apply p = .ok s.project := by
  rcases bind_eq_ok_iff.1 h with ⟨p, hread, h⟩
  rcases bind_eq_ok_iff.1 h with ⟨merged, hmerged, h⟩
  obtain rfl := Except.ok.inj h
  exact ⟨p, hread, hmerged⟩

/-- Where a directory has no settings file at or above it, nothing is given. -/
theorem applied_of_fromDirectory {start : Path} (h : fromDirectory files o start = .ok s) :
    ∃ p, o.apply p = .ok s.project ∧
      ((∃ root, findRoot? files start = some root ∧ readFile files (fileIn root) = .ok p) ∨
        (findRoot? files start = none ∧ p = {})) := by
  unfold fromDirectory at h
  rcases hroot : findRoot? files start with _ | root
  · rw [hroot] at h
    rcases bind_eq_ok_iff.1 h with ⟨p, hdefault, h⟩
    rcases bind_eq_ok_iff.1 h with ⟨merged, hmerged, h⟩
    obtain rfl := Except.ok.inj h
    exact ⟨p, hmerged, .inr ⟨rfl, (Except.ok.inj hdefault).symm⟩⟩
  · rw [hroot] at h
    rcases bind_eq_ok_iff.1 h with ⟨p, hread, h⟩
    rcases bind_eq_ok_iff.1 h with ⟨merged, hmerged, h⟩
    obtain rfl := Except.ok.inj h
    exact ⟨p, hmerged, .inl ⟨root, rfl, hread⟩⟩

/-- Overrides that were put in place are heeded. -/
theorem heeds_of_apply {p : ProjectSettings}
    (h : (Overrides.ofEnvironment e).apply p = .ok s.project) : s.Heeds e := by
  have heffective := effective_of_merged (Overrides.merged_of_apply h)
  refine ⟨fun t ht => ?_, fun t ht => ?_, fun t ht => ?_, fun t ht => ?_⟩
  · have hset : (Overrides.ofEnvironment e).library = some t := Environment.text?_of_encode ht
    rw [heffective.library, hset, Option.some_or]
  · have hset : (Overrides.ofEnvironment e).symbol = some t := Environment.text?_of_encode ht
    rw [heffective.symbol, hset, Option.some_or, Option.getD_some]
  · exact heffective.stream_replaced t (Environment.text?_of_encode ht)
  · have hset : (Overrides.ofEnvironment e).log = some t := Environment.text?_of_encode ht
    rw [heffective.level, hset, Option.some_or, Option.getD_some]

/-- Whatever the variables hold, those that hold texts are heeded where loading
    succeeds, and one that holds no text is taken for unset. -/
theorem variables_heeded (files : Files) (e : Environment) :
    (∀ path s, fromFile files (.ofEnvironment e) path = .ok s → s.Heeds e) ∧
      (∀ start s, fromDirectory files (.ofEnvironment e) start = .ok s → s.Heeds e) ∧
      ∀ name bytes, e.get? name = some bytes → (∀ t, bytes ≠ Utf8.encode t) →
        (∀ path, fromFile files (.ofEnvironment e) path =
          fromFile files (.ofEnvironment (e.without name)) path) ∧
        ∀ start, fromDirectory files (.ofEnvironment e) start =
          fromDirectory files (.ofEnvironment (e.without name)) start := by
  refine ⟨fun path s h => ?_, fun start s h => ?_, fun name bytes h hbytes => ?_⟩
  · rcases applied_of_fromFile h with ⟨p, -, hmerged⟩
    exact heeds_of_apply hmerged
  · rcases applied_of_fromDirectory h with ⟨p, hmerged, -⟩
    exact heeds_of_apply hmerged
  · rw [Overrides.ofEnvironment_without h hbytes]
    exact ⟨fun _ => rfl, fun _ => rfl⟩

/-- Bytes that are no text. -/
def foreignBytes : Bytes := [0xff, 0x41]

/-- An environment with a log level, and a library whose path is no text. -/
def foreignEnvironment : Environment where
  get? name :=
    if name = Overrides.libraryVariable then some foreignBytes
    else if name = Overrides.levelVariable then some (Utf8.encode "debug")
    else none

/-- A settings file for the library and the log level. -/
def libraryFile : Files :=
  Snapshot.view [⟨Path.ofText "jmate.toml",
    .ok (Utf8.encode "[native]\nlibrary=\"from_file.so\"\n[log]\nlevel=\"off\"")⟩]

theorem foreignBytes_ne_encode (t : String) : foreignBytes ≠ Utf8.encode t := by
  intro h
  have hnone : Utf8.decode? foreignBytes = none := by decide +kernel
  rw [(Utf8.decode?_eq_some_iff _ t).2 h] at hnone
  exact absurd hnone (by simp only [reduceCtorEq, not_false_eq_true])

/-- The level of the environment is heeded, and the library is not seen. -/
theorem variables_heeded_level :
    ∃ s, fromDirectory libraryFile (.ofEnvironment foreignEnvironment) (Path.ofText "a") = .ok s ∧
      s.level = "debug" ∧
      fromDirectory libraryFile (.ofEnvironment
        (foreignEnvironment.without Overrides.libraryVariable)) (Path.ofText "a") = .ok s := by
  rcases hload : fromDirectory libraryFile (.ofEnvironment foreignEnvironment) (Path.ofText "a")
    with error | s
  · have hloads : (fromDirectory libraryFile (.ofEnvironment foreignEnvironment)
        (Path.ofText "a")).toBool = true := by decide +kernel
    rw [hload] at hloads
    exact absurd hloads Bool.false_ne_true
  · rcases variables_heeded libraryFile foreignEnvironment with ⟨-, hheeds, hforeign⟩
    rcases hforeign Overrides.libraryVariable foreignBytes rfl foreignBytes_ne_encode with
      ⟨-, hwithout⟩
    exact ⟨s, rfl, (hheeds _ s hload).level "debug" rfl, (hwithout _).symm.trans hload⟩

/-- A library is named by its variable, and another one is used. -/
theorem foreign_library_ignored :
    foreignEnvironment.get? "JMATE_NATIVE_LIBRARY" = some foreignBytes ∧
      foreignBytes ≠ Utf8.encode "from_file.so" ∧
      (fromDirectory libraryFile (.ofEnvironment foreignEnvironment)
        (Path.ofText "a")).map Settings.library = .ok (some "from_file.so") :=
  ⟨rfl, foreignBytes_ne_encode _, toOption_eq_some_iff.1 (by decide +kernel)⟩

end Settings

end PrintBridge
