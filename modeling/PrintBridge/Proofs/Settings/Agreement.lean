import PrintBridge.Files.Tree
import PrintBridge.Proofs.Files.Components
import PrintBridge.Settings.Discovery

/-!
# Directory and File

Loading settings for a directory comes to the same as loading the file that is
found for it.

The two loads share the reading of the file and the overrides, but not the
root. A directory is loaded with the root at which the search stopped, as it is
spelled there, and a file with its own parent. Both say the same, step by step,
though the one may have slashes and dots that the other has lost.

The search stops at the first entry under the name of the settings file and
does not ask what kind of entry that is. A file that cannot be read, or is no
document, or has settings that are not valid, is the outcome all the same, and
no file further up takes its place. This holds of every view of files, also of
one where an entry is gone again when it is read.

## Main definitions

* `Settings.said`: Settings with the components of their root.

## Theorems

* `parent_fileIn`: The parent of a settings file says what its directory says.
* `fromDirectory_of_first`: A directory with a settings file at or above it.
* `fromDirectory_of_none`: A directory without one.
* `fromDirectory_agrees`: Both, and the search for them ends.
-/

namespace PrintBridge

namespace Settings

/-- Settings with what their root says, however that is spelled. -/
def said (s : Settings) : ProjectSettings × Option (List Component) :=
  (s.project, s.root.map Path.components)

/-- The parent of a settings file says what its directory says. -/
theorem parent_fileIn (directory : Path) :
    (fileIn directory).parent?.map Path.components = some directory.components :=
  Path.parent_join directory (by decide) (by decide)

/-- Of a root it only matters what it says. -/
theorem load_said (o : Overrides) (read : Except SettingsError ProjectSettings)
    (root : Option Path) :
    (do let project ← read; return ⟨← o.apply project, root⟩ :
        Except SettingsError Settings).map said =
      (read.bind o.apply).map fun project => (project, root.map Path.components) := by
  cases read with
  | error e => rfl
  | ok project =>
      simp only [bind, Except.bind, pure, Except.pure]
      cases o.apply project with
      | error e => rfl
      | ok merged => rfl

/-- A directory is loaded like the first settings file at or above it. -/
theorem fromDirectory_of_first (files : Files) (o : Overrides) {start directory : Path}
    (h : start.First (fun d => files.hasEntry (fileIn d)) directory) :
    (fromDirectory files o start).map said = (fromFile files o (fileIn directory)).map said := by
  have hfind : findRoot? files start = some directory := Path.find?_ancestors_of_first h
  have hload : fromDirectory files o start = do
      let project ← readFile files (fileIn directory)
      return ⟨← o.apply project, some directory⟩ := by
    rw [fromDirectory, hfind]
  rw [hload, fromFile, load_said, load_said, parent_fileIn, Option.map_some]

/-- Without such a file it is loaded as the defaults, and has no root. -/
theorem fromDirectory_of_none (files : Files) (o : Overrides) {start : Path}
    (h : ∀ k d, start.ancestor? k = some d → files.hasEntry (fileIn d) = false) :
    fromDirectory files o start = (o.apply {}).map fun project => ⟨project, none⟩ := by
  have hfind : findRoot? files start = none := Path.find?_ancestors_of_none h
  simp only [fromDirectory, hfind, bind, Except.bind, pure, Except.pure]
  cases o.apply {} with
  | error e => rfl
  | ok merged => rfl

/-- Loading for a directory agrees with loading the first settings file among
    those of the directory and of its parents, be it usable or not: the same
    settings at the same root, or the same failure. Where none of them is
    there, the environment overrides the defaults, and there is no root. There
    is an end to the parents. -/
theorem fromDirectory_agrees (files : Files) (e : Environment) (start : Path) :
    (∀ directory, start.First (fun d => files.hasEntry (fileIn d)) directory →
      (fromDirectory files (.ofEnvironment e) start).map said =
        (fromFile files (.ofEnvironment e) (fileIn directory)).map said) ∧
    ((∀ k d, start.ancestor? k = some d → files.hasEntry (fileIn d) = false) →
      fromDirectory files (.ofEnvironment e) start =
        ((Overrides.ofEnvironment e).apply {}).map fun project => ⟨project, none⟩) ∧
    ∃ k, start.ancestor? k = none := by
  refine ⟨?_, ?_, start.exists_ancestor?_none⟩
  · intro directory hfirst
    exact fromDirectory_of_first files _ hfirst
  · intro hnone
    exact fromDirectory_of_none files _ hnone

/-- A tree where a directory stands under the name of the settings file, below
    one with settings that are fine. -/
def coveredTree : FileTree :=
  ⟨[([Utf8.encode "a", Utf8.encode settingsFile], .directory),
    ([Utf8.encode settingsFile], .file (Utf8.encode "[log]\nlevel=\"off\""))]⟩

/-- The directory is found, and the settings above it are not asked for. -/
theorem fromDirectory_agrees_covered :
    (fromDirectory (coveredTree.view []) (.ofEnvironment ⟨fun _ => none⟩)
      (Path.ofText "/a//b")).map said = .error (.unreadable .isDirectory) := by
  have hfirst : (Path.ofText "/a//b").First
      (fun d => (coveredTree.view []).hasEntry (fileIn d)) (Path.ofText "/a") := by
    refine ⟨1, by decide +kernel, by decide +kernel, fun j hj c hc => ?_⟩
    -- Only the directory itself comes before its parent.
    obtain rfl : j = 0 := by omega
    obtain rfl : Path.ofText "/a//b" = c := Option.some.inj hc
    decide +kernel
  rw [(fromDirectory_agrees (coveredTree.view []) ⟨fun _ => none⟩ (Path.ofText "/a//b")).1
    (Path.ofText "/a") hfirst]
  rfl

end Settings

end PrintBridge
