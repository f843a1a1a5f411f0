import PrintBridge.Files.View

/-!
# Snapshots of Files

Files as they were seen when somebody looked at them. A snapshot knows the
paths that were looked at and nothing else, so it stands for the files around
the library wherever it is known beforehand which paths will be asked for.

## Main definitions

* `Sight`: What was seen at a path.
* `Snapshot.view`: The files that a snapshot shows.

## Theorems

* `read_of_seen`: A path reads as it was first seen.
-/

namespace PrintBridge

/-- What was seen at a path. -/
structure Sight where
  path : Path
  found : Except FileError Bytes

/-- What was seen, the first sight of a path first. -/
abbrev Snapshot := List Sight

namespace Snapshot

/-- What was seen at a path. What was not looked at is not there. -/
def at? (s : Snapshot) (p : Path) : Except FileError Bytes :=
  ((s.find? fun sight => sight.path == p).map Sight.found).getD (.error .notFound)

/-- The files that a snapshot shows. What cannot be read is a directory, or
    else not there. -/
def view (s : Snapshot) : Files where
  kind? p :=
    match s.at? p with
    | .ok _ => some .regular
    | .error .isDirectory => some .directory
    | .error _ => none
  read p := s.at? p

/-- A path reads as it was first seen. -/
theorem read_of_seen (s : Snapshot) (p : Path) (found : Except FileError Bytes) :
    (view (⟨p, found⟩ :: s)).read p = found := by
  simp only [view, at?, List.find?_cons, BEq.rfl, Option.map_some, Option.getD_some]

end Snapshot

end PrintBridge
