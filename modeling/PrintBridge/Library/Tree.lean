import PrintBridge.Files.Tree
import PrintBridge.Library.Loader

/-!
# Hosts over File Trees

A host whose libraries stand in a file tree. At some places there are library
images; any other file is opened in vain. A file that is shorter than the
header of a library is told apart from one that is long enough and has no
such header, and a directory has nothing that could be read.

## Main definitions

* `FileTree.openLibrary`: Opening what stands at a path.
* `Host.ofTree`: The host over a tree.
-/

namespace PrintBridge

namespace FileTree

/-- The bytes of a library header. -/
def headerSize : Nat := 64

/-- Why a node without an image cannot be opened. -/
def openFailure : Option FileNode → String
  | some (.file content) =>
    if content.length < headerSize then "file too short" else "invalid ELF header"
  | some .directory => "cannot read file data: Is a directory"
  | none => "cannot open shared object file: No such file or directory"

/-- Opens what stands at a path, where `images` are the libraries among the
    places of the tree. -/
def openLibrary {ρ : Type} (t : FileTree) (working : Place) (images : List (Place × Image ρ))
    (p : Path) : Except String (Image ρ) :=
  let place := (t.follow working p).toOption
  match place.bind fun place => images.find? fun e => e.1 == place with
  | some e => .ok e.2
  | none => .error (p.display ++ ": " ++ openFailure (place.bind t.nodeAt?))

end FileTree

/-- The host over a tree, seen from the working directory at a place with the
    given path. -/
def Host.ofTree {ρ : Type} (t : FileTree) (working : Place) (path : Path)
    (images : List (Place × Image ρ)) (process : Image ρ) : Host ρ where
  files := t.view working
  working := some path
  openLibrary := t.openLibrary working images
  process := process

end PrintBridge
