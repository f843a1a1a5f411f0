import PrintBridge.Files.Snapshot
import PrintBridge.Library.Tree
import PrintBridge.Routine.Formatting
import PrintBridge.Settings.Project

/-!
# Hosts over Snapshots

A host for a program that has only looked at files. The one native routine
that it can call is the formatting routine, so that is what the process
offers under the usual symbol, and what is taken to be in any file that opens
like a library.

## Main definitions

* `Image.formatting`: The image with the formatting routine.
* `Host.ofSnapshot`: The host over a snapshot.
-/

namespace PrintBridge

/-- The image that offers the formatting routine under its usual symbol. -/
def Image.formatting : Image Unit where
  symbols name := if name = defaultSymbol then some Routine.formatting else none

/-- The bytes that libraries open with. -/
def libraryMagic : Bytes := [0x7f, 0x45, 0x4c, 0x46]

/-- Whether a file opens like a library and has room for its header. -/
def opensLikeLibrary (content : Bytes) : Bool :=
  libraryMagic.isPrefixOf content && FileTree.headerSize ≤ content.length

/-- The host over a snapshot, with a working directory if it is known. -/
def Host.ofSnapshot (s : Snapshot) (working : Option Path) : Host Unit where
  files := s.view
  working := working
  openLibrary p :=
    let refused (node : Option FileNode) : Except String (Image Unit) :=
      .error (p.display ++ ": " ++ FileTree.openFailure node)
    match s.at? p with
    | .ok content =>
      if opensLikeLibrary content then .ok Image.formatting else refused (some (.file content))
    | .error .isDirectory => refused (some .directory)
    | .error _ => refused none
  process := Image.formatting

end PrintBridge
