import PrintBridge.Files.View

/-!
# File Trees

Files as a tree of directories without links. A place in the tree is the list
of names on the way to it from the root, and the directories on the way to
anything are there with it.

A path is followed segment by segment from the root or from the working
directory. Every segment has to start in a directory, also one that says
nothing, so a slash behind a file's name asks for what is not there. Two dots
go to the directory above, and from the root nowhere.

## Main definitions

* `FileNode`, `FileTree`: What stands in a tree.
* `FileTree.follow`: The place that a path leads to.
* `FileTree.view`: The tree as seen from a working directory.
-/

namespace PrintBridge

/-- A place in a tree: the names on the way from the root. -/
abbrev Place := List Bytes

/-- What stands at a place. -/
inductive FileNode where
  | file (content : Bytes)
  | directory
deriving DecidableEq

/-- A tree of files, given by what stands at some of its places. -/
structure FileTree where
  entries : List (Place × FileNode)

namespace FileTree

/-- What stands at a place. A place on the way to another is a directory. -/
def nodeAt? (t : FileTree) (place : Place) : Option FileNode :=
  match t.entries.find? fun e => e.1 == place with
  | some e => some e.2
  | none =>
    if place = [] ∨ t.entries.any fun e => place.isPrefixOf e.1 then some .directory
    else none

/-- The most bytes that a name can have. -/
def nameLimit : Nat := 255

/-- The bytes that a path, with a byte to end it, must stay within. -/
def pathLimit : Nat := 4096

/-- The place one segment further. -/
def enter (t : FileTree) (here : Place) (segment : Bytes) : Except FileError Place :=
  match t.nodeAt? here with
  | some .directory =>
    match Path.componentOf? segment with
    | none => .ok here
    | some .up => .ok here.dropLast
    | some _ =>
      if nameLimit < segment.length then .error .nameTooLong
      else if (t.nodeAt? (here ++ [segment])).isSome then .ok (here ++ [segment])
      else .error .notFound
  | some (.file _) => .error .notDirectory
  | none => .error .notFound

/-- The place that segments lead to. -/
def followFrom (t : FileTree) (here : Place) : List Bytes → Except FileError Place
  | [] => .ok here
  | segment :: rest => (t.enter here segment).bind fun next => followFrom t next rest

/-- The place that a path leads to from a working directory. -/
def follow (t : FileTree) (working : Place) (p : Path) : Except FileError Place :=
  if p.bytes = [] then .error .notFound
  else if (0 : UInt8) ∈ p.bytes then .error .nulInName
  else if pathLimit ≤ p.bytes.length then .error .nameTooLong
  else t.followFrom (if p.isAbsolute then [] else working) p.segments

/-- The tree as seen from a working directory. -/
def view (t : FileTree) (working : Place) : Files where
  kind? p :=
    match t.follow working p with
    | .error _ => none
    | .ok place => (t.nodeAt? place).map fun
      | .file _ => .regular
      | .directory => .directory
  read p :=
    (t.follow working p).bind fun place =>
      match t.nodeAt? place with
      | some (.file content) => .ok content
      | some .directory => .error .isDirectory
      | none => .error .notFound

end FileTree

end PrintBridge
