import PrintBridge.Files.View
import PrintBridge.Text.Quoted

/-!
# Library Search

Where a library is found by its name. An absolute name is its own path, and
anything that stands there is taken. A relative name is looked for in the
search directories one after the other; in each of them the name itself comes
first, and then the file name that a short name is commonly given, with and
without the usual opening. Only a regular file is a match.

The working directory is searched before the directories of the system.

## Main definitions

* `Search.directories`: The directories, in order.
* `Search.within?`: The match in one directory.
* `Search.find?`: The path of a library.
* `Search.candidates`: The places for a name in one directory.

## Theorems

* `within?_eq_find?`: The match in a directory is the first regular candidate
  there.
* `find?_relative`: A relative name is found at its first regular candidate.
-/

namespace PrintBridge

namespace Search

/-- The directories of the system that hold libraries. -/
def system : List Path :=
  ["/usr/lib", "/usr/local/lib", "/lib", "/usr/lib/x86_64-linux-gnu",
    "/lib/x86_64-linux-gnu", "/usr/lib64", "/lib64"].map Path.ofText

/-- All search directories, in order. -/
def directories (working : Option Path) : List Path := working.toList ++ system

/-- What stands in front of a short name in the name of a file, as it is tried
    in order. -/
def openings : List String := ["lib", ""]

/-- What the names of files that hold libraries end in. -/
def endings : List String := ["so"]

/-- The match in one directory: the name itself, or else a short name with one
    of the openings and one of the endings. -/
def within? (files : Files) (name : String) (directory : Path) : Option Path :=
  let exact := directory.join (Path.ofText name)
  if files.isFile exact then some exact
  else openings.findSome? fun opening => endings.findSome? fun ending =>
    let path := directory.join (Path.ofText (opening ++ name ++ "." ++ ending))
    if files.isFile path then some path else none

/-- The path of a library. -/
def find? (files : Files) (directories : List Path) (name : String) : Option Path :=
  let path := Path.ofText name
  if path.isAbsolute then if files.hasEntry path then some path else none
  else directories.findSome? (within? files name)

/-- The places for a name in one directory, in order. -/
def candidates (name : String) (directory : Path) : List Path :=
  [name, "lib" ++ name ++ ".so", name ++ ".so"].map fun file =>
    directory.join (Path.ofText file)

/-- Directories on one line. -/
def describe (directories : List Path) : String :=
  "[" ++ ", ".intercalate (directories.map fun d => Text.quote d.display) ++ "]"

/-- The loops over openings and endings try the candidates one after the other. -/
theorem within?_eq_find? (files : Files) (name : String) (directory : Path) :
    within? files name directory = (candidates name directory).find? files.isFile := by
  have hopened : "lib" ++ name ++ "." ++ "so" = "lib" ++ name ++ ".so" := by
    rw [String.append_assoc]
    rfl
  have hplain : "" ++ name ++ "." ++ "so" = name ++ ".so" := by
    rw [String.empty_append, String.append_assoc]
    rfl
  simp only [within?, openings, endings, List.findSome?_cons, List.findSome?_nil, hopened, hplain,
    candidates, List.map_cons, List.map_nil, List.find?_cons, List.find?_nil]
  cases files.isFile (directory.join (Path.ofText name)) with
  | true => rfl
  | false =>
      cases files.isFile (directory.join (Path.ofText ("lib" ++ name ++ ".so"))) with
      | true => rfl
      | false => cases files.isFile (directory.join (Path.ofText (name ++ ".so"))) <;> rfl

/-- A relative name is found at its first regular candidate. -/
theorem find?_relative (files : Files) (directories : List Path) (name : String)
    (h : (Path.ofText name).isAbsolute = false) :
    find? files directories name =
      (directories.flatMap (candidates name)).find? files.isFile := by
  have hwithin : within? files name = fun d => (candidates name d).find? files.isFile :=
    funext (within?_eq_find? files name)
  simp only [find?, h, Bool.false_eq_true, if_false, hwithin, List.find?_flatMap]

end Search

end PrintBridge
