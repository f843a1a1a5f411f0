import PrintBridge.Library.Search
import PrintBridge.Routine.Basic

/-!
# Loading Libraries

Resolution of the native routine, from a library or from the image of the
process itself. A library is opened at most once: what was opened is kept
under its path, where two spellings with the same components are one path,
and every later load of that path gives the same library back. Nothing that
was opened is ever closed. A load that fails leaves the loader as it was.

What opening a file as a library gives, and which symbols an image has, is
the host's to say.

## Main definitions

* `Image`: The routines of a library, by symbol.
* `Host`: What the loader asks of the world around it.
* `Loader`: What is open.
* `Loader.load`, `Loader.resolve`: Loading, and resolution of a symbol.

## Theorems

* `load_of_absent`, `load_of_cached`, `load_of_refused`, `load_of_opened`: The
  four ways that a load can go. A path that is open is not opened again.
-/

namespace PrintBridge

/-- The routines of a library, by symbol. -/
structure Image (ρ : Type) where
  symbols : String → Option (Routine ρ)

/-- What the loader asks of the world around it. -/
structure Host (ρ : Type) where
  files : Files
  /-- The working directory, if it is known. -/
  working : Option Path
  /-- Opens the library at a path, or says why it is none. -/
  openLibrary : Path → Except String (Image ρ)
  /-- The image of the process and everything it links. -/
  process : Image ρ

namespace Image

/-- The name under which a symbol is looked up. One NUL at the end is taken
    for the end of the name, and a name with a NUL inside is none. -/
def symbolName? (symbol : String) : Option String :=
  let cs := symbol.toList
  let name := if cs.getLast? = some '\x00' then cs.dropLast else cs
  if '\x00' ∈ name then none else some (String.ofList name)

/-- The routine with a symbol. -/
def lookup? {ρ : Type} (image : Image ρ) (symbol : String) : Option (Routine ρ) :=
  (symbolName? symbol).bind image.symbols

end Image

/-- An open library with the components of its path. -/
structure OpenLibrary (ρ : Type) where
  path : List Component
  image : Image ρ

/-- What is open. -/
structure Loader (ρ : Type) where
  searchPaths : List Path
  libraries : List (OpenLibrary ρ)
  processOpen : Bool

namespace Loader

variable {ρ : Type}

/-- A loader that has opened nothing. -/
def start (host : Host ρ) : Loader ρ := ⟨Search.directories host.working, [], false⟩

/-- The failure of a search. -/
def failed (e : LoadError) : PrintError := .native (.load e)

/-- The place of the library with a path among those that are open. -/
def find? (l : Loader ρ) (path : Path) : Option Nat :=
  l.libraries.findIdx? fun library => library.path == path.components

/-- The path of a library, as the loader resolves its name. -/
def resolvePath? (host : Host ρ) (l : Loader ρ) (name : String) : Option Path :=
  Search.find? host.files l.searchPaths name

/-- What the loader logs. -/
def say (text : String) : Event := .logged ⟨.debug, "jmate_io::ffi::loader", text⟩

/-- Loads a library by name and gives its place among those that are open. -/
def load (host : Host ρ) (name : String) : Action (Loader ρ) Nat := fun l =>
  match l.resolvePath? host name with
  | none => ⟨.error (.failure (failed (.libraryNotFound name))), l, []⟩
  | some path =>
    match l.find? path with
    | some place => ⟨.ok place, l, []⟩
    | none =>
      let announced := say ("loading native library " ++ path.display)
      match host.openLibrary path with
      | .error reason =>
        ⟨.error (.failure (failed (.loadFailed reason))), l, [announced]⟩
      | .ok image =>
        ⟨.ok l.libraries.length,
          { l with libraries := l.libraries ++ [⟨path.components, image⟩] },
          [announced, .opened path]⟩

/-- The name under which the image of the process is reported. -/
def processName : String := "the process image"

/-- The image of a library, or of the process where no library is named. -/
def image (host : Host ρ) : Option String → Action (Loader ρ) (Option (Image ρ))
  | some name => do
    let place ← load host name
    fun l => ⟨.ok (l.libraries[place]?.map OpenLibrary.image), l, []⟩
  | none => fun l => ⟨.ok (some host.process), { l with processOpen := true }, []⟩

/-- The routine with a symbol, in a library or in the process. -/
def resolve (host : Host ρ) (library : Option String) (symbol : String) :
    Action (Loader ρ) (Routine ρ) := do
  let origin := library.getD processName
  let found ← image host library
  match found.bind (·.lookup? symbol) with
  | none => Action.fail (failed (.symbolNotFound origin symbol))
  | some routine =>
    Action.emit (say ("resolved native routine '" ++ symbol ++ "' from " ++ origin))
    return routine

/-- A library that is not found leaves no trace. -/
theorem load_of_absent (host : Host ρ) (name : String) (l : Loader ρ)
    (hpath : l.resolvePath? host name = none) :
    load host name l = ⟨.error (.failure (failed (.libraryNotFound name))), l, []⟩ := by
  simp only [load, hpath]

/-- A path that is open is not opened again. -/
theorem load_of_cached (host : Host ρ) (name : String) (l : Loader ρ) (path : Path)
    (place : Nat) (hpath : l.resolvePath? host name = some path)
    (hplace : l.find? path = some place) :
    load host name l = ⟨.ok place, l, []⟩ := by
  simp only [load, hpath, hplace]

/-- A path that cannot be opened is only announced. -/
theorem load_of_refused (host : Host ρ) (name : String) (l : Loader ρ) (path : Path)
    (reason : String) (hpath : l.resolvePath? host name = some path)
    (hnew : l.find? path = none) (hopen : host.openLibrary path = .error reason) :
    load host name l = ⟨.error (.failure (failed (.loadFailed reason))), l,
      [say ("loading native library " ++ path.display)]⟩ := by
  simp only [load, hpath, hnew, hopen]

/-- A path that is opened stands behind all others. -/
theorem load_of_opened (host : Host ρ) (name : String) (l : Loader ρ) (path : Path)
    (found : Image ρ) (hpath : l.resolvePath? host name = some path)
    (hnew : l.find? path = none) (hopen : host.openLibrary path = .ok found) :
    load host name l = ⟨.ok l.libraries.length,
      { l with libraries := l.libraries ++ [⟨path.components, found⟩] },
      [say ("loading native library " ++ path.display), .opened path]⟩ := by
  simp only [load, hpath, hnew, hopen]

end Loader

end PrintBridge
