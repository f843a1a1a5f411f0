import PrintBridge.Path

/-!
# Views of Files

What the library asks of the files around it: whether something stands at a
path, whether that is a regular file, and what the file holds. Anything that
answers these questions will do, so nothing here depends on how files are
kept.

## Main definitions

* `FileError`: Why a file cannot be read.
* `Files`: A view of files.
-/

namespace PrintBridge

/-- Why a file cannot be read. -/
inductive FileError where
  | notFound
  | notDirectory
  | isDirectory
  | nameTooLong
  | nulInName
  /-- The file was read but is no text. -/
  | notText
  | other (reason : String)
deriving DecidableEq

/-- The text of a file error, with the number that the system gives it. -/
def FileError.message : FileError → String
  | notFound => "No such file or directory (os error 2)"
  | notDirectory => "Not a directory (os error 20)"
  | isDirectory => "Is a directory (os error 21)"
  | nameTooLong => "File name too long (os error 36)"
  | nulInName => "file name contained an unexpected NUL byte"
  | notText => "stream did not contain valid UTF-8"
  | other reason => reason

/-- What stands at a path. -/
inductive NodeKind where
  | regular
  | directory
deriving DecidableEq

/-- A view of files. -/
structure Files where
  /-- What stands at a path, if anything does. -/
  kind? : Path → Option NodeKind
  /-- What the file at a path holds. -/
  read : Path → Except FileError Bytes

namespace Files

/-- Whether anything stands at a path. -/
def hasEntry (f : Files) (p : Path) : Bool := (f.kind? p).isSome

/-- Whether a regular file stands at a path. -/
def isFile (f : Files) (p : Path) : Bool := f.kind? p == some .regular

/-- The text that the file at a path holds. -/
def readText (f : Files) (p : Path) : Except FileError String :=
  (f.read p).bind fun bytes =>
    match Utf8.decode? bytes with
    | some s => .ok s
    | none => .error .notText

end Files

end PrintBridge
