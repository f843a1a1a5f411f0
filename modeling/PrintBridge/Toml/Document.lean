import PrintBridge.Toml.Scalar

/-!
# TOML Documents

Values and whole documents. Arrays and inline tables hold values again, to a
limited depth. An array may spread over lines and may end in a comma; an
inline table stays on one line and may not.

A document is a sequence of lines with keys and headers. Keys go into the
table of the last header. That table is put into the document when the next
header begins, or at the end; until then its place is only reserved, which
shows in the order of keys when a header opens a table that another header
has passed through before.

## Main definitions

* `value?`: A value.
* `Builder`: A document while it is read.
* `Document.read?`: The table that a text says.

## Theorems

* `read?_empty`: The empty text is the empty document.
-/

namespace PrintBridge

namespace Toml

/-- The items of an array up to its end, given a reader for one of them. A
    comma stands between items and may stand behind the last. -/
def items? (item : Reader Node) : Nat → Reader (List Node)
  | 0, _ => none
  | fuel + 1, cs =>
    match gaps cs with
    | ']' :: rest => some ([], rest)
    | cs =>
      match item cs with
      | none => none
      | some (first, rest) =>
        match gaps rest with
        | ']' :: rest => some ([first], rest)
        | ',' :: rest => (items? item fuel rest).map fun p => (first :: p.1, p.2)
        | _ => none

/-- The entries of an inline table up to its end, put into the entries so far.
    A comma has to be followed by another entry. -/
def inlineEntries? (item : Reader Node) (t : Table) : Nat → Reader Table
  | 0, _ => none
  | fuel + 1, cs =>
    match key? cs with
    | none => none
    | some ((path, key), rest) =>
      match blanks rest with
      | '=' :: rest =>
        match item (blanks rest) with
        | none => none
        | some (value, rest) =>
          match t.insert? path key value with
          | none => none
          | some t =>
            match blanks rest with
            | '\x7d' :: rest => some (t, rest)
            | ',' :: rest => inlineEntries? item t fuel rest
            | _ => none
      | _ => none

/-- An inline table behind its opening brace. -/
def inlineTable? (item : Reader Node) : Reader Node := fun cs =>
  match blanks cs with
  | '\x7d' :: rest => some (.table .inline [], rest)
  | cs => (inlineEntries? item [] (cs.length + 1) cs).map fun p => (.table .inline p.1, p.2)

/-- A value in which so many arrays and inline tables can stand in each
    other. -/
def valueWithin? : Nat → Reader Node
  | _, '"' :: rest => (string? ('"' :: rest)).map fun p => (.string p.1, p.2)
  | _, '\'' :: rest => (string? ('\'' :: rest)).map fun p => (.string p.1, p.2)
  | 0, '[' :: _ => none
  | depth + 1, '[' :: rest =>
    (items? (valueWithin? depth) (rest.length + 1) rest).map fun p => (.array p.1, p.2)
  | 0, '\x7b' :: _ => none
  | depth + 1, '\x7b' :: rest => inlineTable? (valueWithin? depth) rest
  | _, cs => token? cs

/-- A value. -/
def value? : Reader Node := valueWithin? (nestingLimit - 1)

/-- A document while it is read. -/
structure Builder where
  root : Table
  /-- The table of the last header. -/
  current : Table
  /-- The path of that table and its last part, or nothing before the first
      header. -/
  header : Option (List String × String)
  /-- Whether the header is a repeated one. -/
  repeated : Bool

namespace Builder

/-- A document before its first line. -/
def start : Builder := ⟨[], [], none, false⟩

/-- The root with one more table under a repeated header. -/
def appendTable? (root : Table) (path : List String) (key : String) (added : List Table) :
    Option Table :=
  Table.update? false (fun parent =>
    match Table.find? parent.entries key with
    | none => some (Table.push parent.entries key (.tables added))
    | some (.tables items) =>
      some (Table.replace parent.entries key (.tables (items ++ added)))
    | some _ => none) path ⟨.header, root⟩

/-- The root with the table of the last header put into it. -/
def finish? (b : Builder) : Option Table :=
  match b.header with
  | none => some b.current
  | some (path, key) =>
    if b.repeated then appendTable? b.root path key [b.current]
    else
      Table.update? false
        (fun parent => some (Table.put parent.entries key (.table .header b.current)))
        path ⟨.header, b.root⟩

/-- The table that a header finds in its place, which may only have been
    passed through. -/
def found? (root : Table) (path : List String) (key : String) : Option Table :=
  let rec at? : List String → Table → Option (Option Node)
    | [], t => some (Table.find? t key)
    | step :: rest, t =>
      match Table.find? t step with
      | none => some none
      | some (.table .inline _) => none
      | some (.table _ inner) => at? rest inner
      | some (.tables items) => (items.getLast?).bind (at? rest)
      | some _ => none
  match at? path root with
  | none => none
  | some none => some []
  | some (some (.table .passage inner)) => some inner
  | some (some _) => none

/-- Begins the table of a header. -/
def openTable? (b : Builder) (path : List String) (key : String) : Option Builder := do
  let root ← b.finish?
  let current ← found? root path key
  let root ← Table.update? false (fun parent => some (Table.remove parent.entries key))
    path ⟨.header, root⟩
  return ⟨root, current, some (path, key), false⟩

/-- Begins another table under a repeated header. The place is kept for it. -/
def openRepeated? (b : Builder) (path : List String) (key : String) : Option Builder := do
  let root ← b.finish?
  let root ← appendTable? root path key []
  return ⟨root, [], some (path, key), true⟩

/-- Puts a value into the table of the last header. -/
def addValue? (b : Builder) (path : List String) (key : String) (value : Node) :
    Option Builder :=
  (b.current.insert? path key value).map fun current => { b with current }

end Builder

/-- One line with a key or a header, and what is left behind it. -/
def line? (b : Builder) (cs : List Char) : Option (Builder × List Char) :=
  match cs with
  | '[' :: '[' :: rest => do
    let ((path, key), rest) ← key? rest
    match rest with
    | ']' :: ']' :: rest =>
      let rest ← afterValue? rest
      return (← b.openRepeated? path key, rest)
    | _ => none
  | '[' :: rest => do
    let ((path, key), rest) ← key? rest
    match rest with
    | ']' :: rest =>
      let rest ← afterValue? rest
      return (← b.openTable? path key, rest)
    | _ => none
  | cs => do
    let ((path, key), rest) ← key? cs
    match rest with
    | '=' :: rest =>
      let (value, rest) ← value? (blanks rest)
      let rest ← afterValue? rest
      return (← b.addValue? path key value, rest)
    | _ => none

/-- All lines of a document, put into what was read before. -/
def lines? (b : Builder) : Nat → List Char → Option Builder
  | 0, _ => none
  | fuel + 1, cs =>
    match blanks cs with
    | [] => some b
    | '#' :: rest =>
      match comment ('#' :: rest) with
      | [] => some b
      | rest => (lineEnd? rest).bind (lines? b fuel)
    | '\n' :: rest => lines? b fuel rest
    | '\r' :: '\n' :: rest => lines? b fuel rest
    | cs =>
      match line? b cs with
      | none => none
      | some (b, rest) => lines? b fuel rest

namespace Document

/-- The table that a text says. A mark of byte order in front is skipped. -/
def read? (s : String) : Option Table :=
  let cs := match s.toList with
    | '\uFEFF' :: rest => rest
    | cs => cs
  (lines? Builder.start (cs.length + 1) cs).bind Builder.finish?

theorem read?_empty : read? "" = some [] := rfl

end Document

end Toml

end PrintBridge
