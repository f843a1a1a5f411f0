import PrintBridge.Number.Double

/-!
# Documents as Trees

What a TOML document says: tables with keys in the order in which they were
first given, arrays, and scalars. A table remembers how it came about,
because that decides what may still be added to it. One that was only passed
through on the way to a header may be given a header of its own later, once.
One that dotted keys have made may be extended by dotted keys alone. A table
with a header, and one written inline, are closed to dotted keys.

Of a date or a time only that it is one matters here, so it carries nothing.

## Main definitions

* `Origin`, `Node`: How a table came about, and the nodes of a document.
* `Table`: The entries of a table.
* `Table.update?`: A change at the end of a path.
* `Table.insert?`: A key with a value, at the end of a path of dotted keys.
-/

namespace PrintBridge

namespace Toml

/-- How a table came about. -/
inductive Origin where
  /-- By a header, or as the document itself. -/
  | header
  /-- On the way to a header. -/
  | passage
  /-- By dotted keys. -/
  | dotted
  /-- Between braces. -/
  | inline
deriving DecidableEq

/-- The nodes of a document. -/
inductive Node where
  | string (text : String)
  | integer (number : Int)
  | float (number : Double)
  | boolean (truth : Bool)
  | datetime
  | array (items : List Node)
  | table (origin : Origin) (entries : List (String × Node))
  /-- Tables under one repeated header, the first of them first. -/
  | tables (items : List (List (String × Node)))

/-- The entries of a table, in order. -/
abbrev Table := List (String × Node)

namespace Table

/-- What stands under a key. -/
def find? (t : Table) (key : String) : Option Node :=
  (List.find? (fun e => e.1 == key) t).map Prod.snd

/-- The table with one more entry. -/
def push (t : Table) (key : String) (value : Node) : Table := t ++ [(key, value)]

/-- The table with another value under a key that it has. -/
def replace (t : Table) (key : String) (value : Node) : Table :=
  t.map fun e => if e.1 == key then (key, value) else e

/-- The table without a key. -/
def remove (t : Table) (key : String) : Table := t.filter fun e => e.1 != key

/-- The table with a value under a key, in the key's place if it has one. -/
def put (t : Table) (key : String) (value : Node) : Table :=
  if (find? t key).isSome then replace t key value else push t key value

/-- A table with how it came about. -/
structure Owned where
  origin : Origin
  entries : Table

/-- A change of the table at the end of a path. Tables that the path passes
    are made where they are missing. Of tables under a repeated header the
    path goes on in the last one. A path of dotted keys goes through tables
    that have no header, and no path goes through what is no table or is
    closed. -/
def update? (dotted : Bool) (change : Owned → Option Table) :
    List String → Owned → Option Table
  | [], t => change t
  | key :: rest, t =>
    match find? t.entries key with
    | none =>
      let made := if dotted then Origin.dotted else Origin.passage
      (update? dotted change rest ⟨made, []⟩).map fun inner =>
        push t.entries key (.table made inner)
    | some (.table origin inner) =>
      if origin = .inline ∨ (dotted ∧ origin = .header) then none
      else (update? dotted change rest ⟨origin, inner⟩).map fun inner =>
        replace t.entries key (.table origin inner)
    | some (.tables items) =>
      match items.getLast? with
      | none => none
      | some inner => (update? dotted change rest ⟨.header, inner⟩).map fun inner =>
        replace t.entries key (.tables (items.dropLast ++ [inner]))
    | some _ => none

/-- The table with a value under a key at the end of a path of dotted keys.
    The key has to be new, and a table that dotted keys reach has to have been
    made by them. -/
def insert? (t : Table) (path : List String) (key : String) (value : Node) : Option Table :=
  update? true (fun reached =>
    if (!path.isEmpty && reached.origin != .dotted) || (find? reached.entries key).isSome then none
    else some (push reached.entries key value)) path ⟨.header, t⟩

end Table

end Toml

end PrintBridge
