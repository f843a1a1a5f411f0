import PrintBridge.Settings.Project
import PrintBridge.Text.Quoted
import PrintBridge.Toml.Document

/-!
# Settings from Documents

The settings that a document gives. Only known sections with known fields are
accepted. Keys are taken in the order in which they stand, so the first one
that is wrong decides what is reported.

A section is a table or an array. An array gives the fields by their order;
it has to give them all, and more items than fields are not looked at. A
stream is given by its name, which may also stand as the only key of a table
with nothing in it.

What is wrong with a field is said in words where it has an unknown name or a
value of the wrong type. Other faults have no words of their own.

## Main definitions

* `Decoding`: What decoding gives.
* `ProjectSettings.ofTable`: The settings of a document.
-/

namespace PrintBridge

namespace Settings

open Toml (Node Table)

/-- Decoding gives something, or words for what is wrong if there are any. -/
abbrev Decoding := Except (Option String)

/-- A name as failures show it. -/
def ticked (name : String) : String :=
  let tick := String.ofList [Char.ofNat 0x60]
  tick ++ name ++ tick

/-- Names as failures list what would have been right. -/
def expectedNames (names : List String) : String :=
  match names.map ticked with
  | [only] => only
  | [first, second] => first ++ " or " ++ second
  | all => "one of " ++ ", ".intercalate all

/-- The failure of a field with an unknown name. -/
def unknownField {α : Type} (name : String) (known : List String) : Decoding α :=
  .error (some ("unknown field " ++ ticked name ++ ", expected " ++ expectedNames known))

/-- The failure of a choice with an unknown name. -/
def unknownVariant {α : Type} (name : String) (known : List String) : Decoding α :=
  .error (some ("unknown variant " ++ ticked name ++ ", expected " ++ expectedNames known))

/-- A failure without words. -/
def wordless {α : Type} : Decoding α := .error none

/-- The text of a float as failures show it: one that has no fraction is
    shown with a point all the same. -/
def floatText (d : Double) : String :=
  let text := d.text
  if d.isNaN || d.isInfinite || text.toList.contains '.' then text else text ++ ".0"

/-- What a node is, as failures name it. -/
def describe : Node → String
  | .string s => "string " ++ Text.quote s
  | .integer n => "integer " ++ ticked n.repr
  | .float d => "floating point " ++ ticked (floatText d)
  | .boolean b => "boolean " ++ ticked (if b then "true" else "false")
  | .datetime => "map"
  | .array _ => "sequence"
  | .table _ _ => "map"
  | .tables _ => "sequence"

/-- The failure of a value with the wrong type. -/
def wrongType {α : Type} (n : Node) (expected : String) : Decoding α :=
  .error (some ("invalid type: " ++ describe n ++ ", expected " ++ expected))

/-- A text. -/
def text : Node → Decoding String
  | .string s => .ok s
  | n => wrongType n "a string"

/-- Whether a node is a table or an array with nothing in it. -/
def isEmptyNode : Node → Bool
  | .array items => items.isEmpty
  | .table _ entries => entries.isEmpty
  | .tables items => items.isEmpty
  | _ => false

/-- The streams by name. -/
def streams : List (String × OutputStream) :=
  [OutputStream.stdout, OutputStream.stderr].map fun s => (s.name, s)

/-- The stream with a name. -/
def streamNamed (name : String) : Decoding OutputStream :=
  match streams.find? fun s => s.1 == name with
  | some s => .ok s.2
  | none => unknownVariant name (streams.map Prod.fst)

/-- A stream. -/
def stream : Node → Decoding OutputStream
  | .string s => streamNamed s
  | .table _ [(name, value)] =>
    (streamNamed name).bind fun s => if isEmptyNode value then .ok s else wordless
  | _ => wordless

/-- A field of a section: its name, and how a section takes its value. -/
structure Field (σ : Type) where
  name : String
  take : Node → σ → Decoding σ

/-- A section as a table. -/
def fromEntries {σ : Type} (fields : List (Field σ)) (s : σ) : Table → Decoding σ
  | [] => .ok s
  | (key, value) :: rest =>
    match fields.find? fun f => f.name == key with
    | some field => (field.take value s).bind fun s => fromEntries fields s rest
    | none => unknownField key (fields.map Field.name)

/-- A section as an array. -/
def fromItems {σ : Type} (s : σ) : List (Field σ) → List Node → Decoding σ
  | [], _ => .ok s
  | _ :: _, [] => wordless
  | field :: fields, item :: items =>
    (field.take item s).bind fun s => fromItems s fields items

/-- The field under which a date stands where it is taken for a table. -/
def dateField : String := "$__toml_private_datetime"

/-- A section. -/
def decodeSection {σ : Type} (name : String) (fields : List (Field σ)) (s : σ) : Node → Decoding σ
  | .table _ entries => fromEntries fields s entries
  | .array items => fromItems s fields items
  | .tables items => fromItems s fields (items.map (.table .header))
  | .datetime => unknownField dateField (fields.map Field.name)
  | n => wrongType n ("struct " ++ name)

/-- The fields of the native section. -/
def nativeFields : List (Field NativeSettings) :=
  [⟨"library", fun n s => (text n).map fun t => { s with library := some t }⟩,
    ⟨"symbol", fun n s => (text n).map fun t => { s with symbol := some t }⟩]

/-- The fields of the output section. -/
def outputFields : List (Field OutputSettings) :=
  [⟨"stream", fun n s => (stream n).map fun t => { s with stream := some t }⟩]

/-- The fields of the log section. -/
def logFields : List (Field LogSettings) :=
  [⟨"level", fun n s => (text n).map fun t => { s with level := some t }⟩]

/-- The sections. -/
def sections : List (Field ProjectSettings) :=
  [⟨"native", fun n p =>
      (decodeSection "NativeConfig" nativeFields {} n).map fun s => { p with native := some s }⟩,
    ⟨"output", fun n p =>
      (decodeSection "OutputConfig" outputFields {} n).map fun s => { p with output := some s }⟩,
    ⟨"log", fun n p =>
      (decodeSection "LogConfig" logFields {} n).map fun s => { p with log := some s }⟩]

end Settings

/-- The settings of a document. -/
def ProjectSettings.ofTable (t : Toml.Table) : Settings.Decoding ProjectSettings :=
  Settings.fromEntries Settings.sections {} t

/-- The settings that a text gives. -/
def ProjectSettings.ofText (s : String) : Settings.Decoding ProjectSettings :=
  match Toml.Document.read? s with
  | some t => ProjectSettings.ofTable t
  | none => .error none

end PrintBridge
