import PrintBridge.Value.Basic

/-!
# Boxing of Plain Data

Which value stands for a piece of plain data. Integers go into the smallest
of `int` and `long` that holds every number of their type. The unsigned words
of full width fit neither as numbers; they become the long with the same
bits, so that an unsigned directive reads them back. Absence is null.

## Main definitions

* `Boxable`: Types of plain data.
* `Address`, `Size`, `Offset`: Words that mean places in memory.
* `Boxable.box`: The value that stands for a piece of data.
-/

namespace PrintBridge

/-- Types whose members can be passed as arguments. -/
class Boxable (α : Type) where
  /-- The value that stands for a piece of data. -/
  box : α → Value

/-- The address of an object. -/
structure Address where
  word : UInt64
deriving DecidableEq

/-- The size of something in memory. Words have 64 bits. -/
structure Size where
  word : UInt64
deriving DecidableEq

/-- The distance between two places in memory. -/
structure Offset where
  word : Int64
deriving DecidableEq

namespace Boxable

instance : Boxable Bool := ⟨.bool⟩

instance : Boxable Char := ⟨.char⟩

instance : Boxable Int8 := ⟨fun n => .int n.toInt32⟩

instance : Boxable Int16 := ⟨fun n => .int n.toInt32⟩

instance : Boxable Int32 := ⟨.int⟩

instance : Boxable Int64 := ⟨.long⟩

instance : Boxable UInt8 := ⟨fun n => .int n.toUInt32.toInt32⟩

instance : Boxable UInt16 := ⟨fun n => .int n.toUInt32.toInt32⟩

instance : Boxable UInt32 := ⟨fun n => .long n.toUInt64.toInt64⟩

instance : Boxable UInt64 := ⟨fun n => .long n.toInt64⟩

instance : Boxable Size := ⟨fun n => .long n.word.toInt64⟩

instance : Boxable Offset := ⟨fun n => .long n.word⟩

instance : Boxable Single := ⟨fun x => .double (Double.ofSingle x)⟩

instance : Boxable Double := ⟨.double⟩

instance : Boxable String := ⟨.string⟩

instance : Boxable Address := ⟨fun a => .object a.word⟩

instance {α : Type} [Boxable α] : Boxable (Option α) :=
  ⟨fun x => (x.map box).getD .null⟩

end Boxable

end PrintBridge
