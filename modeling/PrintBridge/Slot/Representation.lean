import PrintBridge.Value.Basic

/-!
# C Representations

What an argument becomes on its way to the native routine. A value is first
given a C type, and is then lowered into a slot, which is one machine word.
Everything but a double has a word. A long has one if the word is wide enough
for it, and words here are as wide as longs.

A word is either plain bits or the address of a text that an arena owns. The
two are kept apart because the address of an owned text carries no
information of its own: all that the library ever does with it is hand it on
and have it read back.

## Main definitions

* `Word`: The content of a slot.
* `Word.ofInt?`: The word of a number.
* `CType`: The C types that arguments have.
* `CValue`: A value in its C representation.
* `CValue.equals`: Whether two representations are the same.
* `CValue.toWord?`: Lowering into a slot.

## Theorems

* `ofInt?_toInt`, `toWord?_long`: A long is never too wide.
* `equals_iff`: Nothing but the type and the bits is compared.
* `isSome_toWord?_iff`: A representation has a word exactly when its type
  fits one.
-/

namespace PrintBridge

/-- The content of a slot: plain bits, or the address of the owned text with
    the given number. -/
inductive Word where
  | bits (value : UInt64)
  | text (handle : Nat)
deriving DecidableEq

namespace Word

/-- The word of a number, if the word holds the number with its sign. -/
def ofInt? (n : Int) : Option Word :=
  if Int64.minValue.toInt ≤ n ∧ n ≤ Int64.maxValue.toInt then
    some (.bits (Int64.ofInt n).toUInt64)
  else none

/-- A long is never too wide, and its word has its bits. -/
theorem ofInt?_toInt (l : Int64) : ofInt? l.toInt = some (.bits l.toUInt64) := by
  have hrange : Int64.minValue.toInt ≤ l.toInt ∧ l.toInt ≤ Int64.maxValue.toInt :=
    ⟨l.minValue_le_toInt, l.toInt_le⟩
  rw [ofInt?, if_pos hrange, Int64.ofInt_toInt]

end Word

/-- The C types that arguments have. -/
inductive CType where
  | int
  | long
  | double
  | charPointer
  | pointer
deriving DecidableEq

namespace CType

/-- The name of a type, as diagnostics show it. -/
def name : CType → String
  | int => "c_int"
  | long => "c_long"
  | double => "c_double"
  | charPointer => "c_char_ptr"
  | pointer => "c_void_ptr"

/-- Whether members of the type can occupy a slot. -/
def fitsWord (t : CType) : Bool := t != double

end CType

/-- A value in its C representation. -/
inductive CValue where
  | int (number : Int32)
  | long (number : Int64)
  | double (number : Double)
  | charPointer (address : Word)
  | pointer (address : UInt64)

namespace CValue

/-- Whether two representations are the same: they have the same type, and
    then doubles are compared by bits and addresses by where they point. -/
def equals : CValue → CValue → Bool
  | int m, int n => m == n
  | long m, long n => m == n
  | double x, double y => x.bits == y.bits
  | charPointer p, charPointer q => p == q
  | pointer p, pointer q => p == q
  | _, _ => false

instance : BEq CValue := ⟨equals⟩

/-- The C type of a representation. -/
def type : CValue → CType
  | int _ => .int
  | long _ => .long
  | double _ => .double
  | charPointer _ => .charPointer
  | pointer _ => .pointer

/-- The word of a representation. Integers extend their sign. -/
def toWord? : CValue → Option Word
  | int i => some (.bits i.toInt64.toUInt64)
  | long l => Word.ofInt? l.toInt
  | double _ => none
  | charPointer address => some address
  | pointer address => some (.bits address)

/-- The same type and the same bits are all that a representation has. -/
theorem equals_iff (c d : CValue) : c.equals d = true ↔ c = d := by
  cases c with
  | int m => cases d <;> simp only [equals, beq_iff_eq, int.injEq, reduceCtorEq, Bool.false_eq_true]
  | long m =>
      cases d <;> simp only [equals, beq_iff_eq, long.injEq, reduceCtorEq, Bool.false_eq_true]
  | double x =>
      cases d <;>
        simp only [equals, beq_iff_eq, Double.bits_inj, double.injEq, reduceCtorEq,
          Bool.false_eq_true]
  | charPointer p =>
      cases d <;>
        simp only [equals, beq_iff_eq, charPointer.injEq, reduceCtorEq, Bool.false_eq_true]
  | pointer p =>
      cases d <;> simp only [equals, beq_iff_eq, pointer.injEq, reduceCtorEq, Bool.false_eq_true]

instance : LawfulBEq CValue where
  rfl {c} := (equals_iff c c).2 rfl
  eq_of_beq {c d} h := (equals_iff c d).1 h

instance : DecidableEq CValue := fun c d => decidable_of_iff _ (equals_iff c d)

theorem toWord?_long (l : Int64) : (long l).toWord? = some (.bits l.toUInt64) :=
  Word.ofInt?_toInt l

theorem isSome_toWord?_iff (c : CValue) : c.toWord?.isSome = c.type.fitsWord := by
  cases c with
  | long l =>
      rw [toWord?_long]
      rfl
  | _ => rfl

end CValue

end PrintBridge
