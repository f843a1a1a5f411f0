import PrintBridge.Slot.Arena

/-!
# Marshalling

Lowering of values, of single arguments and of whole calls. Truth values and
characters become ints, texts become addresses in the arena, and null is the
null address. Of a whole call the format comes first and then the arguments
in their order; the first that cannot be lowered decides the failure, and
nothing after it is looked at.

## Main definitions

* `Lowering.value`: A value in its C representation.
* `Lowering.word`: An argument in its slot.
* `Lowering.call`: Format and arguments of a call.
* `LoweredCall`: A call ready for the routine.

## Theorems

* `value_type`: The kind of a value fixes its C type.
-/

namespace PrintBridge

/-- Format and arguments of a call as the routine takes them. -/
structure LoweredCall where
  format : Word
  words : List Word
deriving DecidableEq

/-- The C type that values of a kind are lowered to. -/
def Kind.cType : Kind → CType
  | .null => .pointer
  | .bool => .int
  | .char => .int
  | .int => .int
  | .long => .long
  | .double => .double
  | .string => .charPointer
  | .object => .pointer

namespace Lowering

/-- A value in its C representation. -/
def value : Value → Lowering CValue
  | .null => pure (.pointer 0)
  | .bool b => pure (.int (if b then 1 else 0))
  | .char c => pure (.int (Int32.ofNat c.toNat))
  | .int i => pure (.int i)
  | .long l => pure (.long l)
  | .double d => pure (.double d)
  | .string s => do return .charPointer (← store s)
  | .object a => pure (.pointer a)

/-- The argument at `index` in its slot. The type is checked before the word
    is taken, and a failure of either names the same mismatch. -/
def word (index : Nat) (v : Value) : Lowering Word := do
  let c ← value v
  let mismatch := MarshalError.slotMismatch index v.kind c.type
  if c.type.fitsWord then
    match c.toWord? with
    | some w => pure w
    | none => throw mismatch
  else throw mismatch

/-- The arguments from `index` on in their slots. -/
def wordsFrom (index : Nat) : List Value → Lowering (List Word)
  | [] => pure []
  | v :: rest => do
    let w ← word index v
    return w :: (← wordsFrom (index + 1) rest)

/-- Format and arguments of a call. -/
def call (format : String) (args : List Value) : Lowering LoweredCall := do
  let address ← store format
  return ⟨address, ← wordsFrom 0 args⟩

theorem value_string (s : String) (a : Arena) :
    value (.string s) a = ((store s a).1.map .charPointer, (store s a).2) := by
  simp only [value, bind, ExceptT.bind, ExceptT.mk, StateT.bind]
  rcases store s a with ⟨_ | _, _⟩ <;> rfl

/-- The kind of a value fixes its C type. -/
theorem value_type (v : Value) (a : Arena) (c : CValue)
    (h : (value v a).1 = .ok c) : c.type = v.kind.cType := by
  cases v with
  | string s =>
    rw [value_string] at h
    rcases hs : (store s a).1 with e | w
    · rw [hs] at h
      exact absurd h (by simp only [Except.map, reduceCtorEq, not_false_eq_true])
    · rw [hs] at h
      simp only [Except.map, Except.ok.injEq] at h
      exact h ▸ rfl
  | _ => exact Except.ok.inj h ▸ rfl

end Lowering

end PrintBridge
