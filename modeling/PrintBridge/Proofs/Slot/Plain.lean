import Mathlib.Data.Int.ModEq
import PrintBridge.Proofs.Slot.Lowered
import PrintBridge.Value.Boxing

/-!
# Plain Data in Slots

What is found in a slot after plain data was boxed and lowered into it.

Between the data and the word there are two representations, the value and
its C type, and each step may widen, extend a sign or take bits for bits of
another type. All of that comes to one law: the word is the number of the
data, written with 64 bits. `Plain` lists the types that the law is about,
with the bits of their members and whether these are read with a sign, and
`bits?_box` is the law, type by type. Everything else follows from it without
looking at the types again.

A number below `2 ^ 63` is read back with a sign as itself. The unsigned types
of full width have numbers beyond that, which come back reduced by `2 ^ 64`.
In either case the low bits are those of the data, so that no two members of
a type share a word. Absence is not told apart from zero: its word is the one
of the data that has no bit set.

## Main definitions

* `Plain`: Types of plain data that need no storage.
* `Plain.Data`, `Plain.bits`, `Plain.number`: Their members, with the bits and
  the numbers of these.
* `Plain.optionBits`: The same bits where absence counts as zero.
* `Plain.extend`: The bits of a member in a word.

## Theorems

* `bits?_box`: Data is boxed to the word of its number.
* `word_box`: It is lowered to that word, and no storage is used.
* `word_box_eq_iff`: Words are shared by the data of the same bits.
* `setWidth_extend`, `toInt_extend`, `toInt_extend_modEq`: What is read from a
  word.
* `bits_inj`: Members are told apart by their bits.
* `word_of_boxed`: All of this together.
-/

namespace PrintBridge

/-- Types of plain data that a word holds without storage. -/
inductive Plain where
  | bool
  | char
  | int8
  | int16
  | int32
  | int64
  | offset
  | uint8
  | uint16
  | uint32
  | uint64
  | size
  | address
deriving DecidableEq

namespace Plain

/-- The members of a type. -/
def Data : Plain → Type
  | bool => Bool
  | char => Char
  | int8 => Int8
  | int16 => Int16
  | int32 => Int32
  | int64 => Int64
  | offset => Offset
  | uint8 => UInt8
  | uint16 => UInt16
  | uint32 => UInt32
  | uint64 => UInt64
  | size => Size
  | address => Address

instance (t : Plain) : Boxable t.Data :=
  match t with
  | bool => inferInstanceAs (Boxable Bool)
  | char => inferInstanceAs (Boxable Char)
  | int8 => inferInstanceAs (Boxable Int8)
  | int16 => inferInstanceAs (Boxable Int16)
  | int32 => inferInstanceAs (Boxable Int32)
  | int64 => inferInstanceAs (Boxable Int64)
  | offset => inferInstanceAs (Boxable Offset)
  | uint8 => inferInstanceAs (Boxable UInt8)
  | uint16 => inferInstanceAs (Boxable UInt16)
  | uint32 => inferInstanceAs (Boxable UInt32)
  | uint64 => inferInstanceAs (Boxable UInt64)
  | size => inferInstanceAs (Boxable Size)
  | address => inferInstanceAs (Boxable Address)

/-- How many bits a member has. A truth value has a byte. -/
def width : Plain → Nat
  | bool | int8 | uint8 => 8
  | int16 | uint16 => 16
  | char | int32 | uint32 => 32
  | int64 | offset | uint64 | size | address => 64

/-- Whether the first bit is a sign. -/
def signed : Plain → Bool
  | int8 | int16 | int32 | int64 | offset => true
  | bool | char | uint8 | uint16 | uint32 | uint64 | size | address => false

/-- The bits of a member. -/
def bits : (t : Plain) → t.Data → BitVec t.width
  | bool, (truth : Bool) => if truth then 1 else 0
  | char, (c : Char) => c.val.toBitVec
  | int8, (n : Int8) => n.toBitVec
  | int16, (n : Int16) => n.toBitVec
  | int32, (n : Int32) => n.toBitVec
  | int64, (n : Int64) => n.toBitVec
  | offset, (n : Offset) => n.word.toBitVec
  | uint8, (n : UInt8) => n.toBitVec
  | uint16, (n : UInt16) => n.toBitVec
  | uint32, (n : UInt32) => n.toBitVec
  | uint64, (n : UInt64) => n.toBitVec
  | size, (n : Size) => n.word.toBitVec
  | address, (a : Address) => a.word.toBitVec

/-- The number of a member, which for a truth value is zero or one and for a
    character its code point. -/
def number (t : Plain) (n : t.Data) : Int :=
  if t.signed then (t.bits n).toInt else (t.bits n).toNat

/-- The bits of a member that may be absent, and none set if it is. -/
def optionBits (t : Plain) (n : Option t.Data) : BitVec t.width := (n.map t.bits).getD 0

/-- Bits of a member widened to those of a word, with the sign if there is
    one. -/
def extend (t : Plain) (x : BitVec t.width) : BitVec 64 :=
  if t.signed then x.signExtend 64 else x.setWidth 64

theorem width_le (t : Plain) : t.width ≤ 64 := by
  cases t with
  | _ => decide

/-- Every type but the unsigned ones of full width has a sign or bits to
    spare. -/
theorem signed_or_narrow (t : Plain) (h : t ≠ uint64 ∧ t ≠ size ∧ t ≠ address) :
    t.signed = true ∨ t.width < 64 := by
  cases t with
  | uint64 => exact absurd rfl h.1
  | size => exact absurd rfl h.2.1
  | address => exact absurd rfl h.2.2
  | _ => decide

/-- A number without a sign is written with its own bits. -/
theorem ofInt_toNat {w : Nat} (x : BitVec w) : BitVec.ofInt w x.toNat = x := by
  rw [BitVec.ofInt_natCast, BitVec.ofNat_toNat, BitVec.setWidth_eq]

/-- With bits to spare it has no sign to be read. -/
theorem toInt_setWidth_of_lt {w v : Nat} (x : BitVec w) (h : w < v) :
    (x.setWidth v).toInt = x.toNat := by
  rw [← BitVec.setWidth'_eq (Nat.le_of_lt h)]
  exact BitVec.toInt_setWidth'_of_lt h

/-- The low bits of a number are the number written with fewer bits. -/
theorem setWidth_ofInt {w v : Nat} (z : Int) (h : w ≤ v) :
    (BitVec.ofInt v z).setWidth w = BitVec.ofInt w z := by
  apply BitVec.eq_of_toInt_eq
  rw [← BitVec.signExtend_eq_setWidth_of_le _ h, BitVec.toInt_signExtend, BitVec.toInt_ofInt,
    BitVec.toInt_ofInt, Nat.min_eq_left h]
  exact Int.bmod_bmod_of_dvd (Nat.pow_dvd_pow 2 h)

/-- Members are told apart by their bits. -/
theorem bits_inj (t : Plain) (m n : t.Data) (h : t.bits m = t.bits n) : m = n := by
  cases t with
  | bool =>
      cases (m : Bool) with
      | false =>
          cases (n : Bool) with
          | false => rfl
          | true => exact absurd h (by decide)
      | true =>
          cases (n : Bool) with
          | false => exact absurd h (by decide)
          | true => rfl
  | char => exact Char.ext (UInt32.toBitVec_inj.1 h)
  | int8 => exact Int8.toBitVec_inj.1 h
  | int16 => exact Int16.toBitVec_inj.1 h
  | int32 => exact Int32.toBitVec_inj.1 h
  | int64 => exact Int64.toBitVec_inj.1 h
  | offset => exact congrArg Offset.mk (Int64.toBitVec_inj.1 h)
  | uint8 => exact UInt8.toBitVec_inj.1 h
  | uint16 => exact UInt16.toBitVec_inj.1 h
  | uint32 => exact UInt32.toBitVec_inj.1 h
  | uint64 => exact UInt64.toBitVec_inj.1 h
  | size => exact congrArg Size.mk (UInt64.toBitVec_inj.1 h)
  | address => exact congrArg Address.mk (UInt64.toBitVec_inj.1 h)

/-- A long is the word of its number. -/
theorem bits?_long (m : Int64) :
    (Value.long m).bits?.map UInt64.toBitVec = some (BitVec.ofInt 64 m.toInt) := by
  change some m.toBitVec = some (BitVec.ofInt 64 m.toBitVec.toInt)
  rw [BitVec.ofInt_toInt]

/-- So is an int, since a sign that is extended keeps the number. -/
theorem bits?_int (m : Int32) :
    (Value.int m).bits?.map UInt64.toBitVec = some (BitVec.ofInt 64 m.toInt) := by
  rw [← Int32.toInt_toInt64]
  exact bits?_long m.toInt64

/-- An unsigned word is the word of its number, whatever sign is read into it
    on the way. -/
theorem map_toBitVec (m : UInt64) :
    (some m).map UInt64.toBitVec = some (BitVec.ofInt 64 m.toBitVec.toNat) := by
  rw [ofInt_toNat]
  rfl

/-- Data is boxed to the word of its number. -/
theorem bits?_box (t : Plain) (n : t.Data) :
    (Boxable.box n).bits?.map UInt64.toBitVec = some (BitVec.ofInt 64 (t.number n)) := by
  cases t with
  | bool =>
      cases (n : Bool) with
      | false => rfl
      | true => rfl
  | char =>
      change some (BitVec.ofNat 64 (n : Char).toNat) =
        some (BitVec.ofInt 64 ((n : Char).toNat : Int))
      rw [BitVec.ofInt_natCast]
  | int8 =>
      have hnumber : (n : Int8).toInt32.toInt = number int8 n := Int8.toInt_toInt32 n
      rw [← hnumber]
      exact bits?_int _
  | int16 =>
      have hnumber : (n : Int16).toInt32.toInt = number int16 n := Int16.toInt_toInt32 n
      rw [← hnumber]
      exact bits?_int _
  | int32 => exact bits?_int n
  | int64 => exact bits?_long n
  | offset => exact bits?_long (n : Offset).word
  -- The narrow unsigned types go to a signed type that has room for them.
  | uint8 =>
      have hnumber : (n : UInt8).toUInt32.toInt32.toInt = number uint8 n :=
        toInt_setWidth_of_lt (n : UInt8).toBitVec (by decide)
      rw [← hnumber]
      exact bits?_int _
  | uint16 =>
      have hnumber : (n : UInt16).toUInt32.toInt32.toInt = number uint16 n :=
        toInt_setWidth_of_lt (n : UInt16).toBitVec (by decide)
      rw [← hnumber]
      exact bits?_int _
  | uint32 =>
      have hnumber : (n : UInt32).toUInt64.toInt64.toInt = number uint32 n :=
        toInt_setWidth_of_lt (n : UInt32).toBitVec (by decide)
      rw [← hnumber]
      exact bits?_long _
  | uint64 => exact map_toBitVec n
  | size => exact map_toBitVec (n : Size).word
  | address => exact map_toBitVec (n : Address).word

/-- The word of a number is that of the bits. -/
theorem extend_bits (t : Plain) (n : t.Data) :
    t.extend (t.bits n) = BitVec.ofInt 64 (t.number n) := by
  unfold extend number
  split
  · -- Writing a signed number with more bits extends its sign.
    rfl
  · rw [BitVec.ofInt_natCast, BitVec.ofNat_toNat]

/-- The low bits of a word are those that were widened. -/
theorem setWidth_extend (t : Plain) (x : BitVec t.width) :
    (t.extend x).setWidth t.width = x := by
  unfold extend
  split
  · change (BitVec.ofInt 64 x.toInt).setWidth t.width = x
    rw [setWidth_ofInt _ t.width_le, BitVec.ofInt_toInt]
  · rw [BitVec.setWidth_setWidth_of_le _ t.width_le, BitVec.setWidth_eq]

theorem extend_zero (t : Plain) : t.extend 0 = 0 := by
  cases t with
  | _ => decide

/-- Read with a sign, the word of a number is that number, unless the type is
    unsigned and of full width. -/
theorem toInt_extend (t : Plain) (n : t.Data) (h : t.signed = true ∨ t.width < 64) :
    (t.extend (t.bits n)).toInt = t.number n := by
  unfold extend number
  split
  · exact BitVec.toInt_signExtend_of_le t.width_le
  · rename_i hunsigned
    exact toInt_setWidth_of_lt _ (h.resolve_left hunsigned)

/-- In any case it is that number up to a multiple of `2 ^ 64`. -/
theorem toInt_extend_modEq (t : Plain) (n : t.Data) :
    (t.extend (t.bits n)).toInt ≡ t.number n [ZMOD 2 ^ 64] := by
  rw [extend_bits, BitVec.toInt_ofInt]
  exact Int.bmod_emod

/-- Data, present or absent, is lowered to its bits widened to those of a
    word, and no storage is used. -/
theorem word_box (t : Plain) (n : Option t.Data) (index : Nat) (a : Arena) :
    ∃ w : UInt64, Lowering.word index (Boxable.box n) a = (.ok (.bits w), a) ∧
      w.toBitVec = t.extend (t.optionBits n) := by
  cases n with
  | none => exact ⟨0, Lowering.word_of_bits? index _ 0 a rfl, t.extend_zero.symm⟩
  | some n =>
      rcases Option.map_eq_some_iff.1 (t.bits?_box n) with ⟨w, hbits, hword⟩
      exact ⟨w, Lowering.word_of_bits? index _ w a hbits, hword.trans (t.extend_bits n).symm⟩

/-- Data, present or absent, shares its word with the data of the same bits,
    wherever each is lowered. -/
theorem word_box_eq_iff (t : Plain) (m n : Option t.Data) (i j : Nat) (a b : Arena) :
    (Lowering.word i (Boxable.box m) a).1 = (Lowering.word j (Boxable.box n) b).1 ↔
      t.optionBits m = t.optionBits n := by
  rcases t.word_box m i a with ⟨v, hm, hv⟩
  rcases t.word_box n j b with ⟨w, hn, hw⟩
  rw [hm, hn]
  constructor
  · intro h
    obtain rfl : v = w := Word.bits.inj (Except.ok.inj h)
    rw [← t.setWidth_extend (t.optionBits m), ← hv, hw, t.setWidth_extend]
  · intro h
    obtain rfl : v = w := UInt64.toBitVec_inj.1 (by rw [hv, hw, h])
    rfl

/-- Plain data is lowered without storage to a word that keeps its bits, also
    where it may be absent. The low bits are the bits of the data. Read with a
    sign the word is the number of the data, which for a truth value is zero
    or one and for a character its code point; the unsigned types of full
    width have numbers beyond that, and for them it is so up to a multiple of
    `2 ^ 64`. So no two members of a type share a word. Absence is lowered to
    zero, and present data shares that word only where it has no bit set.

    What has a C representation has a word exactly when its type fits one. -/
theorem word_of_boxed :
    (∀ (t : Plain) (n : t.Data) (index : Nat) (a : Arena), ∃ w : UInt64,
      Lowering.word index (Boxable.box n) a = (.ok (.bits w), a) ∧
      Lowering.word index (Boxable.box (some n)) a = (.ok (.bits w), a) ∧
      w.toBitVec.setWidth t.width = t.bits n ∧
      (t ≠ uint64 ∧ t ≠ size ∧ t ≠ address → w.toInt64.toInt = t.number n) ∧
      w.toInt64.toInt ≡ t.number n [ZMOD 2 ^ 64]) ∧
    (∀ (t : Plain) (index : Nat) (a : Arena),
      Lowering.word index (Boxable.box (none : Option t.Data)) a = (.ok (.bits 0), a)) ∧
    (∀ (t : Plain) (m n : t.Data) (i j : Nat) (a b : Arena),
      (Lowering.word i (Boxable.box m) a).1 = (Lowering.word j (Boxable.box n) b).1 → m = n) ∧
    (∀ (t : Plain) (m n : Option t.Data) (i j : Nat) (a b : Arena),
      (Lowering.word i (Boxable.box m) a).1 = (Lowering.word j (Boxable.box n) b).1 ↔
        t.optionBits m = t.optionBits n) ∧
    ∀ c : CValue, c.type.fitsWord = true ↔ ∃ w, c.toWord? = some w := by
  refine ⟨?_, ?_, ?_, ?_, ?_⟩
  · intro t n index a
    -- Presence is not seen in the value, so one word serves for both.
    rcases t.word_box (some n) index a with ⟨w, hlowered, hword⟩
    refine ⟨w, hlowered, hlowered, ?_, ?_, ?_⟩
    · rw [hword]
      exact t.setWidth_extend (t.bits n)
    · intro hnarrow
      change w.toBitVec.toInt = _
      rw [hword]
      exact t.toInt_extend n (t.signed_or_narrow hnarrow)
    · change w.toBitVec.toInt ≡ _ [ZMOD _]
      rw [hword]
      exact t.toInt_extend_modEq n
  · intro t index a
    exact Lowering.word_of_bits? index _ 0 a rfl
  · intro t m n i j a b h
    exact t.bits_inj m n ((t.word_box_eq_iff (some m) (some n) i j a b).1 h)
  · intro t m n i j a b
    exact t.word_box_eq_iff m n i j a b
  · intro c
    rw [← c.isSome_toWord?_iff]
    exact Option.isSome_iff_exists

/-- A number with its first bit set keeps it as a number, and a sign fills the
    word. -/
example : Lowering.word 0 (Boxable.box (0xffffffff : UInt32)) Arena.empty =
      (.ok (.bits 0xffffffff), Arena.empty) ∧
    Lowering.word 0 (Boxable.box (-1 : Int8)) Arena.empty =
      Lowering.word 0 (Boxable.box (Size.mk 0xffffffffffffffff)) Arena.empty :=
  ⟨rfl, rfl⟩

end Plain

end PrintBridge
