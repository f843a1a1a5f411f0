import Mathlib.Data.List.Forall2
import PrintBridge.Slot.Marshal

/-!
# Lowered Calls

When a call can be lowered, and what the routine finds when it has been.

What keeps a value out of a slot is said here by looking at the value alone:
it is a double, or a text with a NUL inside. `Value.Lowers` and its negation
decide every lowering, of a single argument and of a whole call.

What is found is said by reading. A word holds a text when its address reads
as all the bytes of it, and it holds any other value when its bits are those
of the value. An arena only grows, so whatever was once held is held for the
rest of the call: `Arena.Le` orders arenas by what can be read in them, and
every lowering step goes up in that order, also one that fails.

A failure is fixed by the call alone, too. A value that no slot can hold has
a fault, and a call is refused for the NUL in its format or else for the
fault of the first argument that has one.

## Main definitions

* `Value.bits?`: The bits of a value that is no text and no double.
* `Value.Lowers`: What a slot can hold.
* `Arena.Holds`: What a word holds, read in an arena.
* `Arena.Le`: What is read in one arena is read in another.
* `Lowering.Fault`, `Lowering.Refusal`: Why an argument or a call cannot be
  lowered.

## Theorems

* `word_of_lowers`, `word_of_fault`: Lowering of one argument.
* `call_of_lowers`: A call that lowers is found as it was made.
* `call_of_not_lowers`: Any other call is refused.
* `call_of_refusal`: What decides the refusal of a call is its failure.
-/

namespace PrintBridge

/-- The bits of a value that needs no storage. Integers extend their sign,
    and null is the null address. -/
def Value.bits? : Value → Option UInt64
  | .null => some 0
  | .bool truth => some (if truth then 1 else 0)
  | .char character => some character.toNat.toUInt64
  | .int number => some number.toInt64.toUInt64
  | .long number => some number.toUInt64
  | .object address => some address
  | .double _ => none
  | .string _ => none

/-- Whether a slot can hold a value. -/
def Value.Lowers : Value → Prop
  | .double _ => False
  | .string text => '\x00' ∉ text.toList
  | _ => True

namespace Arena

/-- What is read in the first arena is read in the second. -/
def Le (a b : Arena) : Prop := ∀ w bytes, a.read? w = some bytes → b.read? w = some bytes

theorem le_refl (a : Arena) : a.Le a := fun _ _ h => h

theorem Le.trans {a b c : Arena} (hab : a.Le b) (hbc : b.Le c) : a.Le c :=
  fun w bytes h => hbc w bytes (hab w bytes h)

theorem le_push (a : Arena) (bytes : Bytes) : a.Le (a.push bytes) :=
  fun w b h => read?_push_of_some a bytes w b h

/-- Whether a word holds a value. A text is held by an address that reads as
    all of it. -/
def Holds (a : Arena) (v : Value) (w : Word) : Prop :=
  match v with
  | .string text => a.read? w = some (Utf8.encode text)
  | _ => v.bits?.map Word.bits = some w

theorem Holds.mono {a b : Arena} {v : Value} {w : Word} (hab : a.Le b) (h : a.Holds v w) :
    b.Holds v w := by
  cases v with
  | string text => exact hab w _ h
  | _ => exact h

end Arena

namespace Lowering

variable {α β : Type}

/-- The first NUL of a text stands behind so many of its bytes. -/
def FirstNul (s : String) (position : Nat) : Prop :=
  ∃ before after : String, s = before ++ "\x00" ++ after ∧ '\x00' ∉ before.toList ∧
    position = before.utf8ByteSize

/-- Why no slot can hold a value, as the failure of the argument at `index`. -/
inductive Fault (index : Nat) : Value → MarshalError → Prop where
  | double (number : Double) : Fault index (.double number) (.slotMismatch index .double .double)
  | nul (text : String) (position : Nat) (h : FirstNul text position) :
      Fault index (.string text) (.nulAt position)

/-- Why a call cannot be lowered: a NUL in the format, or else the first of
    the arguments that no slot can hold, whatever stands behind it. -/
inductive Refusal (format : String) (vs : List Value) : MarshalError → Prop where
  | format (position : Nat) (h : FirstNul format position) : Refusal format vs (.nulAt position)
  | argument (before : List Value) (v : Value) (after : List Value) (e : MarshalError)
      (hformat : '\x00' ∉ format.toList) (hvs : vs = before ++ v :: after)
      (hbefore : ∀ u ∈ before, u.Lowers) (hfault : Fault before.length v e) :
      Refusal format vs e

theorem bind_of_ok (x : Lowering α) (f : α → Lowering β) (a b : Arena) (v : α)
    (h : x a = (.ok v, b)) : (x >>= f) a = f v b := by
  simp only [bind, ExceptT.bind, ExceptT.mk, StateT.bind, h, ExceptT.bindCont]

theorem bind_of_error (x : Lowering α) (f : α → Lowering β) (a b : Arena) (e : MarshalError)
    (h : x a = (.error e, b)) : (x >>= f) a = (.error e, b) := by
  simp only [bind, ExceptT.bind, ExceptT.mk, StateT.bind, h, ExceptT.bindCont]
  rfl

/-- To look at what a lowering gives changes nothing else. -/
theorem bind_return (x : Lowering α) (f : α → β) (a : Arena) :
    (do return f (← x) : Lowering β) a = ((x a).1.map f, (x a).2) := by
  rcases h : x a with ⟨e | v, b⟩
  · exact bind_of_error _ _ a b e h
  · exact bind_of_ok _ _ a b v h

/-- No byte of a text is a NUL unless the text has one. -/
theorem findIdx?_encode_of_no_nul (s : String) (h : '\x00' ∉ s.toList) :
    (Utf8.encode s).findIdx? (· == 0) = none := by
  rw [List.findIdx?_eq_none_iff]
  intro b hb
  refine beq_eq_false_iff_ne.2 fun hzero => h ?_
  exact (Utf8.zero_mem_encode_iff s).1 (hzero ▸ hb)

/-- A text without a NUL is stored behind what was stored before. -/
theorem store_of_no_nul (s : String) (a : Arena) (h : '\x00' ∉ s.toList) :
    store s a = (.ok (.text a.size), a.push (Utf8.encode s)) := by
  simp only [store, findIdx?_encode_of_no_nul s h]

/-- The first NUL byte of a text stands where its first NUL does. -/
theorem findIdx?_encode (s : String) (position : Nat) (h : FirstNul s position) :
    (Utf8.encode s).findIdx? (· == 0) = some position := by
  rcases h with ⟨before, after, rfl, hbefore, rfl⟩
  have hnone := findIdx?_encode_of_no_nul before hbefore
  have hnul : Utf8.encode "\x00" = [0] := by decide
  -- Nothing is found before the NUL, so it is found behind all those bytes.
  rw [Utf8.encode_append, Utf8.encode_append, hnul, List.append_assoc, List.findIdx?_append, hnone,
    Option.none_or, Utf8.encode_length, List.singleton_append, List.findIdx?_cons,
    if_pos (beq_self_eq_true 0), Option.map_some, Nat.zero_add]

/-- A text that has a NUL has a first one. -/
theorem exists_firstNul (s : String) (h : '\x00' ∈ s.toList) : ∃ position, FirstNul s position := by
  rcases List.eq_append_cons_of_mem h with ⟨before, after, hs, hbefore⟩
  refine ⟨_, String.ofList before, String.ofList after, ?_, ?_, rfl⟩
  · rw [← String.toList_inj, hs]
    simp only [String.toList_append, String.toList_ofList, List.append_assoc]
    rfl
  · rwa [String.toList_ofList]

/-- A text with a NUL is refused at the first one, and nothing is stored. -/
theorem store_of_firstNul (s : String) (position : Nat) (a : Arena) (h : FirstNul s position) :
    store s a = (.error (.nulAt position), a) := by
  simp only [store, findIdx?_encode s position h]

/-- A text with a NUL is refused, and nothing is stored. -/
theorem store_of_nul (s : String) (a : Arena) (h : '\x00' ∈ s.toList) :
    ∃ position, store s a = (.error (.nulAt position), a) := by
  rcases exists_firstNul s h with ⟨position, hfirst⟩
  exact ⟨position, store_of_firstNul s position a hfirst⟩

/-- What is stored reads back as the text, all of it. -/
theorem read?_stored (s : String) (a : Arena) (h : '\x00' ∉ s.toList) :
    (a.push (Utf8.encode s)).read? (.text a.size) = some (Utf8.encode s) := by
  refine Arena.read?_push a _ fun b hb hzero => h ?_
  exact (Utf8.zero_mem_encode_iff s).1 (hzero ▸ hb)

/-- A code point fits an int, so its sign extends to nothing. -/
theorem charWord (c : Char) :
    (Int32.ofNat c.toNat).toInt64.toUInt64 = c.toNat.toUInt64 := by
  have hlt : c.toNat < 0x110000 := by
    rcases c.valid with h | h
    · change c.val.toNat < _
      omega
    · exact h.2
  -- Code points end far below the largest int.
  have hle : (c.toNat : Int) ≤ Int32.maxValue.toInt := by
    rw [show Int32.maxValue.toInt = 2147483647 by decide]
    omega
  rw [Int32.toInt64_ofNat' hle]
  rfl

/-- Where a value is taken without an effect, its word is all that is left to take. -/
theorem word_of_value {index : Nat} {v : Value} {c : CValue} {w : Word} (a : Arena)
    (hvalue : value v = pure c) (hword : c.toWord? = some w) : word index v a = (.ok w, a) := by
  have hfits : c.type.fitsWord = true := by
    rw [← CValue.isSome_toWord?_iff, hword, Option.isSome_some]
  unfold word
  rw [bind_of_ok _ _ a a c (congrFun hvalue a), if_pos hfits, hword]
  rfl

/-- A value that needs no storage is lowered to its bits. -/
theorem word_of_bits? (index : Nat) (v : Value) (bits : UInt64) (a : Arena)
    (h : v.bits? = some bits) : word index v a = (.ok (.bits bits), a) := by
  cases v with
  | null =>
      rw [← Option.some.inj h]
      rfl
  | bool truth =>
      rw [← Option.some.inj h]
      cases truth
      · rfl
      · rfl
  | char character =>
      rw [← Option.some.inj h, ← charWord character]
      rfl
  | int number =>
      rw [← Option.some.inj h]
      rfl
  | long number =>
      rw [← Option.some.inj h]
      exact word_of_value a rfl (CValue.toWord?_long number)
  | object address =>
      rw [← Option.some.inj h]
      rfl
  | double _ => exact absurd h (by simp only [Value.bits?, reduceCtorEq, not_false_eq_true])
  | string _ => exact absurd h (by simp only [Value.bits?, reduceCtorEq, not_false_eq_true])

/-- The word of a text is the address that it is stored at. -/
theorem word_string (index : Nat) (s : String) (a : Arena) :
    word index (.string s) a = store s a := by
  have hvalue := value_string s a
  unfold word
  rcases h : store s a with ⟨e | w, b⟩
  · rw [h] at hvalue
    exact bind_of_error _ _ a b e hvalue
  · rw [h] at hvalue
    exact bind_of_ok _ _ a b (CValue.charPointer w) hvalue

/-- What a slot can hold is lowered to a word that holds it. -/
theorem word_of_lowers (index : Nat) (v : Value) (a : Arena) (h : v.Lowers) :
    ∃ w b, word index v a = (.ok w, b) ∧ a.Le b ∧ b.Holds v w := by
  cases v with
  | string text =>
      refine ⟨.text a.size, a.push (Utf8.encode text), ?_, a.le_push _, read?_stored text a h⟩
      rw [word_string, store_of_no_nul text a h]
  | double number => exact absurd h id
  | _ => exact ⟨_, a, word_of_bits? index _ _ a rfl, a.le_refl, rfl⟩

/-- What no slot can hold has a fault, at any index. -/
theorem exists_fault (index : Nat) (v : Value) (h : ¬ v.Lowers) : ∃ e, Fault index v e := by
  cases v with
  | string text =>
      rcases exists_firstNul text (Decidable.not_not.1 h) with ⟨position, hfirst⟩
      exact ⟨.nulAt position, .nul text position hfirst⟩
  | double number => exact ⟨.slotMismatch index .double .double, .double number⟩
  | _ => exact absurd trivial h

/-- A faulty argument is refused for its fault, and the arena stays as it is. -/
theorem word_of_fault (index : Nat) (v : Value) (e : MarshalError) (a : Arena)
    (h : Fault index v e) : word index v a = (.error e, a) := by
  cases h with
  | double number => rfl
  | nul text position hfirst =>
      exact (word_string index text a).trans (store_of_firstNul text position a hfirst)

/-- What no slot can hold is refused, and the arena stays as it is. -/
theorem word_of_not_lowers (index : Nat) (v : Value) (a : Arena) (h : ¬ v.Lowers) :
    ∃ e, word index v a = (.error e, a) := by
  rcases exists_fault index v h with ⟨e, hfault⟩
  exact ⟨e, word_of_fault index v e a hfault⟩

/-- Arguments that slots can hold are lowered to words that hold them, each
    in its place. -/
theorem wordsFrom_of_lowers (index : Nat) (vs : List Value) (a : Arena)
    (h : ∀ v ∈ vs, v.Lowers) :
    ∃ ws b, wordsFrom index vs a = (.ok ws, b) ∧ a.Le b ∧ List.Forall₂ b.Holds vs ws := by
  induction vs generalizing index a with
  | nil => exact ⟨[], a, rfl, a.le_refl, .nil⟩
  | cons v rest ih =>
      rcases word_of_lowers index v a (h v List.mem_cons_self) with ⟨w, b, hword, hab, hholds⟩
      rcases ih (index + 1) b fun u hu => h u (List.mem_cons_of_mem v hu) with
        ⟨ws, c, hwords, hbc, hall⟩
      -- The later arguments only store more, so the first word still holds.
      refine ⟨w :: ws, c, ?_, hab.trans hbc, .cons (hholds.mono hbc) hall⟩
      unfold wordsFrom
      rw [bind_of_ok _ _ a b w hword, bind_of_ok _ _ b c ws hwords]
      rfl

/-- The first faulty argument is what the others are refused for: those
    before it lower, and those behind it are not looked at. -/
theorem wordsFrom_of_fault (index : Nat) (before : List Value) (v : Value) (after : List Value)
    (e : MarshalError) (a : Arena) (hbefore : ∀ u ∈ before, u.Lowers)
    (hfault : Fault (index + before.length) v e) :
    ∃ b, wordsFrom index (before ++ v :: after) a = (.error e, b) := by
  induction before generalizing index a with
  | nil =>
      refine ⟨a, ?_⟩
      change wordsFrom index (v :: after) a = _
      unfold wordsFrom
      exact bind_of_error _ _ a a e (word_of_fault index v e a hfault)
  | cons u rest ih =>
      rcases word_of_lowers index u a (hbefore u List.mem_cons_self) with ⟨w, b, hword, _, _⟩
      -- The index counts up while the arguments before the faulty one run out.
      have hnext : Fault (index + 1 + rest.length) v e := by
        rw [Nat.add_assoc, Nat.add_comm 1]
        exact hfault
      rcases ih (index + 1) b (fun x hx => hbefore x (List.mem_cons_of_mem u hx)) hnext with
        ⟨c, hwords⟩
      refine ⟨c, ?_⟩
      change wordsFrom index (u :: (rest ++ v :: after)) a = _
      unfold wordsFrom
      rw [bind_of_ok _ _ a b w hword, bind_of_error _ _ b c e hwords]

/-- Where some argument does not lower, there is a first that does not. -/
theorem exists_first_not_lowers (vs : List Value) (h : ∃ v ∈ vs, ¬ v.Lowers) :
    ∃ before v after, vs = before ++ v :: after ∧ (∀ u ∈ before, u.Lowers) ∧ ¬ v.Lowers := by
  induction vs with
  | nil =>
      rcases h with ⟨v, hv, _⟩
      exact absurd hv List.not_mem_nil
  | cons v rest ih =>
      by_cases hv : v.Lowers
      · -- The first one lowers, so the one that does not comes later.
        have hrest : ∃ u ∈ rest, ¬ u.Lowers := by
          rcases h with ⟨u, hu, hnot⟩
          rcases List.mem_cons.1 hu with rfl | hu
          · exact absurd hv hnot
          · exact ⟨u, hu, hnot⟩
        rcases ih hrest with ⟨before, u, after, rfl, hbefore, hu⟩
        exact ⟨v :: before, u, after, rfl, List.forall_mem_cons.2 ⟨hv, hbefore⟩, hu⟩
      · exact ⟨[], v, rest, rfl, fun u hu => absurd hu List.not_mem_nil, hv⟩

/-- A call that lowers is found as it was made: the format reads as all its
    bytes, and every word holds its argument. -/
theorem call_of_lowers (format : String) (vs : List Value) (a : Arena)
    (hformat : '\x00' ∉ format.toList) (h : ∀ v ∈ vs, v.Lowers) :
    ∃ lowered b, call format vs a = (.ok lowered, b) ∧
      b.read? lowered.format = some (Utf8.encode format) ∧
      List.Forall₂ b.Holds vs lowered.words := by
  have hstore := store_of_no_nul format a hformat
  rcases wordsFrom_of_lowers 0 vs (a.push (Utf8.encode format)) h with
    ⟨ws, b, hwords, hle, hall⟩
  refine ⟨⟨.text a.size, ws⟩, b, ?_, hle _ _ (read?_stored format a hformat), hall⟩
  unfold call
  rw [bind_of_ok _ _ a _ _ hstore, bind_of_ok _ _ _ b ws hwords]
  rfl

/-- A call that does not lower has something to be refused for. -/
theorem exists_refusal (format : String) (vs : List Value)
    (h : '\x00' ∈ format.toList ∨ ∃ v ∈ vs, ¬ v.Lowers) : ∃ e, Refusal format vs e := by
  by_cases hformat : '\x00' ∈ format.toList
  · rcases exists_firstNul format hformat with ⟨position, hfirst⟩
    exact ⟨.nulAt position, .format position hfirst⟩
  · rcases exists_first_not_lowers vs (h.resolve_left hformat) with
      ⟨before, v, after, hvs, hbefore, hv⟩
    rcases exists_fault before.length v hv with ⟨e, hfault⟩
    exact ⟨e, .argument before v after e hformat hvs hbefore hfault⟩

/-- A call is refused for what decides its refusal. -/
theorem call_of_refusal (format : String) (vs : List Value) (e : MarshalError) (a : Arena)
    (h : Refusal format vs e) : ∃ b, call format vs a = (.error e, b) := by
  unfold call
  cases h with
  | format position hfirst =>
      exact ⟨a, bind_of_error _ _ a a _ (store_of_firstNul format position a hfirst)⟩
  | argument before v after _ hformat hvs hbefore hfault =>
      have hstore := store_of_no_nul format a hformat
      have hindex : Fault (0 + before.length) v e := by
        rw [Nat.zero_add]
        exact hfault
      rcases wordsFrom_of_fault 0 before v after e (a.push (Utf8.encode format)) hbefore hindex with
        ⟨b, hwords⟩
      rw [← hvs] at hwords
      exact ⟨b, by rw [bind_of_ok _ _ a _ _ hstore, bind_of_error _ _ _ b e hwords]⟩

/-- A call that does not lower is refused. -/
theorem call_of_not_lowers (format : String) (vs : List Value) (a : Arena)
    (h : '\x00' ∈ format.toList ∨ ∃ v ∈ vs, ¬ v.Lowers) :
    ∃ e b, call format vs a = (.error e, b) := by
  rcases exists_refusal format vs h with ⟨e, hrefusal⟩
  exact ⟨e, call_of_refusal format vs e a hrefusal⟩

end Lowering

end PrintBridge
