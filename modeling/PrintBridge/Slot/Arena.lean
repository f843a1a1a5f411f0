import PrintBridge.Failure
import PrintBridge.Text.Utf8

/-!
# Arenas of C Strings

The C strings of one call. A C string ends at its first NUL, so a text can
become one only if it has none inside; the check comes before anything is
stored. What is stored stays where it is until the call is over: an arena
only ever grows at its end, and an address is the place a string was put at.

Lowering keeps the arena also when it fails, so that what earlier arguments
have stored can still be read.

## Main definitions

* `Arena`: The C strings of a call.
* `Arena.read?`: The bytes that an address reads as.
* `Lowering`: A step that may store strings and may fail.
* `Lowering.store`: Storing a text.

## Theorems

* `size_push`: Storing adds one string.
* `read?_push`: A stored text reads back.
* `read?_push_of_some`: Storing more changes no earlier reading.
-/

namespace PrintBridge

/-- The C strings of a call, each with its final NUL. -/
structure Arena where
  strings : List Bytes
deriving DecidableEq

namespace Arena

/-- The arena of a call that has stored nothing yet. -/
def empty : Arena := ⟨[]⟩

/-- How many strings the arena owns. -/
def size (a : Arena) : Nat := a.strings.length

/-- The arena with one more string. -/
def push (a : Arena) (bytes : Bytes) : Arena := ⟨a.strings ++ [bytes ++ [0]]⟩

/-- The bytes up to the first NUL of the string at an address. -/
def read? (a : Arena) : Word → Option Bytes
  | .bits _ => none
  | .text handle => a.strings[handle]?.map (·.takeWhile (· != 0))

theorem size_push (a : Arena) (bytes : Bytes) : (a.push bytes).size = a.size + 1 :=
  List.length_append

theorem takeWhile_terminated (bytes : Bytes) (h : ∀ b ∈ bytes, b ≠ 0) :
    (bytes ++ [0]).takeWhile (· != 0) = bytes := by
  rw [List.takeWhile_append_of_pos fun b hb => bne_iff_ne.2 (h b hb)]
  exact List.append_nil bytes

/-- A stored text reads back. -/
theorem read?_push (a : Arena) (bytes : Bytes) (h : ∀ b ∈ bytes, b ≠ 0) :
    (a.push bytes).read? (.text a.size) = some bytes := by
  simp only [read?, push, size, List.getElem?_concat_length, Option.map_some,
    takeWhile_terminated bytes h]

/-- Storing more changes no earlier reading. -/
theorem read?_push_of_some (a : Arena) (bytes : Bytes) (w : Word) (b : Bytes)
    (h : a.read? w = some b) : (a.push bytes).read? w = some b := by
  cases w with
  | bits _ => simp only [read?, reduceCtorEq] at h
  | text handle =>
    simp only [read?, Option.map_eq_some_iff] at h ⊢
    rcases h with ⟨s, hs, hb⟩
    refine ⟨s, ?_, hb⟩
    have hlt : handle < a.strings.length := (List.getElem?_eq_some_iff.1 hs).1
    rw [push, List.getElem?_append_left hlt, hs]

end Arena

/-- A step that may store strings in the arena and may fail. What was stored
    before a failure stays. -/
abbrev Lowering := ExceptT MarshalError (StateM Arena)

namespace Lowering

/-- Stores a text and gives its address. A text with a NUL is refused at the
    byte where the first one stands. -/
def store (s : String) : Lowering Word :=
  fun a =>
    let bytes := Utf8.encode s
    match bytes.findIdx? (· == 0) with
    | some position => (.error (.nulAt position), a)
    | none => (.ok (.text a.size), a.push bytes)

end Lowering

end PrintBridge
