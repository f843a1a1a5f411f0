/-!
# Text as Bytes

Everything that leaves the library, and much that enters it, is bytes. Text
becomes bytes by UTF-8, and bytes become text only where they are the UTF-8
of one. Where bytes have to be shown although they are no text, each maximal
ill-formed piece becomes one replacement character. A piece ends before the
first byte that cannot continue the character that its lead byte announced,
and that byte starts afresh.

## Main definitions

* `Bytes`: A sequence of bytes.
* `Utf8.encode`, `Utf8.decode?`: Text to bytes, and back where possible.
* `Utf8.lossy`: Bytes as text that can always be shown.

## Theorems

* `encode_append`: Encoding is character by character.
* `encode_length`: A text has as many bytes as its encoding.
* `decode?_encode`: Encoded text reads back.
* `decode?_eq_some_iff`: Nothing else reads as text.
* `zero_mem_encode_iff`: A text has a NUL byte where it has a NUL.
* `scan_length`: Reading a character consumes no more than there is.
-/

namespace PrintBridge

/-- A sequence of bytes. -/
abbrev Bytes := List UInt8

namespace Utf8

/-- The bytes of a text. -/
def encode (s : String) : Bytes := s.toList.flatMap String.utf8EncodeChar

/-- The text that the bytes encode, if they encode one. -/
def decode? (b : Bytes) : Option String := String.fromUTF8? b.toByteArray

theorem encode_append (s t : String) : encode (s ++ t) = encode s ++ encode t := by
  simp only [encode, String.toList_append, List.flatMap_append]

/-- A text is stored as the bytes of its encoding. -/
theorem toByteArray_encode (s : String) : (encode s).toByteArray = s.toByteArray := by
  rw [encode, ← List.utf8Encode, String.utf8Encode_toList]

theorem encode_length (s : String) : (encode s).length = s.utf8ByteSize := by
  have hsize := congrArg ByteArray.size (toByteArray_encode s)
  rw [List.size_toByteArray] at hsize
  exact hsize

theorem decode?_encode (s : String) : decode? (encode s) = some s := by
  simp only [decode?, toByteArray_encode, String.fromUTF8?, s.isValidUTF8, dif_pos, String.fromUTF8]

/-- Bytes are read as a text exactly where they are the bytes of it. -/
theorem decode?_eq_some_iff (b : Bytes) (s : String) : decode? b = some s ↔ b = encode s := by
  constructor
  · intro h
    unfold decode? String.fromUTF8? at h
    split at h
    · have hbytes : b.toByteArray = (encode s).toByteArray := by
        rw [toByteArray_encode, ← Option.some.inj h]
        rfl
      have hdata := congrArg ByteArray.data hbytes
      rw [List.data_toByteArray, List.data_toByteArray] at hdata
      exact List.toArray_inj hdata
    · exact absurd h (by simp only [reduceCtorEq, not_false_eq_true])
  · rintro rfl
    exact decode?_encode s

/-- A byte made from a positive number in range is no NUL. -/
theorem ofNat_ne_zero (n : Nat) (hpos : 0 < n) (hlt : n < 256) : UInt8.ofNat n ≠ 0 := by
  intro h
  have hn := congrArg UInt8.toNat h
  rw [UInt8.toNat_ofNat_of_lt' hlt] at hn
  exact absurd hn.symm (Nat.ne_of_lt hpos)

/-- No byte of a character other than NUL is a NUL. -/
theorem ne_zero_of_mem_utf8EncodeChar (c : Char) (hc : c ≠ '\x00') (b : UInt8)
    (hb : b ∈ String.utf8EncodeChar c) : b ≠ 0 := by
  have hpos : 0 < c.val.toNat :=
    Nat.pos_of_ne_zero fun hzero => hc (Char.ext (UInt32.toNat_inj.1 hzero))
  unfold String.utf8EncodeChar at hb
  simp only at hb
  -- Bytes that are not alone carry a marker in their high bits.
  split at hb
  · rw [List.mem_singleton.1 hb]
    exact ofNat_ne_zero _ hpos (by omega)
  · split at hb
    · simp only [List.mem_cons, List.not_mem_nil, or_false] at hb
      rcases hb with rfl | rfl
      all_goals exact ofNat_ne_zero _ (by omega) (by omega)
    · split at hb
      · simp only [List.mem_cons, List.not_mem_nil, or_false] at hb
        rcases hb with rfl | rfl | rfl
        all_goals exact ofNat_ne_zero _ (by omega) (by omega)
      · simp only [List.mem_cons, List.not_mem_nil, or_false] at hb
        rcases hb with rfl | rfl | rfl | rfl
        all_goals exact ofNat_ne_zero _ (by omega) (by omega)

/-- The bytes of a text have a NUL exactly where the text has one. -/
theorem zero_mem_encode_iff (s : String) : (0 : UInt8) ∈ encode s ↔ '\x00' ∈ s.toList := by
  unfold encode
  rw [List.mem_flatMap]
  constructor
  · rintro ⟨c, hc, hb⟩
    by_cases hnul : c = '\x00'
    · exact hnul ▸ hc
    · exact absurd rfl (ne_zero_of_mem_utf8EncodeChar c hnul 0 hb)
  · intro h
    exact ⟨'\x00', h, by decide⟩

/-- What a lead byte announces: the bits that it carries itself, and for each
    byte to follow the range that the byte must lie in. Overlong forms,
    surrogates and code points beyond the last are kept out by the range of
    the second byte. -/
def announced? (lead : Nat) : Option (Nat × List (Nat × Nat)) :=
  let tail := (0x80, 0xbf)
  if lead < 0x80 then some (lead, [])
  else if lead < 0xc2 then none
  else if lead < 0xe0 then some (lead - 0xc0, [tail])
  else if lead = 0xe0 then some (0, [(0xa0, 0xbf), tail])
  else if lead = 0xed then some (13, [(0x80, 0x9f), tail])
  else if lead < 0xf0 then some (lead - 0xe0, [tail, tail])
  else if lead = 0xf0 then some (0, [(0x90, 0xbf), tail, tail])
  else if lead < 0xf4 then some (lead - 0xf0, [tail, tail, tail])
  else if lead = 0xf4 then some (4, [(0x80, 0x8f), tail, tail])
  else none

/-- Reads the announced bytes onto the bits at hand. The first byte out of its
    range is left unread. -/
def scan (bits : Nat) : List (Nat × Nat) → Bytes → Option Nat × Bytes
  | [], rest => (some bits, rest)
  | _ :: _, [] => (none, [])
  | (low, high) :: ranges, b :: rest =>
    if low ≤ b.toNat ∧ b.toNat ≤ high then scan (bits * 64 + b.toNat % 64) ranges rest
    else (none, b :: rest)

theorem scan_length (bits : Nat) (ranges : List (Nat × Nat)) (bs : Bytes) :
    (scan bits ranges bs).2.length ≤ bs.length := by
  induction ranges generalizing bits bs with
  | nil => exact Nat.le_refl _
  | cons range ranges ih =>
    cases bs with
    | nil => exact Nat.le_refl _
    | cons b rest =>
      simp only [scan]
      split
      · exact Nat.le_succ_of_le (ih _ rest)
      · exact Nat.le_refl _

/-- The characters of the bytes, with a replacement character for each piece
    that is none. -/
def lossyChars : Bytes → List Char
  | [] => []
  | lead :: rest =>
    match announced? lead.toNat with
    | none => '\uFFFD' :: lossyChars rest
    | some (bits, ranges) =>
      let next := scan bits ranges rest
      have := scan_length bits ranges rest
      (match next.1 with
      | some code => Char.ofNat code
      | none => '\uFFFD') :: lossyChars next.2
termination_by bs => bs.length
decreasing_by
  all_goals simp only [List.length_cons]; omega

/-- The bytes as text that can be shown. -/
def lossy (b : Bytes) : String := String.ofList (lossyChars b)

end Utf8

end PrintBridge
