import PrintBridge.Proofs.Literal.ReadBack
import PrintBridge.Proofs.Number.Denotation

/-!
# Spellings of Integers

Which texts stand for which integers, and which of them are read.

A magnitude is spelled in decimal digits, or in hexadecimal digits behind their
mark, and an integer is spelled as its magnitude behind an optional minus sign.
This is `Magnitude` and `Signed`, and it says nothing about how texts are read.

The readers of the parts know a little more than the grammar wants. The one for
hexadecimal digits lets a plus sign through between the mark and the digits,
which the test for signs before it does not see, so texts are read that are no
spellings. They are told apart as `PlusHexadecimal`, and `Accepted` has both.
The readers also know a little less. A magnitude is read before the sign is put
to it, so the magnitude of the least long is none, and neither that number nor
its text is read as a long.

Apart from these two, what is read is what is spelled. The recognisers that come
before the one for integers let a spelling pass, since it opens with a sign or a
digit and ends in a digit.

## Main definitions

* `Hexadecimal`, `PlusHexadecimal`: Hexadecimal digits behind their mark.
* `Magnitude`: The spellings of a magnitude.
* `Accepted`: What is read as a magnitude.
* `Signed`: The same behind an optional minus sign.
* `ReadBy`: A value with the recogniser that it came from.

## Theorems

* `magnitude?_of_accepted`, `accepted_of_magnitude?`: What is read as a
  magnitude.
* `integer?_of_signed`, `signed_of_integer?`: What is read as an integer.
* `read_of_integer?`, `read_of_longInteger?`: What a recogniser of integers takes,
  no other recogniser takes before it.
* `read_by`: A literal is read by one of its recognisers.
-/

namespace PrintBridge

namespace Literal

/-- Hexadecimal digits behind their mark. -/
inductive Hexadecimal : List Char → Nat → Prop where
  | marked {mark : Char} {digits : List Char} {n : Nat} (hmark : mark = 'x' ∨ mark = 'X')
      (hdigits : Numeral.Denotes 16 digits n) : Hexadecimal ('0' :: mark :: digits) n

/-- Hexadecimal digits behind their mark and a plus sign. -/
inductive PlusHexadecimal : List Char → Nat → Prop where
  | marked {mark : Char} {digits : List Char} {n : Nat} (hmark : mark = 'x' ∨ mark = 'X')
      (hdigits : Numeral.Denotes 16 digits n) : PlusHexadecimal ('0' :: mark :: '+' :: digits) n

/-- How a magnitude is spelled: in decimal digits, or in hexadecimal digits behind
    their mark. -/
inductive Magnitude : List Char → Nat → Prop where
  | decimal {digits : List Char} {n : Nat} (hdigits : Numeral.Denotes 10 digits n) :
      Magnitude digits n
  | hexadecimal {cs : List Char} {n : Nat} (h : Hexadecimal cs n) : Magnitude cs n

/-- What is read as a magnitude: its spellings, and hexadecimal digits behind a plus
    sign. -/
inductive Accepted : List Char → Nat → Prop where
  | spelled {cs : List Char} {n : Nat} (h : Magnitude cs n) : Accepted cs n
  | plus {cs : List Char} {n : Nat} (h : PlusHexadecimal cs n) : Accepted cs n

/-- A magnitude in the given spellings, behind an optional minus sign. -/
inductive Signed (spells : List Char → Nat → Prop) : List Char → Int → Prop where
  | plain {cs : List Char} {m : Nat} (h : spells cs m) : Signed spells cs m
  | minus {cs : List Char} {m : Nat} (h : spells cs m) : Signed spells ('-' :: cs) (-m)

variable {cs : List Char} {m : Nat} {n : Int} {s : String}

section Magnitudes

/-- Hexadecimal digits behind their mark are read as what they denote, if a word
    holds it. -/
theorem hexadecimal?_of_spelled (h : Hexadecimal cs m ∨ PlusHexadecimal cs m) :
    hexadecimal? cs = (some m).filter (· < twoTo 64) := by
  rcases h with ⟨hmark, hdigits⟩ | ⟨hmark, hdigits⟩
  · rw [hexadecimal?, if_pos hmark,
      (Numeral.plusNatural?_eq_some_iff (by decide)).2 (.inl hdigits)]
  · rw [hexadecimal?, if_pos hmark,
      (Numeral.plusNatural?_eq_some_iff (by decide)).2 (.inr ⟨_, rfl, hdigits⟩)]

/-- Nothing else is read, apart from the sign that goes with the digits. -/
theorem spelled_of_hexadecimal? (h : hexadecimal? cs = some m) :
    Hexadecimal cs m ∨ PlusHexadecimal cs m := by
  unfold hexadecimal? at h
  split at h
  · split at h
    · rename_i hmark
      have hread := (Option.filter_eq_some_iff.1 h).1
      rcases (Numeral.plusNatural?_eq_some_iff (by decide)).1 hread with
        hdigits | ⟨behind, rfl, hdigits⟩
      · exact .inl (.marked hmark hdigits)
      · exact .inr (.marked hmark hdigits)
    · exact absurd h (by simp only [reduceCtorEq, not_false_eq_true])
  · exact absurd h (by simp only [reduceCtorEq, not_false_eq_true])

/-- A word holds what is read from hexadecimal digits. -/
theorem hexadecimal?_lt (h : hexadecimal? cs = some m) : m < twoTo 64 := by
  unfold hexadecimal? at h
  split at h
  · split at h
    · exact of_decide_eq_true (Option.filter_eq_some_iff.1 h).2
    · exact absurd h (by simp only [reduceCtorEq, not_false_eq_true])
  · exact absurd h (by simp only [reduceCtorEq, not_false_eq_true])

/-- The mark of hexadecimal digits is no decimal digit. -/
theorem natural?_of_spelled (h : Hexadecimal cs m ∨ PlusHexadecimal cs m) :
    Numeral.natural? 10 cs = none := by
  have hmark : ∃ mark ∈ cs, mark = 'x' ∨ mark = 'X' := by
    rcases h with ⟨hmark, _⟩ | ⟨hmark, _⟩
    · exact ⟨_, List.mem_cons_of_mem _ List.mem_cons_self, hmark⟩
    · exact ⟨_, List.mem_cons_of_mem _ List.mem_cons_self, hmark⟩
  refine Option.eq_none_iff_forall_ne_some.2 fun k hk => ?_
  have hdenotes := (Numeral.natural?_eq_some_iff (by decide)).1 hk
  rcases hmark with ⟨mark, hmem, rfl | rfl⟩
  · exact hdenotes.not_mem (by decide) (by decide) hmem
  · exact hdenotes.not_mem (by decide) (by decide) hmem

/-- What is accepted is read as what it denotes, if a long holds it. -/
theorem magnitude?_of_accepted (h : Accepted cs m) :
    magnitude? cs = (some m).filter (· < twoTo 63) := by
  have hhexadecimal (hspelled : Hexadecimal cs m ∨ PlusHexadecimal cs m) :
      magnitude? cs = (some m).filter (· < twoTo 63) := by
    by_cases hlt : m < twoTo 64
    · have hword : hexadecimal? cs = some m := by
        rw [hexadecimal?_of_spelled hspelled, Option.filter_some, if_pos (decide_eq_true hlt)]
      rw [magnitude?, hword]
    · -- What is too large for a word is too large for a long.
      have hword : hexadecimal? cs = none := by
        rw [hexadecimal?_of_spelled hspelled, Option.filter_some, if_neg]
        rwa [decide_eq_true_eq]
      have hlong : ¬ m < twoTo 63 := by
        have hle : twoTo 63 ≤ twoTo 64 := by decide +kernel
        omega
      rw [magnitude?, hword, natural?_of_spelled hspelled, Option.filter_some, if_neg]
      · rfl
      · rwa [decide_eq_true_eq]
  rcases h with (hdigits | hspelled) | hspelled
  · have hnone : hexadecimal? cs = none :=
      hexadecimal?_eq_none fun d hd => hdigits.isDigit_of_mem hd
    rw [magnitude?, hnone, (Numeral.natural?_eq_some_iff (by decide)).2 hdigits]
  · exact hhexadecimal (.inl hspelled)
  · exact hhexadecimal (.inr hspelled)

theorem accepted_of_magnitude? (h : magnitude? cs = some m) : Accepted cs m := by
  have hread := (Option.filter_eq_some_iff.1 h).1
  rcases hword : hexadecimal? cs with _ | k
  · rw [hword] at hread
    exact .spelled (.decimal ((Numeral.natural?_eq_some_iff (by decide)).1 hread))
  · rw [hword] at hread
    rw [← Option.some.inj hread]
    rcases spelled_of_hexadecimal? hword with hspelled | hspelled
    · exact .spelled (.hexadecimal hspelled)
    · exact .plus hspelled

namespace Accepted

/-- What is accepted opens with a digit. -/
theorem opens (h : Accepted cs m) : ∃ c rest, cs = c :: rest ∧ c.isDigit = true := by
  rcases h with (hdigits | ⟨_, _⟩) | ⟨_, _⟩
  · rcases cs with _ | ⟨c, rest⟩
    · exact absurd rfl hdigits.ne_nil
    · exact ⟨c, rest, rfl, hdigits.isDigit_of_mem List.mem_cons_self⟩
  · exact ⟨'0', _, rfl, by decide⟩
  · exact ⟨'0', _, rfl, by decide⟩

/-- It ends in digits, of which there is at least one. -/
theorem ends (h : Accepted cs m) :
    ∃ front base digits, cs = front ++ digits ∧ base ≤ 16 ∧ Numeral.Denotes base digits m := by
  rcases h with (hdigits | ⟨_, hdigits⟩) | ⟨_, hdigits⟩
  · exact ⟨[], 10, cs, rfl, by decide, hdigits⟩
  · exact ⟨['0', _], 16, _, rfl, by decide, hdigits⟩
  · exact ⟨['0', _, '+'], 16, _, rfl, by decide, hdigits⟩

/-- So what has no value in any base does not stand at the end. -/
theorem getLast?_ne (h : Accepted cs m) {c : Char} (hc : Numeral.hexDigit? c = none) :
    cs.getLast? ≠ some c := by
  rcases h.ends with ⟨front, base, digits, rfl, hbase, hdigits⟩
  intro hlast
  rw [List.getLast?_append, List.getLast?_eq_some_getLast hdigits.ne_nil, Option.some_or] at hlast
  have hmem : c ∈ digits := Option.some.inj hlast ▸ List.getLast_mem hdigits.ne_nil
  exact hdigits.not_mem hbase hc hmem

end Accepted

end Magnitudes

section Integers

/-- An integer is read from an accepted magnitude and its sign, if a long holds the
    magnitude. -/
theorem integer?_of_signed (h : Signed Accepted cs n) :
    integer? cs = (some n).filter fun n => n.natAbs < twoTo 63 := by
  rcases h with @⟨cs, m, h⟩ | @⟨cs, m, h⟩
  · rcases h.opens with ⟨c, rest, rfl, hdigit⟩
    have hsign : c ≠ '-' := by
      rintro rfl
      exact absurd hdigit (by decide)
    rw [integer?_of_unsigned hsign, magnitude?_of_accepted h, Option.filter_some,
      Option.filter_some, Int.natAbs_natCast]
    split
    · rfl
    · rfl
  · rw [integer?, magnitude?_of_accepted h, Option.filter_some, Option.filter_some,
      Int.natAbs_neg, Int.natAbs_natCast]
    split
    · rfl
    · rfl

theorem signed_of_integer? (h : integer? cs = some n) : Signed Accepted cs n := by
  unfold integer? at h
  split at h
  · rcases Option.map_eq_some_iff.1 h with ⟨m, hm, rfl⟩
    exact .minus (accepted_of_magnitude? hm)
  · rcases Option.map_eq_some_iff.1 h with ⟨m, hm, rfl⟩
    exact .plain (accepted_of_magnitude? hm)

namespace Signed

theorem mono {spells reads : List Char → Nat → Prop} (hle : ∀ cs m, spells cs m → reads cs m)
    (h : Signed spells cs n) : Signed reads cs n := by
  cases h with
  | plain h => exact .plain (hle _ _ h)
  | minus h => exact .minus (hle _ _ h)

/-- An integer opens with a sign or a digit. -/
theorem opens (h : Signed Accepted cs n) :
    ∃ c rest, cs = c :: rest ∧ (c = '-' ∨ c.isDigit = true) := by
  rcases h with h | h
  · rcases h.opens with ⟨c, rest, hcs, hdigit⟩
    exact ⟨c, rest, hcs, .inr hdigit⟩
  · exact ⟨'-', _, rfl, .inl rfl⟩

/-- It ends in a digit, so the suffix of a long is not part of it. -/
theorem getLast?_ne (h : Signed Accepted cs n) {c : Char} (hc : Numeral.hexDigit? c = none) :
    cs.getLast? ≠ some c := by
  rcases h with h | @⟨cs, m, h⟩
  · exact h.getLast?_ne hc
  · rcases h.opens with ⟨d, rest, rfl, _⟩
    rw [List.getLast?_cons_cons]
    exact h.getLast?_ne hc

end Signed

/-- The suffix of a long is no digit. -/
theorem hexDigit?_suffix {suffix : Char} (h : suffix = 'L' ∨ suffix = 'l') :
    Numeral.hexDigit? suffix = none := by
  rcases h with rfl | rfl
  · decide
  · decide

/-- A long is an integer in front of a suffix. -/
theorem longInteger?_concat (front : List Char) {suffix : Char}
    (h : suffix = 'L' ∨ suffix = 'l') : longInteger? (front ++ [suffix]) = integer? front := by
  simp only [longInteger?, List.getLast?_concat, List.dropLast_concat, if_pos h]

theorem suffixed_of_longInteger? (h : longInteger? cs = some n) :
    ∃ front suffix, cs = front ++ [suffix] ∧ (suffix = 'L' ∨ suffix = 'l') ∧
      integer? front = some n := by
  unfold longInteger? at h
  split at h
  · rename_i suffix hlast
    split at h
    · rename_i hsuffix
      rcases List.getLast?_eq_some_iff.1 hlast with ⟨front, rfl⟩
      rw [List.dropLast_concat] at h
      exact ⟨front, suffix, rfl, hsuffix, h⟩
    · exact absurd h (by simp only [reduceCtorEq, not_false_eq_true])
  · exact absurd h (by simp only [reduceCtorEq, not_false_eq_true])

/-- An integer has no suffix. -/
theorem longInteger?_of_signed (h : Signed Accepted cs n) : longInteger? cs = none := by
  refine Option.eq_none_iff_forall_ne_some.2 fun k hk => ?_
  rcases suffixed_of_longInteger? hk with ⟨front, suffix, rfl, hsuffix, _⟩
  exact h.getLast?_ne (hexDigit?_suffix hsuffix) List.getLast?_concat

end Integers

section Reading

/-- A value with the recogniser that it came from. -/
inductive ReadBy (s : String) : Value → Prop where
  | keyword {v : Value} (h : keyword? s = some v) : ReadBy s v
  | character {c : Char} (h : character? s.toList = some c) : ReadBy s (.char c)
  | handle {a : Nat} (h : handle? s.toList = some a) : ReadBy s (.object (UInt64.ofNat a))
  | long {n : Int} (h : longInteger? s.toList = some n) : ReadBy s (.long (Int64.ofInt n))
  | integer {n : Int} {v : Value} (h : integer? s.toList = some n) (hv : ofInteger n = v) :
      ReadBy s v
  | fraction {d : Double} (h : fraction? s.toList = some d) : ReadBy s (.double d)
  | text : ReadBy s (.string (readText s.toList))

/-- A literal is read by one of its recognisers, or as text. -/
theorem read_by (s : String) : ReadBy s (read s) := by
  unfold read
  simp only
  split
  · exact .keyword (by assumption)
  · split
    · exact .character (by assumption)
    · split
      · exact .handle (by assumption)
      · split
        · exact .long (by assumption)
        · split
          · exact .integer (by assumption) rfl
          · split
            · exact .fraction (by assumption)
            · exact .text

/-- What the recogniser of integers takes is read as an integer. -/
theorem read_of_integer? (h : integer? s.toList = some n) : read s = ofInteger n := by
  have hsigned := signed_of_integer? h
  rcases hsigned.opens with ⟨c, rest, hs, hopens⟩
  rcases opens_like_integer hs hopens with ⟨hkeyword, hcharacter, hhandle⟩
  simp only [read, hkeyword, hcharacter, hhandle, longInteger?_of_signed hsigned, h]

/-- What the recogniser of longs takes is read as a long. -/
theorem read_of_longInteger? (h : longInteger? s.toList = some n) :
    read s = .long (Int64.ofInt n) := by
  rcases suffixed_of_longInteger? h with ⟨front, suffix, hs, _, hfront⟩
  rcases (signed_of_integer? hfront).opens with ⟨c, rest, rfl, hopens⟩
  rcases opens_like_integer hs hopens with ⟨hkeyword, hcharacter, hhandle⟩
  simp only [read, hkeyword, hcharacter, hhandle, h]

end Reading

end Literal

end PrintBridge
