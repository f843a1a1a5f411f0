import PrintBridge.Proofs.Literal.Spelling

/-!
# Literals of Integers

Integers are read as the numbers that their spellings denote, and handles too.

There are two directions. Every spelling of a long is read as that long, or as an
int where it has no suffix and an int holds it. And whatever is read as an integer
or a handle is a spelling of it. Both have one exception, and neither is meant by
the grammar.

The least long is not read. Its magnitude stands before the sign is looked at, and
no long holds it. So its digits go on to the recogniser of fractions, with a suffix
they are text, and its own text is not read back.

A plus sign behind the mark of hexadecimal digits is read over. The test for signs
looks at what opens the digits and their mark, and the reader behind it takes one
more. A sign at any other place but the front keeps a text from being an integer or
a handle.

## Main definitions

* `Faithful`: Texts that are read as an integer, with and without a suffix.

## Theorems

* `ofInteger_toInt32`, `ofInteger_toInt64`: Which kind an integer gets.
* `sign_of_accepted`, `sign_of_signed`: Where a sign can stand.
* `faithful_of_spelled`: A spelling is read as what it denotes.
* `read_kind_of_least`: Of the least long no spelling is.
* `read_spelled`: Spellings of longs, and texts that are read back.
* `read_integral`: Only spellings are read as integers and handles.
-/

namespace PrintBridge

namespace Literal

variable {cs before after : List Char} {m : Nat} {n : Int} {s : String} {sign : Char}

section Kinds

/-- An integer that an int holds is an int. -/
theorem ofInteger_toInt32 (i : Int32) : ofInteger i.toInt = .int i := by
  have hrange : -(twoTo 31 : Int) ≤ i.toInt ∧ i.toInt < twoTo 31 := by
    have hpower : twoTo 31 = 2 ^ 31 := rfl
    have hlow : -2 ^ 31 ≤ i.toInt := i.le_toInt
    have hhigh : i.toInt < 2 ^ 31 := i.toInt_lt
    omega
  rw [ofInteger, if_pos hrange, Int32.ofInt_toInt]

/-- Any other integer is a long. -/
theorem ofInteger_toInt64 (l : Int64) (h : ∀ i : Int32, i.toInt ≠ l.toInt) :
    ofInteger l.toInt = .long l := by
  have hrange : ¬ (-(twoTo 31 : Int) ≤ l.toInt ∧ l.toInt < twoTo 31) := by
    rintro ⟨hlow, hhigh⟩
    have hpower : twoTo 31 = 2 ^ 31 := rfl
    exact h _ (Int32.toInt_ofInt_of_le (by omega) (by omega))
  rw [ofInteger, if_neg hrange, Int64.ofInt_toInt]

/-- A long holds the magnitude of every long but the least. -/
theorem natAbs_toInt_lt {l : Int64} (h : l ≠ Int64.minValue) : l.toInt.natAbs < twoTo 63 := by
  have hpower : twoTo 63 = 2 ^ 63 := rfl
  have hleast : Int64.minValue.toInt = -2 ^ 63 := rfl
  have hne : l.toInt ≠ Int64.minValue.toInt := fun heq => h (Int64.toInt_inj.1 heq)
  have hlow : -2 ^ 63 ≤ l.toInt := l.le_toInt
  have hhigh : l.toInt < 2 ^ 63 := l.toInt_lt
  omega

/-- What is read as an integer comes back from the int or the long that it
    becomes. -/
theorem toInt_of_ofInteger (h : integer? cs = some n) :
    (∀ i, ofInteger n = .int i → i.toInt = n) ∧ ∀ l, ofInteger n = .long l → l.toInt = n := by
  have hrange := integer?_range h
  have hint : twoTo 31 = 2 ^ 31 := rfl
  have hlong : twoTo 63 = 2 ^ 63 := rfl
  unfold ofInteger
  split
  · refine ⟨fun i hi => ?_, fun l hl => absurd hl (by simp only [reduceCtorEq,
      not_false_eq_true])⟩
    rw [← Value.int.inj hi]
    exact Int32.toInt_ofInt_of_le (by omega) (by omega)
  · refine ⟨fun i hi => absurd hi (by simp only [reduceCtorEq, not_false_eq_true]),
      fun l hl => ?_⟩
    rw [← Value.long.inj hl]
    exact Int64.toInt_ofInt_of_le (by omega) (by omega)

end Kinds

section Signs

theorem hexDigit?_sign (h : sign = '+' ∨ sign = '-') : Numeral.hexDigit? sign = none := by
  rcases h with rfl | rfl
  · decide
  · decide

/-- A sign does not stand before the mark of hexadecimal digits is over. -/
theorem sign_behind_mark {mark : Char} {digits : List Char} (hmark : mark = 'x' ∨ mark = 'X')
    (hsign : sign = '+' ∨ sign = '-') (h : '0' :: mark :: digits = before ++ sign :: after) :
    ∃ behind, before = '0' :: mark :: behind ∧ digits = behind ++ sign :: after := by
  rcases before with _ | ⟨a, _ | ⟨b, behind⟩⟩
  · have hzero : '0' = sign := (List.cons.inj h).1
    rcases hsign with rfl | rfl <;> exact absurd hzero (by decide)
  · have heq : mark = sign := (List.cons.inj (List.cons.inj h).2).1
    rcases hsign with rfl | rfl <;> rcases hmark with rfl | rfl <;> exact absurd heq (by decide)
  · have h' := List.cons.inj h
    have h'' := List.cons.inj h'.2
    exact ⟨behind, by rw [h'.1, h''.1], h''.2⟩

/-- The only sign that a magnitude can have is a plus sign behind a mark. -/
theorem sign_of_accepted (h : Accepted cs m) (hsign : sign = '+' ∨ sign = '-')
    (hcs : cs = before ++ sign :: after) :
    sign = '+' ∧ ∃ mark, (mark = 'x' ∨ mark = 'X') ∧ before = ['0', mark] := by
  have hmem : ∀ front : List Char, sign ∈ front ++ sign :: after :=
    fun front => List.mem_append_right _ List.mem_cons_self
  have hnone := hexDigit?_sign hsign
  rcases h with (hdigits | ⟨hmark, hdigits⟩) | ⟨hmark, hdigits⟩
  · exact absurd (hcs ▸ hmem before) (hdigits.not_mem (by decide) hnone)
  · rcases sign_behind_mark hmark hsign hcs with ⟨behind, _, rfl⟩
    exact absurd (hmem behind) (hdigits.not_mem (by decide) hnone)
  · rcases sign_behind_mark hmark hsign hcs with ⟨behind, rfl, hbehind⟩
    rcases behind with _ | ⟨c, behind⟩
    · exact ⟨(List.cons.inj hbehind).1.symm, _, hmark, rfl⟩
    · rw [(List.cons.inj hbehind).2] at hdigits
      exact absurd (hmem behind) (hdigits.not_mem (by decide) hnone)

/-- An integer can have a minus sign in front besides. -/
theorem sign_of_signed (h : Signed Accepted cs n) (hsign : sign = '+' ∨ sign = '-')
    (hcs : cs = before ++ sign :: after) :
    (sign = '-' ∧ before = []) ∨
      (sign = '+' ∧ ∃ mark, (mark = 'x' ∨ mark = 'X') ∧
        (before = ['0', mark] ∨ before = ['-', '0', mark])) := by
  rcases h with h | h
  · rcases sign_of_accepted h hsign hcs with ⟨hplus, mark, hmark, hbefore⟩
    exact .inr ⟨hplus, mark, hmark, .inl hbefore⟩
  · rcases before with _ | ⟨c, before⟩
    · exact .inl ⟨(List.cons.inj hcs).1.symm, rfl⟩
    · have hinj := List.cons.inj hcs
      rcases sign_of_accepted h hsign hinj.2 with ⟨hplus, mark, hmark, rfl⟩
      rw [← hinj.1]
      exact .inr ⟨hplus, mark, hmark, .inr rfl⟩

/-- The suffix of a long is no sign, so a sign in a long stands in its integer. -/
theorem sign_before_suffix {front : List Char} {suffix : Char}
    (hsuffix : suffix = 'L' ∨ suffix = 'l') (hsign : sign = '+' ∨ sign = '-')
    (h : front ++ [suffix] = before ++ sign :: after) :
    ∃ more, front = before ++ sign :: more := by
  rcases List.eq_nil_or_concat after with rfl | ⟨more, last, rfl⟩
  · have heq : suffix = sign := (List.cons.inj (List.append_inj' h rfl).2).1
    rcases hsuffix with rfl | rfl <;> rcases hsign with rfl | rfl <;> exact absurd heq (by decide)
  · have hconcat : front ++ [suffix] = (before ++ sign :: more) ++ [last] := by
      rw [h, List.append_assoc, List.cons_append, List.concat_eq_append]
    exact ⟨more, (List.append_inj' hconcat rfl).1⟩

end Signs

section Values

/-- Keywords are neither integers nor handles. -/
theorem keyword?_kind {v : Value} (h : keyword? s = some v) :
    v.kind = .null ∨ v.kind = .bool := by
  unfold keyword? at h
  split at h
  · exact .inl (Option.some.inj h ▸ rfl)
  · split at h
    · exact .inr (Option.some.inj h ▸ rfl)
    · split at h
      · exact .inr (Option.some.inj h ▸ rfl)
      · exact absurd h (by simp only [reduceCtorEq, not_false_eq_true])

/-- What is read as an int is a spelling of it. -/
theorem spelled_of_read_int {i : Int32} (h : read s = .int i) :
    Signed Accepted s.toList i.toInt := by
  have hby := read_by s
  rw [h] at hby
  cases hby with
  | keyword hk => exact absurd (keyword?_kind hk) (by simp only [Value.kind, reduceCtorEq, or_self,
      not_false_eq_true])
  | integer hn hv =>
      rw [(toInt_of_ofInteger hn).1 i hv]
      exact signed_of_integer? hn

/-- What is read as a long is a spelling of it, with or without a suffix. -/
theorem spelled_of_read_long {l : Int64} (h : read s = .long l) :
    Signed Accepted s.toList l.toInt ∨
      ∃ front suffix, s.toList = front ++ [suffix] ∧ (suffix = 'L' ∨ suffix = 'l') ∧
        Signed Accepted front l.toInt := by
  have hby := read_by s
  rw [h] at hby
  cases hby with
  | keyword hk => exact absurd (keyword?_kind hk) (by simp only [Value.kind, reduceCtorEq, or_self,
      not_false_eq_true])
  | long hn =>
      rcases suffixed_of_longInteger? hn with ⟨front, suffix, hs, hsuffix, hfront⟩
      have hrange := integer?_range hfront
      have hpower : twoTo 63 = 2 ^ 63 := rfl
      rw [Int64.toInt_ofInt_of_le (by omega) (by omega)]
      exact .inr ⟨front, suffix, hs, hsuffix, signed_of_integer? hfront⟩
  | integer hn hv =>
      rw [(toInt_of_ofInteger hn).2 l hv]
      exact .inl (signed_of_integer? hn)

/-- What is read as a handle is its mark and hexadecimal digits for the address. -/
theorem spelled_of_read_object {a : UInt64} (h : read s = .object a) :
    ∃ rest, s.toList = '@' :: rest ∧
      (Hexadecimal rest a.toNat ∨ PlusHexadecimal rest a.toNat) := by
  have hby := read_by s
  rw [h] at hby
  cases hby with
  | keyword hk => exact absurd (keyword?_kind hk) (by simp only [Value.kind, reduceCtorEq, or_self,
      not_false_eq_true])
  | handle hhandle =>
      unfold handle? at hhandle
      split at hhandle
      · rename_i rest hs
        have hlt := hexadecimal?_lt hhandle
        rw [UInt64.toNat_ofNat_of_lt' hlt]
        exact ⟨rest, hs, spelled_of_hexadecimal? hhandle⟩
      · exact absurd hhandle (by simp only [reduceCtorEq, not_false_eq_true])
  | integer _ hv =>
      unfold ofInteger at hv
      split at hv
      · exact absurd hv (by simp only [reduceCtorEq, not_false_eq_true])
      · exact absurd hv (by simp only [reduceCtorEq, not_false_eq_true])

/-- What opens like an integer and is none is a fraction or text. -/
theorem read_kind_of_no_integer {c : Char} {rest : List Char} (hs : s.toList = c :: rest)
    (hopens : c = '-' ∨ c.isDigit = true) (hlong : longInteger? s.toList = none)
    (hinteger : integer? s.toList = none) : (read s).kind = .double ∨ (read s).kind = .string := by
  rcases opens_like_integer hs hopens with ⟨hkeyword, hcharacter, hhandle⟩
  simp only [read, hkeyword, hcharacter, hhandle, hlong, hinteger]
  split
  · exact .inl rfl
  · exact .inr rfl

end Values

/-- A text that is read as the integer of a long: as an int where one has its value and as
    the long otherwise. With a suffix it is read as the long. -/
structure Faithful (s : String) (l : Int64) : Prop where
  int : ∀ i : Int32, i.toInt = l.toInt → read s = .int i
  long : (∀ i : Int32, i.toInt ≠ l.toInt) → read s = .long l
  suffixed : ∀ suffix, suffix = 'L' ∨ suffix = 'l' → read (s.push suffix) = .long l

theorem faithful_of_spelled {l : Int64} (hspelled : Signed Magnitude s.toList l.toInt)
    (hleast : l ≠ Int64.minValue) : Faithful s l := by
  have hinteger : integer? s.toList = some l.toInt := by
    rw [integer?_of_signed (hspelled.mono fun _ _ => .spelled), Option.filter_some,
      if_pos (decide_eq_true (natAbs_toInt_lt hleast))]
  refine ⟨fun i hi => ?_, fun hlarge => ?_, fun suffix hsuffix => ?_⟩
  · rw [read_of_integer? hinteger, ← hi, ofInteger_toInt32]
  · rw [read_of_integer? hinteger, ofInteger_toInt64 l hlarge]
  · have hlong : longInteger? (s.push suffix).toList = some l.toInt := by
      rw [String.toList_push, longInteger?_concat s.toList hsuffix, hinteger]
    rw [read_of_longInteger? hlong, Int64.ofInt_toInt]

/-- A spelling of the least long is a fraction or text, also with a suffix. -/
theorem read_kind_of_least (hspelled : Signed Magnitude s.toList Int64.minValue.toInt) :
    ((read s).kind = .double ∨ (read s).kind = .string) ∧
      ∀ suffix, suffix = 'L' ∨ suffix = 'l' →
        (read (s.push suffix)).kind = .double ∨ (read (s.push suffix)).kind = .string := by
  have haccepted := hspelled.mono fun _ _ => Accepted.spelled
  have hinteger : integer? s.toList = none := by
    rw [integer?_of_signed haccepted]
    decide +kernel
  rcases haccepted.opens with ⟨c, rest, hs, hopens⟩
  refine ⟨read_kind_of_no_integer hs hopens (longInteger?_of_signed haccepted) hinteger,
    fun suffix hsuffix => ?_⟩
  have hpush : (s.push suffix).toList = s.toList ++ [suffix] := String.toList_push suffix
  have hcons : (s.push suffix).toList = c :: (rest ++ [suffix]) := by
    rw [hpush, hs, List.cons_append]
  refine read_kind_of_no_integer hcons hopens ?_ ?_
  · rw [hpush, longInteger?_concat s.toList hsuffix, hinteger]
  · -- The suffix is no digit, so no integer ends in it.
    refine Option.eq_none_iff_forall_ne_some.2 fun k hk => ?_
    refine (signed_of_integer? hk).getLast?_ne (hexDigit?_suffix hsuffix) ?_
    rw [hpush, List.getLast?_concat]

/-- Every spelling of a long is read as the integer that it is, and the text of the long is
    read back, unless it is the least one. That one is not read from any spelling. The text
    of an int is always read back. -/
theorem read_spelled (l : Int64) :
    (l ≠ Int64.minValue →
      (∀ s : String, Signed Magnitude s.toList l.toInt → Faithful s l) ∧
        read (Value.long l).text = .long l) ∧
      (l = Int64.minValue → ∀ s : String, Signed Magnitude s.toList l.toInt →
        ((read s).kind = .double ∨ (read s).kind = .string) ∧
          ∀ suffix, suffix = 'L' ∨ suffix = 'l' →
            (read (s.push suffix)).kind = .double ∨ (read (s.push suffix)).kind = .string) ∧
      ∀ i : Int32, read (Value.int i).text = .int i := by
  refine ⟨fun hleast => ⟨fun s hspelled => faithful_of_spelled hspelled hleast, ?_⟩,
    fun hleast s hspelled => ?_, read_int⟩
  · refine read_long (Int64.lt_iff_toInt_lt.2 ?_)
    have hpower : twoTo 63 = 2 ^ 63 := rfl
    have hlow := natAbs_toInt_lt hleast
    have hmin : Int64.minValue.toInt = -2 ^ 63 := rfl
    omega
  · subst hleast
    exact read_kind_of_least hspelled

theorem read_spelled_hexadecimal :
    Signed Magnitude "-0x00fF".toList (-255 : Int64).toInt ∧ read "-0x00fF" = .int (-255) ∧
      read "-0x00fFl" = .long (-255) := by
  have hdigits : Numeral.Denotes 16 ['0', '0', 'f', 'F'] 255 :=
    (Numeral.natural?_eq_some_iff (by decide)).1 (by decide)
  have hlist : "-0x00fF".toList = ['-', '0', 'x', '0', '0', 'f', 'F'] := String.toList_ofList
  have hspelled : Signed Magnitude "-0x00fF".toList (-255 : Int64).toInt := by
    have hmagnitude : Magnitude ['0', 'x', '0', '0', 'f', 'F'] 255 :=
      .hexadecimal (.marked (.inl rfl) hdigits)
    rw [hlist]
    exact .minus hmagnitude
  have hread := ((read_spelled (-255)).1 (by decide)).1 "-0x00fF" hspelled
  exact ⟨hspelled, hread.int (-255) (by decide), hread.suffixed 'l' (.inr rfl)⟩

/-- The least long is spelled in digits like any other, and neither the digits nor
    its own text are read as it. -/
theorem read_least_long :
    Signed Magnitude "-9223372036854775808".toList Int64.minValue.toInt ∧
      read "-9223372036854775808" = .double ⟨0xc3e0000000000000⟩ ∧
      read (Value.long Int64.minValue).text = .string "-9223372036854775808L" := by
  refine ⟨?_, by decide +kernel, by decide +kernel⟩
  have hmagnitude : Magnitude "9223372036854775808".toList (2 ^ 63) :=
    .decimal ((Numeral.natural?_eq_some_iff (by decide)).1 (by decide +kernel))
  have hlist : "-9223372036854775808".toList = '-' :: "9223372036854775808".toList := by
    decide +kernel
  rw [hlist]
  exact .minus hmagnitude

/-- What is read as an int or a long is a spelling of it, where only a long has a
    suffix, and what is read as a handle is the mark of handles and hexadecimal
    digits for the address. The one sign that can stand elsewhere than in front is a
    plus sign between the mark of hexadecimal digits and the digits. -/
theorem read_integral (s : String) :
    (∀ i, read s = .int i → Signed Accepted s.toList i.toInt) ∧
      (∀ l, read s = .long l → Signed Accepted s.toList l.toInt ∨
        ∃ front suffix, s.toList = front ++ [suffix] ∧ (suffix = 'L' ∨ suffix = 'l') ∧
          Signed Accepted front l.toInt) ∧
      (∀ a, read s = .object a → ∃ rest, s.toList = '@' :: rest ∧
        (Hexadecimal rest a.toNat ∨ PlusHexadecimal rest a.toNat)) ∧
      ∀ before sign after, s.toList = before ++ sign :: after → (sign = '+' ∨ sign = '-') →
        ((read s).kind = .int ∨ (read s).kind = .long ∨ (read s).kind = .object) →
          (sign = '-' ∧ before = []) ∨
            (sign = '+' ∧ ∃ mark, (mark = 'x' ∨ mark = 'X') ∧
              (before = ['0', mark] ∨ before = ['-', '0', mark] ∨ before = ['@', '0', mark])) := by
  refine ⟨fun i => spelled_of_read_int, fun l => spelled_of_read_long,
    fun a => spelled_of_read_object, fun before sign after hs hsign hkind => ?_⟩
  -- A sign in the integer of an int or a long stands where the spelling lets it.
  have hinteger {cs more : List Char} {n : Int} (hsigned : Signed Accepted cs n)
      (hcs : cs = before ++ sign :: more) : (sign = '-' ∧ before = []) ∨
        (sign = '+' ∧ ∃ mark, (mark = 'x' ∨ mark = 'X') ∧
          (before = ['0', mark] ∨ before = ['-', '0', mark] ∨ before = ['@', '0', mark])) := by
    rcases sign_of_signed hsigned hsign hcs with hminus | ⟨hplus, mark, hmark, hbefore⟩
    · exact .inl hminus
    · exact .inr ⟨hplus, mark, hmark, hbefore.imp_right .inl⟩
  rcases hread : read s with _ | _ | _ | i | l | _ | _ | a
  case int => exact hinteger (spelled_of_read_int hread) hs
  case long =>
    rcases spelled_of_read_long hread with hsigned | ⟨front, suffix, hfront, hsuffix, hsigned⟩
    · exact hinteger hsigned hs
    · rcases sign_before_suffix hsuffix hsign (hfront.symm.trans hs) with ⟨more, hcs⟩
      exact hinteger hsigned hcs
  case object =>
    rcases spelled_of_read_object hread with ⟨rest, hrest, hspelled⟩
    have haccepted : Accepted rest a.toNat := by
      rcases hspelled with hspelled | hspelled
      · exact .spelled (.hexadecimal hspelled)
      · exact .plus hspelled
    rcases before with _ | ⟨c, before⟩
    · have hmark := (List.cons.inj (hrest.symm.trans hs)).1
      rcases hsign with rfl | rfl <;> exact absurd hmark (by decide)
    · have hinj := List.cons.inj (hrest.symm.trans hs)
      rcases sign_of_accepted haccepted hsign hinj.2 with ⟨hplus, mark, hmark, rfl⟩
      rw [← hinj.1]
      exact .inr ⟨hplus, mark, hmark, .inr (.inr rfl)⟩
  all_goals
    rw [hread] at hkind
    exact absurd hkind (by simp only [Value.kind, reduceCtorEq, or_self, not_false_eq_true])

theorem read_integral_plus :
    read "@0X+1F" = .object 31 ∧ ∃ rest, "@0X+1F".toList = '@' :: rest ∧
      (Hexadecimal rest 31 ∨ PlusHexadecimal rest 31) :=
  have hread : read "@0X+1F" = .object 31 := by decide +kernel
  ⟨hread, (read_integral "@0X+1F").2.2.1 31 hread⟩

/-- A plus sign behind the mark is read over, though no spelling has one. -/
theorem read_plus_behind_mark :
    read "0x+5" = .int 5 ∧ '+' ∈ "0x+5".toList ∧ ∀ n, ¬ Signed Magnitude "0x+5".toList n := by
  have hlist : "0x+5".toList = ['0', 'x', '+', '5'] := String.toList_ofList
  refine ⟨by decide +kernel, by rw [hlist]; decide, fun n hspelled => ?_⟩
  rw [hlist] at hspelled
  rcases hspelled with (hdigits | ⟨_, hdigits⟩) | _
  · exact hdigits.not_mem (by decide) (c := 'x') (by decide) (by decide)
  · exact hdigits.not_mem (by decide) (c := '+') (by decide) (by decide)

end Literal

end PrintBridge
