import PrintBridge.Proofs.Literal.Forms
import PrintBridge.Proofs.Number.Digits

/-!
# Texts of Values Read Back

The text of a value is a literal for that value.

A value shows its kind in its text, and a reader takes the kind from the ends of
a literal. They agree on which end means what, so every recogniser before the
right one lets the text pass, and the right one undoes what was written: digits
are read as their number, a character is the only one between its quotes, and
the short escapes of a quoted text are expanded to the characters that they
stand for.

Two values are left out for cause. The magnitude of the least long is no long, so
its text is not read as an integer. And a character that a text shows by its
code point is not known to the expansion of escapes, which leaves the digits
standing. Doubles are a matter of rounding and not looked at here.

A single quote or a backslash between single quotes is not escaped. It is read
back all the same, since what is between the quotes at the ends is one
character, and one backslash alone stands for itself.

## Main definitions

* `Text.Plain`: A character that is quoted without its code point.
* `Value.Readable`: A value whose text is a literal for it.

## Theorems

* `expandChars_quoteChar`, `expandChars_flatMap_quoteChar`: Expansion undoes
  short escapes.
* `integer?_repr`: An integer is read as itself.
* `read_of_doubleQuoted`, `read_of_singleQuoted`: What stands between quotes.
* `read_char`, `read_int`, `read_long`, `read_string`, `read_object`: The text of
  a value of each kind.
* `read_text`: The text of a value is read as the value.
-/

namespace PrintBridge

namespace Text

/-- A character that a quoted text gives by itself or by a short escape. -/
def Plain (c : Char) : Prop := (shortEscape? c).isSome = true ∨ showsItself c = true

instance (c : Char) : Decidable (Plain c) :=
  inferInstanceAs (Decidable ((shortEscape? c).isSome = true ∨ showsItself c = true))

/-- The visible characters of ASCII are plain, and so is the space. -/
theorem plain_ascii (n : Fin 128) (h : 32 ≤ n.val ∧ n.val ≤ 126) : Plain (Char.ofNat n) :=
  .inr ((showsItself_ascii_iff n).2 h)

theorem expanded?_of_shortEscape? {c e : Char} (h : shortEscape? c = some e) :
    expanded? e = some c := by
  unfold shortEscape? at h
  split at h <;> cases h <;> rfl

theorem expandChars_cons {c : Char} (hc : c ≠ '\\') (rest : List Char) :
    expandChars (c :: rest) = c :: expandChars rest := by
  rw [expandChars]
  intro d more heq
  exact absurd heq hc

theorem expandChars_singleton (c : Char) : expandChars [c] = [c] := by
  rw [expandChars, expandChars]
  intro d more _ heq
  exact absurd heq (List.cons_ne_nil _ _).symm

/-- What a plain character is quoted as stands for the character. -/
theorem expandChars_quoteChar {c : Char} (h : Plain c) (rest : List Char) :
    expandChars (quoteChar c ++ rest) = c :: expandChars rest := by
  rcases hshort : shortEscape? c with _ | e
  · have hshows : showsItself c = true := by
      rcases h with hsome | hshows
      · rw [hshort] at hsome
        exact absurd hsome Bool.false_ne_true
      · exact hshows
    have hc : c ≠ '\\' := by
      rintro rfl
      exact absurd hshort (by decide)
    simp only [quoteChar, hshort, hshows, if_true]
    exact expandChars_cons hc rest
  · simp only [quoteChar, hshort, List.cons_append, List.nil_append, expandChars, expandUnit,
      expanded?_of_shortEscape? hshort]

/-- Expansion undoes the quoting of plain characters. -/
theorem expandChars_flatMap_quoteChar {cs : List Char} (h : ∀ c ∈ cs, Plain c) :
    expandChars (cs.flatMap quoteChar) = cs := by
  induction cs with
  | nil => rfl
  | cons c cs ih =>
      rw [List.flatMap_cons, expandChars_quoteChar (h c List.mem_cons_self),
        ih fun d hd => h d (List.mem_cons_of_mem _ hd)]

end Text

/-- A value whose text is a literal for it: any but a double, the least long, and
    a text with characters that are shown by their code points. -/
def Value.Readable : Value → Prop
  | .double _ => False
  | .long n => Int64.minValue < n
  | .string s => ∀ c ∈ s.toList, Text.Plain c
  | _ => True

instance (v : Value) : Decidable v.Readable :=
  match v with
  | .double _ => inferInstanceAs (Decidable False)
  | .long n => inferInstanceAs (Decidable (Int64.minValue < n))
  | .string s => inferInstanceAs (Decidable (∀ c ∈ s.toList, Text.Plain c))
  | .null | .bool _ | .char _ | .int _ | .object _ => inferInstanceAs (Decidable True)

namespace Literal

theorem enclosed?_append (quote : Char) (inner : List Char) :
    enclosed? quote (quote :: (inner ++ [quote])) = some inner := by
  simp only [enclosed?, List.getLast?_append, List.getLast?_singleton, Option.some_or, and_self,
    if_true, List.dropLast_concat]

section Integers

variable {n : Int}

/-- An integer is written with a minus sign if it is negative, and the digits of
    its magnitude. -/
theorem toList_repr (n : Int) :
    n.repr.toList = (if n < 0 then ['-'] else []) ++ Nat.toDigits 10 n.natAbs := by
  rw [Int.repr_eq_if]
  by_cases hn : n < 0
  · have hmagnitude : (-n).toNat = n.natAbs := by omega
    rw [if_pos hn, if_neg (Int.not_le.2 hn), String.toList_append, Nat.toList_repr, hmagnitude]
    rfl
  · have hmagnitude : n.toNat = n.natAbs := by omega
    rw [if_neg hn, if_pos (Int.not_lt.1 hn), Nat.toList_repr, hmagnitude]
    rfl

theorem isDigit_of_mem_toDigits {m : Nat} {d : Char} (hd : d ∈ Nat.toDigits 10 m) :
    d.isDigit = true :=
  Nat.isDigit_of_mem_toDigits (Nat.succ_pos 9) (Nat.le_refl 10) hd

/-- There is a first digit. -/
theorem toDigits_opens (m : Nat) :
    ∃ c rest, Nat.toDigits 10 m = c :: rest ∧ c.isDigit = true := by
  rcases hdigits : Nat.toDigits 10 m with _ | ⟨c, rest⟩
  · exact absurd hdigits Nat.toDigits_ne_nil
  · exact ⟨c, rest, rfl, isDigit_of_mem_toDigits (hdigits ▸ List.mem_cons_self)⟩

/-- Decimal digits are read as the magnitude that they denote, if a long holds
    it. -/
theorem magnitude?_toDigits {m : Nat} (hm : m < twoTo 63) :
    magnitude? (Nat.toDigits 10 m) = some m := by
  have hhexadecimal : hexadecimal? (Nat.toDigits 10 m) = none :=
    hexadecimal?_eq_none fun d hd => isDigit_of_mem_toDigits hd
  rw [magnitude?, hhexadecimal]
  exact Option.filter_eq_some_iff.2
    ⟨Numeral.natural?_toDigits (by decide) (by decide) m, decide_eq_true hm⟩

/-- An integer is read as itself, if a long holds its magnitude. -/
theorem integer?_repr (hn : n.natAbs < twoTo 63) : integer? n.repr.toList = some n := by
  rw [toList_repr]
  by_cases hneg : n < 0
  · rw [if_pos hneg]
    change (magnitude? (Nat.toDigits 10 n.natAbs)).map (fun m : Nat => -(m : Int)) = some n
    rw [magnitude?_toDigits hn, Option.map_some, Option.some.injEq]
    omega
  · rcases toDigits_opens n.natAbs with ⟨c, rest, hdigits, hdigit⟩
    have hc : c ≠ '-' := by
      rintro rfl
      exact absurd hdigit (by decide)
    rw [if_neg hneg, List.nil_append, hdigits, integer?_of_unsigned hc, ← hdigits,
      magnitude?_toDigits hn, Option.map_some, Option.some.injEq, Int.ofNat_eq_natCast]
    omega

/-- An integer opens with a sign or a digit. -/
theorem repr_opens (n : Int) :
    ∃ c rest, n.repr.toList = c :: rest ∧ (c = '-' ∨ c.isDigit = true) := by
  rw [toList_repr]
  by_cases hneg : n < 0
  · rw [if_pos hneg]
    exact ⟨_, _, rfl, .inl rfl⟩
  · rcases toDigits_opens n.natAbs with ⟨c, rest, hdigits, hdigit⟩
    rw [if_neg hneg, List.nil_append]
    exact ⟨c, rest, hdigits, .inr hdigit⟩

/-- An integer ends in a digit. -/
theorem repr_ends (n : Int) :
    ∃ c, n.repr.toList.getLast? = some c ∧ c.isDigit = true := by
  have hne : Nat.toDigits 10 n.natAbs ≠ [] := Nat.toDigits_ne_nil
  refine ⟨(Nat.toDigits 10 n.natAbs).getLast hne, ?_, ?_⟩
  · rw [toList_repr, List.getLast?_append, List.getLast?_eq_some_getLast hne, Option.some_or]
  · exact isDigit_of_mem_toDigits (List.getLast_mem hne)

/-- What opens like an integer is no keyword, no character and no handle. -/
theorem opens_like_integer {s : String} {c : Char} {rest : List Char} (hs : s.toList = c :: rest)
    (hopens : c = '-' ∨ c.isDigit = true) :
    keyword? s = none ∧ character? s.toList = none ∧ handle? s.toList = none := by
  have hne : ∀ d : Char, d ≠ '-' → d.isDigit = false → c ≠ d := by
    rintro d hsign hdigit rfl
    exact hopens.elim hsign (ne_true_of_eq_false hdigit)
  refine ⟨keyword?_eq_none hs ?_ ?_ ?_, ?_, ?_⟩
  · exact hne 'n' (by decide) (by decide)
  · exact hne 't' (by decide) (by decide)
  · exact hne 'f' (by decide) (by decide)
  · rw [hs]
    exact character?_eq_none (hne '\'' (by decide) (by decide))
  · rw [hs]
    exact handle?_eq_none (hne '@' (by decide) (by decide))

end Integers

/-- Between double quotes stands text, whatever it looks like. -/
theorem read_of_doubleQuoted {s : String} {inner : List Char}
    (hs : s.toList = '"' :: (inner ++ ['"'])) :
    read s = .string (String.ofList (Text.expandChars inner)) := by
  have hkeyword : keyword? s = none := keyword?_eq_none hs (by decide) (by decide) (by decide)
  have hlast : s.toList.getLast? = some '"' := by
    rw [hs, ← List.cons_append, List.getLast?_concat]
  have hlong := longInteger?_eq_none hlast (by decide) (by decide)
  rw [hs] at hlong
  -- No other form opens with a double quote.
  simp only [read, hkeyword, hs, character?_eq_none (c := '"') (by decide),
    handle?_eq_none (c := '"') (by decide), hlong,
    integer?_eq_none (c := '"') (by decide) (by decide),
    fraction?_eq_none (c := '"') (by decide) (by decide) (by decide), readText, enclosed?_append,
    Option.getD_some]

/-- Between single quotes stands a character, if expansion leaves only one. -/
theorem read_of_singleQuoted {s : String} {inner : List Char} {c : Char}
    (hs : s.toList = '\'' :: (inner ++ ['\''])) (hc : Text.expandChars inner = [c]) :
    read s = .char c := by
  have hkeyword : keyword? s = none := keyword?_eq_none hs (by decide) (by decide) (by decide)
  have hcharacter : character? s.toList = some c := by
    rw [hs, character?, enclosed?_append, Option.bind_some, hc]
  simp only [read, hkeyword, hcharacter]

/-- A character is the only one between its quotes, whichever it is. -/
theorem read_char (c : Char) : read (Value.char c).text = .char c := by
  have hlist : (Value.char c).text.toList = '\'' :: ([c] ++ ['\'']) := String.toList_ofList
  exact read_of_singleQuoted hlist (Text.expandChars_singleton c)

theorem read_int (i : Int32) : read (Value.int i).text = .int i := by
  have hlist : (Value.int i).text.toList = i.toInt.repr.toList := rfl
  have hlow : -2 ^ 31 ≤ i.toInt := i.le_toInt
  have hhigh : i.toInt < 2 ^ 31 := i.toInt_lt
  rcases repr_opens i.toInt with ⟨c, rest, hs, hopens⟩
  rcases opens_like_integer (hlist.trans hs) hopens with ⟨hkeyword, hcharacter, hhandle⟩
  -- The last digit is no suffix, so the recogniser of longs lets the text pass.
  rcases repr_ends i.toInt with ⟨d, hlast, hd⟩
  have hlong : longInteger? (Value.int i).text.toList = none := by
    refine longInteger?_eq_none (hlist ▸ hlast) ?_ ?_
    · rintro rfl
      exact absurd hd (by decide)
    · rintro rfl
      exact absurd hd (by decide)
  have hinteger : integer? (Value.int i).text.toList = some i.toInt := by
    have hpower : twoTo 63 = 2 ^ 63 := rfl
    exact integer?_repr (by omega)
  have hrange : -(twoTo 31 : Int) ≤ i.toInt ∧ i.toInt < twoTo 31 := by
    have hpower : twoTo 31 = 2 ^ 31 := rfl
    omega
  simp only [read, hkeyword, hcharacter, hhandle, hlong, hinteger, ofInteger, hrange, and_self,
    if_true, Int32.ofInt_toInt]

/-- A long is read back from its digits, unless it is the least. -/
theorem read_long {l : Int64} (h : Int64.minValue < l) : read (Value.long l).text = .long l := by
  have hlist : (Value.long l).text.toList = l.toInt.repr.toList ++ ['L'] := String.toList_append
  have hlow : -2 ^ 63 < l.toInt := Int64.lt_iff_toInt_lt.1 h
  have hhigh : l.toInt < 2 ^ 63 := l.toInt_lt
  rcases repr_opens l.toInt with ⟨c, rest, hs, hopens⟩
  have hs' : (Value.long l).text.toList = c :: (rest ++ ['L']) := by
    rw [hlist, hs, List.cons_append]
  rcases opens_like_integer hs' hopens with ⟨hkeyword, hcharacter, hhandle⟩
  have hlong : longInteger? (Value.long l).text.toList = some l.toInt := by
    have hpower : twoTo 63 = 2 ^ 63 := rfl
    rw [hlist, longInteger?, List.getLast?_concat, List.dropLast_concat]
    exact integer?_repr (by omega)
  simp only [read, hkeyword, hcharacter, hhandle, hlong, Int64.ofInt_toInt]

/-- A quoted text is read back, since expansion undoes the quoting. -/
theorem read_string {s : String} (h : ∀ c ∈ s.toList, Text.Plain c) :
    read (Value.string s).text = .string s := by
  have hlist : (Value.string s).text.toList = '"' :: (s.toList.flatMap Text.quoteChar ++ ['"']) :=
    String.toList_ofList
  rw [read_of_doubleQuoted hlist, Text.expandChars_flatMap_quoteChar h, String.ofList_toList]

/-- An address is read back from its hexadecimal digits. -/
theorem read_object (a : UInt64) : read (Value.object a).text = .object a := by
  have hlist : (Value.object a).text.toList = '@' :: '0' :: 'x' :: Nat.toDigits 16 a.toNat :=
    String.toList_append.trans (congrArg (['@', '0', 'x'] ++ ·) String.toList_ofList)
  have hkeyword : keyword? (Value.object a).text = none :=
    keyword?_eq_none hlist (by decide) (by decide) (by decide)
  have hdigits : Numeral.plusNatural? 16 (Nat.toDigits 16 a.toNat) = some a.toNat :=
    Numeral.plusNatural?_of_natural? (Numeral.natural?_toDigits (by decide) (by decide) a.toNat)
  have hrange : a.toNat < twoTo 64 := a.toNat_lt
  have hhandle : handle? ('@' :: '0' :: 'x' :: Nat.toDigits 16 a.toNat) = some a.toNat := by
    simp only [handle?, hexadecimal?, true_or, if_true, hdigits, Option.filter_some, hrange,
      decide_true]
  simp only [read, hkeyword, hlist, character?_eq_none (c := '@') (by decide), hhandle,
    UInt64.ofNat_toNat]

/-- The text of a value is read as the value. -/
theorem read_text {v : Value} (h : v.Readable) : read v.text = v := by
  cases v with
  | null => rfl
  | bool truth => cases truth <;> rfl
  | char c => exact read_char c
  | int i => exact read_int i
  | long l => exact read_long h
  | double d => exact h.elim
  | string s => exact read_string h
  | object a => exact read_object a

theorem read_text_quoted :
    (Value.string "\"A'\\\x00\n").Readable ∧
      read (Value.string "\"A'\\\x00\n").text = .string "\"A'\\\x00\n" := by
  have hlist : "\"A'\\\x00\n".toList = ['"', 'A', '\'', '\\', '\x00', '\n'] :=
    String.toList_ofList
  have hreadable : (Value.string "\"A'\\\x00\n").Readable := by
    intro c hc
    simp only [hlist, List.mem_cons, List.not_mem_nil, or_false] at hc
    rcases hc with rfl | rfl | rfl | rfl | rfl | rfl
    · exact .inl rfl
    · exact Text.plain_ascii 65 (by decide)
    · exact Text.plain_ascii 39 (by decide)
    · exact .inl rfl
    · exact .inl rfl
    · exact .inl rfl
  exact ⟨hreadable, read_text hreadable⟩

-- The least long is left out for cause.
example : longInteger? (Value.long Int64.minValue).text.toList = none := by decide +kernel

end Literal

end PrintBridge
