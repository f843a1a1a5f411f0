import Mathlib.Data.List.TakeWhile
import PrintBridge.Proofs.Literal.Spelling

/-!
# Order of Recognisers

The order in which the recognisers of literals are tried, and how little hangs on it.

A recogniser takes a text whole, so both ends of the text have to fit it. The first
character tells keywords, characters, handles and numbers from each other. It cannot
tell the three forms of numbers apart, which all open with a sign, a digit or a point. Of
these only the long has its suffix at the other end: an integer ends in a digit, also
where it is hexadecimal, and in a decimal fraction there is nothing but digits, the
point, the mark of the exponent and signs. So a text belongs to one form at most, except that
a text of decimal digits is an integer and a fraction as well.

What comes out is then the same in every order that has integers before fractions. The
form that wins is the only one that takes the text, or it is the integer, and the one
other form that takes the text comes later.

## Main definitions

* `Form`, `Form.value?`: The forms of literals with their recognisers.
* `Mark`, `Form.mark`: What the first character of a form shows.
* `readIn`: The value of a literal, the forms tried in a given order.

## Theorems

* `Numeral.mem_of_double?`: The characters of a decimal fraction.
* `mark_of_value?`, `suffixed_iff_of_value?`: What is seen at the ends of a text.
* `eq_of_value?`: A text has one form, but for integers that are fractions.
* `readIn_of_value?`: The form that wins in an order.
* `read_in_any_order`: Forms exclude each other, and their order does not matter.
-/

namespace PrintBridge

namespace Numeral

variable {c : Char} {cs : List Char}

/-- The characters of a decimal fraction, apart from digits. -/
def punctuation : List Char := ['.', 'e', 'E', '+', '-']

/-- A character that occurs in decimal fractions. -/
def Fractional (c : Char) : Prop := c.isDigit = true ∨ c ∈ punctuation

theorem isDigit_of_natural? {n : Nat} (h : natural? 10 cs = some n) (hc : c ∈ cs) :
    c.isDigit = true :=
  ((natural?_eq_some_iff (by decide)).1 h).isDigit_of_mem hc

theorem mem_of_exponent? {e : Int} (h : exponent? cs = some e) (hc : c ∈ cs) : Fractional c := by
  unfold exponent? at h
  split at h
  · rcases Option.map_eq_some_iff.1 h with ⟨n, hn, -⟩
    rcases List.mem_cons.1 hc with rfl | hc
    · exact .inr (by decide)
    · exact .inl (isDigit_of_natural? hn hc)
  · rcases Option.map_eq_some_iff.1 h with ⟨n, hn, -⟩
    rcases (plusNatural?_eq_some_iff (by decide)).1 hn with hdigits | ⟨digits, rfl, hdigits⟩
    · exact .inl (hdigits.isDigit_of_mem hc)
    · rcases List.mem_cons.1 hc with rfl | hc
      · exact .inr (by decide)
      · exact .inl (hdigits.isDigit_of_mem hc)

/-- What stands behind the digits and the point is the exponent with its mark. -/
theorem mem_of_shift {rest : List Char} {e : Int}
    (h : (match rest with
      | [] => some 0
      | mark :: tail => if mark = 'e' ∨ mark = 'E' then exponent? tail else none) = some e)
    (hc : c ∈ rest) : Fractional c := by
  rcases rest with _ | ⟨mark, tail⟩
  · exact absurd hc List.not_mem_nil
  · simp only at h
    split at h
    · rename_i hmark
      rcases List.mem_cons.1 hc with rfl | hc
      · rcases hmark with rfl | rfl
        · exact .inr (by decide)
        · exact .inr (by decide)
      · exact mem_of_exponent? h hc
    · exact absurd h (by simp only [reduceCtorEq, not_false_eq_true])

/-- What stands behind the whole part is the point with its places, and a rest. -/
theorem mem_of_places {after : List Char} (hc : c ∈ after) :
    Fractional c ∨ c ∈ (match after with
      | '.' :: tail => (tail.takeWhile Char.isDigit, tail.dropWhile Char.isDigit)
      | tail => ([], tail)).2 := by
  split
  · rename_i tail
    rcases List.mem_cons.1 hc with rfl | htail
    · exact .inl (.inr (by decide))
    · rw [← List.takeWhile_append_dropWhile (p := Char.isDigit) (l := tail),
        List.mem_append] at htail
      exact htail.imp_left fun hplaces => .inl (List.mem_takeWhile_imp hplaces)
  · exact .inr hc

theorem mem_of_decimal? {d : Decimal} (h : decimal? cs = some d) (hc : c ∈ cs) :
    Fractional c := by
  rw [← List.takeWhile_append_dropWhile (p := Char.isDigit) (l := cs), List.mem_append] at hc
  simp only [decimal?, Option.bind_eq_some_iff, Option.map_eq_some_iff] at h
  rcases h with ⟨digits, -, exponent, hshift, -⟩
  rcases hc with hwhole | hafter
  · exact .inl (List.mem_takeWhile_imp hwhole)
  · rcases mem_of_places hafter with hfractional | hrest
    · exact hfractional
    · exact mem_of_shift hshift hrest

/-- A decimal fraction has no other characters. -/
theorem mem_of_double? {d : Double} (h : double? cs = some d) (hc : c ∈ cs) : Fractional c := by
  unfold double? at h
  split at h
  · rcases Option.map_eq_some_iff.1 h with ⟨x, hx, -⟩
    rcases List.mem_cons.1 hc with rfl | hc
    · exact .inr (by decide)
    · exact mem_of_decimal? hx hc
  · rcases Option.map_eq_some_iff.1 h with ⟨x, hx, -⟩
    rcases List.mem_cons.1 hc with rfl | hc
    · exact .inr (by decide)
    · exact mem_of_decimal? hx hc
  · rcases Option.map_eq_some_iff.1 h with ⟨x, hx, -⟩
    exact mem_of_decimal? hx hc

end Numeral

namespace Literal

/-- The forms of literals. Whatever has none of them is text. -/
inductive Form where
  | keyword
  | character
  | handle
  | long
  | integer
  | fraction
deriving DecidableEq

/-- The value that the recogniser of a form finds. -/
def Form.value? (s : String) : Form → Option Value
  | keyword => keyword? s
  | character => (character? s.toList).map .char
  | handle => (handle? s.toList).map fun a => .object (UInt64.ofNat a)
  | long => (longInteger? s.toList).map fun n => .long (Int64.ofInt n)
  | integer => (integer? s.toList).map ofInteger
  | fraction => (fraction? s.toList).map .double

/-- The value of a literal, where the forms are tried in the given order and text comes
    last. -/
def readIn (order : List Form) (s : String) : Value :=
  (order.findSome? (Form.value? s)).getD (.string (readText s.toList))

/-- What the first character of a form shows. -/
inductive Mark where
  | initial
  | quote
  | address
  | number
deriving DecidableEq

/-- The mark that a character is. -/
def Mark.ofChar? (c : Char) : Option Mark :=
  if c = '-' ∨ c = '.' ∨ c.isDigit = true then some number
  else if c ∈ ['n', 't', 'f'] then some initial
  else if c = '\'' then some quote
  else if c = '@' then some address
  else none

/-- The mark of a form. -/
def Form.mark : Form → Mark
  | keyword => .initial
  | character => .quote
  | handle => .address
  | long | integer | fraction => .number

variable {s : String} {f g : Form} {v w : Value}

theorem read_eq_readIn (s : String) :
    read s = readIn [.keyword, .character, .handle, .long, .integer, .fraction] s := by
  simp only [readIn, List.findSome?_cons, List.findSome?_nil, Form.value?, read]
  rcases keyword? s with _ | v
  · rcases character? s.toList with _ | c
    · rcases handle? s.toList with _ | a
      · rcases longInteger? s.toList with _ | n
        · rcases integer? s.toList with _ | n
          · rcases fraction? s.toList with _ | d
            · rfl
            · rfl
          · rfl
        · rfl
      · rfl
    · rfl
  · rfl

section Ends

theorem opens_of_fraction? {cs : List Char} {d : Double} (h : fraction? cs = some d) :
    ∃ c rest, cs = c :: rest ∧ (c = '-' ∨ c = '.' ∨ c.isDigit = true) := by
  have hnumeric : looksNumeric cs = true := by
    by_contra hnumeric
    rw [fraction?, if_neg hnumeric] at h
    exact absurd h (by simp only [reduceCtorEq, not_false_eq_true])
  rcases cs with _ | ⟨c, rest⟩
  · exact absurd hnumeric (by decide)
  · by_cases hsign : c = '-'
    · exact ⟨c, rest, rfl, .inl hsign⟩
    · have hbody : (c.isDigit || c == '.') = true := by
        unfold looksNumeric at hnumeric
        split at hnumeric
        · rename_i heq
          exact absurd (List.cons.inj heq).1 hsign
        · exact (Bool.and_eq_true_iff.1 hnumeric).1
      rw [Bool.or_eq_true, beq_iff_eq] at hbody
      exact ⟨c, rest, rfl, .inr hbody.symm⟩

theorem mark_number {cs : List Char}
    (h : ∃ c rest, cs = c :: rest ∧ (c = '-' ∨ c = '.' ∨ c.isDigit = true)) :
    ∃ c rest, cs = c :: rest ∧ Mark.ofChar? c = some .number := by
  rcases h with ⟨c, rest, hcs, hc⟩
  exact ⟨c, rest, hcs, if_pos hc⟩

/-- A text opens with the mark of its form. -/
theorem mark_of_value? (h : f.value? s = some v) :
    ∃ c rest, s.toList = c :: rest ∧ Mark.ofChar? c = some f.mark := by
  cases f with
  | keyword =>
      simp only [Form.value?, keyword?] at h
      split at h
      · subst s
        exact ⟨'n', _, rfl, rfl⟩
      · split at h
        · subst s
          exact ⟨'t', _, rfl, rfl⟩
        · split at h
          · subst s
            exact ⟨'f', _, rfl, rfl⟩
          · exact absurd h (by simp only [reduceCtorEq, not_false_eq_true])
  | character =>
      rcases Option.map_eq_some_iff.1 h with ⟨c, hc, -⟩
      rcases Option.bind_eq_some_iff.1 hc with ⟨inner, hinner, -⟩
      unfold enclosed? at hinner
      split at hinner
      · exact absurd hinner (by simp only [reduceCtorEq, not_false_eq_true])
      · rename_i c rest heq
        split at hinner
        · rename_i hquotes
          exact ⟨c, rest, heq, hquotes.1 ▸ rfl⟩
        · exact absurd hinner (by simp only [reduceCtorEq, not_false_eq_true])
  | handle =>
      rcases Option.map_eq_some_iff.1 h with ⟨a, ha, -⟩
      unfold handle? at ha
      split at ha
      · rename_i rest heq
        exact ⟨'@', rest, heq, rfl⟩
      · exact absurd ha (by simp only [reduceCtorEq, not_false_eq_true])
  | long =>
      rcases Option.map_eq_some_iff.1 h with ⟨n, hn, -⟩
      rcases suffixed_of_longInteger? hn with ⟨front, suffix, hs, -, hfront⟩
      rcases (signed_of_integer? hfront).opens with ⟨c, rest, rfl, hopens⟩
      exact mark_number ⟨c, rest ++ [suffix], hs, hopens.imp_right .inr⟩
  | integer =>
      rcases Option.map_eq_some_iff.1 h with ⟨n, hn, -⟩
      rcases (signed_of_integer? hn).opens with ⟨c, rest, hs, hopens⟩
      exact mark_number ⟨c, rest, hs, hopens.imp_right .inr⟩
  | fraction =>
      rcases Option.map_eq_some_iff.1 h with ⟨d, hd, -⟩
      exact mark_number (opens_of_fraction? hd)

/-- The suffix of a long at the end of a text. -/
def Suffixed (cs : List Char) : Prop :=
  ∃ front suffix, cs = front ++ [suffix] ∧ (suffix = 'L' ∨ suffix = 'l')

/-- Of the numbers only a long has its suffix. -/
theorem suffixed_iff_of_value? (h : f.value? s = some v) (hmark : f.mark = .number) :
    Suffixed s.toList ↔ f = .long := by
  cases f with
  | long =>
      rcases Option.map_eq_some_iff.1 h with ⟨n, hn, -⟩
      rcases suffixed_of_longInteger? hn with ⟨front, suffix, hs, hsuffix, -⟩
      exact ⟨fun _ => rfl, fun _ => ⟨front, suffix, hs, hsuffix⟩⟩
  | integer =>
      rcases Option.map_eq_some_iff.1 h with ⟨n, hn, -⟩
      refine iff_of_false ?_ (by decide)
      rintro ⟨front, suffix, hs, hsuffix⟩
      refine (signed_of_integer? hn).getLast?_ne (hexDigit?_suffix hsuffix) ?_
      rw [hs, List.getLast?_concat]
  | fraction =>
      rcases Option.map_eq_some_iff.1 h with ⟨d, hd, -⟩
      refine iff_of_false ?_ (by decide)
      rintro ⟨front, suffix, hs, hsuffix⟩
      have hdouble : Numeral.double? s.toList = some d := by
        unfold fraction? at hd
        split at hd
        · exact hd
        · exact absurd hd (by simp only [reduceCtorEq, not_false_eq_true])
      have hmem : suffix ∈ s.toList := hs ▸ List.mem_append_right front List.mem_cons_self
      -- Neither suffix occurs in a fraction.
      have hfractional := Numeral.mem_of_double? hdouble hmem
      rcases hsuffix with rfl | rfl
      · exact absurd hfractional (by unfold Numeral.Fractional; decide)
      · exact absurd hfractional (by unfold Numeral.Fractional; decide)
  | keyword => exact absurd hmark (by decide)
  | character => exact absurd hmark (by decide)
  | handle => exact absurd hmark (by decide)

end Ends

section Orders

/-- A text has one form, unless it is an integer and a fraction. -/
theorem eq_of_value? (hf : f.value? s = some v) (hg : g.value? s = some w) :
    f = g ∨ (f = .integer ∧ g = .fraction) ∨ (f = .fraction ∧ g = .integer) := by
  rcases mark_of_value? hf with ⟨c, rest, hs, hmark⟩
  rcases mark_of_value? hg with ⟨d, more, hs', hmark'⟩
  -- Both forms open with the same character, so they have the same mark.
  have hsame : f.mark = g.mark := by
    rw [hs] at hs'
    rw [(List.cons.inj hs').1, hmark'] at hmark
    exact (Option.some.inj hmark).symm
  by_cases hnumber : f.mark = .number
  · have hlong : f = .long ↔ g = .long :=
      (suffixed_iff_of_value? hf hnumber).symm.trans
        (suffixed_iff_of_value? hg (hsame.symm.trans hnumber))
    revert hlong hsame
    cases f <;> cases g <;> decide
  · left
    revert hnumber hsame
    cases f <;> cases g <;> decide

/-- A form wins in an order that has it if it takes the text, and if integers are before
    fractions and the text is no integer that is a fraction too. -/
theorem readIn_of_value? {order : List Form} (hall : ∀ f, f ∈ order)
    (hbefore : order.idxOf .integer < order.idxOf .fraction) (hf : f.value? s = some v)
    (hinteger : f = .fraction → Form.integer.value? s = none) : readIn order s = v := by
  rcases List.eq_append_cons_of_mem (hall f) with ⟨before, after, horder, hnot⟩
  have hnone : ∀ g ∈ before, g.value? s = none := by
    intro g hg
    by_contra hsome
    rcases Option.ne_none_iff_exists'.1 hsome with ⟨w, hw⟩
    rcases eq_of_value? hf hw with rfl | ⟨rfl, rfl⟩ | ⟨rfl, rfl⟩
    · exact hnot hg
    · -- A fraction before the first integer is against the order.
      rw [horder, List.idxOf_append, List.idxOf_append, if_neg hnot, if_pos hg] at hbefore
      have hlt := List.idxOf_lt_length_iff.2 hg
      omega
    · exact hsome (hinteger rfl)
  rw [readIn, List.findSome?_eq_some_iff.2 ⟨before, f, after, horder, hf, hnone⟩,
    Option.getD_some]

/-- What no form takes is text in every order. -/
theorem readIn_of_none {order : List Form} (h : ∀ f : Form, f.value? s = none) :
    readIn order s = .string (readText s.toList) := by
  rw [readIn, List.findSome?_eq_none_iff.2 fun f _ => h f, Option.getD_none]

/-- The form that wins in every order, if there is one. -/
theorem exists_winner (s : String) : (∀ f : Form, f.value? s = none) ∨
    ∃ f v, Form.value? s f = some v ∧ (f = .fraction → Form.integer.value? s = none) := by
  by_cases hnone : ∀ f : Form, f.value? s = none
  · exact .inl hnone
  · right
    by_cases hinteger : Form.integer.value? s = none
    · rcases not_forall.1 hnone with ⟨f, hf⟩
      rcases Option.ne_none_iff_exists'.1 hf with ⟨v, hv⟩
      exact ⟨f, v, hv, fun _ => hinteger⟩
    · rcases Option.ne_none_iff_exists'.1 hinteger with ⟨v, hv⟩
      exact ⟨.integer, v, hv, fun h => absurd h (by decide)⟩

end Orders

/-- At most one of the forms other than a fraction takes a text, and what is a fraction can
    only be an integer besides. So the value of a literal is the same in whichever order the
    forms are tried, as long as integers come before fractions. -/
theorem read_in_any_order :
    (∀ (s : String) (f g : Form), f ≠ .fraction → g ≠ .fraction →
      (f.value? s).isSome = true → (g.value? s).isSome = true → f = g) ∧
      (∀ (s : String) (f : Form), (Form.fraction.value? s).isSome = true →
        (f.value? s).isSome = true → f = .integer ∨ f = .fraction) ∧
      ∀ order : List Form, (∀ f, f ∈ order) → order.idxOf .integer < order.idxOf .fraction →
        ∀ s : String, readIn order s = read s := by
  refine ⟨fun s f g hf hg hfsome hgsome => ?_, fun s f hfraction hsome => ?_,
    fun order hall hbefore s => ?_⟩
  · rcases Option.isSome_iff_exists.1 hfsome with ⟨v, hv⟩
    rcases Option.isSome_iff_exists.1 hgsome with ⟨w, hw⟩
    rcases eq_of_value? hv hw with heq | ⟨-, hfraction⟩ | ⟨hfraction, -⟩
    · exact heq
    · exact absurd hfraction hg
    · exact absurd hfraction hf
  · rcases Option.isSome_iff_exists.1 hfraction with ⟨v, hv⟩
    rcases Option.isSome_iff_exists.1 hsome with ⟨w, hw⟩
    rcases eq_of_value? hw hv with heq | ⟨hinteger, -⟩ | ⟨heq, -⟩
    · exact .inr heq
    · exact .inl hinteger
    · exact .inr heq
  · have hall' : ∀ f : Form,
        f ∈ [Form.keyword, .character, .handle, .long, .integer, .fraction] := by
      intro f
      cases f <;> decide
    rw [read_eq_readIn]
    -- One form wins in the given order and in the one that is taken to read.
    rcases exists_winner s with hnone | ⟨f, v, hf, hinteger⟩
    · rw [readIn_of_none hnone, readIn_of_none hnone]
    · rw [readIn_of_value? hall hbefore hf hinteger,
        readIn_of_value? hall' (by decide) hf hinteger]

/-- Digits are an integer and a fraction, and are read as an integer also where the order is
    turned round otherwise. With a suffix they are a long and nothing else. -/
theorem read_in_any_order_digits :
    ((Form.long.value? "12L").isSome = true ∧ Form.long = .long) ∧
      ((Form.fraction.value? "12").isSome = true ∧ (Form.integer.value? "12").isSome = true ∧
        (Form.integer = .integer ∨ Form.integer = .fraction)) ∧
      readIn [.integer, .fraction, .long, .handle, .character, .keyword] "12" = read "12" := by
  have hlong : (Form.long.value? "12L").isSome = true := by decide +kernel
  have hfraction : (Form.fraction.value? "12").isSome = true := by decide +kernel
  have hinteger : (Form.integer.value? "12").isSome = true := by decide +kernel
  have hall : ∀ f, f ∈ [Form.integer, .fraction, .long, .handle, .character, .keyword] := by
    intro f
    cases f <;> decide
  rcases read_in_any_order with ⟨hunique, honly, horder⟩
  exact ⟨⟨hlong, hunique _ _ _ (by decide) (by decide) hlong hlong⟩,
    ⟨hfraction, hinteger, honly _ _ hfraction hinteger⟩, horder _ hall (by decide) "12"⟩

-- Fractions before integers would take the digits.
example : readIn [.fraction, .integer] "12" = .double ⟨0x4028000000000000⟩ := by decide +kernel

end Literal

end PrintBridge
