import PrintBridge.Literal

/-!
# Forms of Literals

How a literal shows which form it has.

Every form but plain text can be told by one of its ends. A character opens
with a single quote, a handle with `@`, an integer and a fraction with a sign,
a digit or a point, a long ends in its suffix, and the keywords have their
initials. So a recogniser that is tried too early does no harm as long as the
text has another end than it looks for.

## Theorems

* `keyword?_eq_none`, `character?_eq_none`, `handle?_eq_none`,
  `longInteger?_eq_none`, `integer?_eq_none`, `fraction?_eq_none`: What each
  recogniser leaves to the others.
* `hexadecimal?_eq_none`: Decimal digits are not hexadecimal.
-/

namespace PrintBridge

namespace Literal

variable {c : Char} {rest cs : List Char}

/-- A keyword opens with its initial. -/
theorem keyword?_eq_none {s : String} (hs : s.toList = c :: rest) (hn : c ≠ 'n') (ht : c ≠ 't')
    (hf : c ≠ 'f') : keyword? s = none := by
  have hopens : ∀ (d : Char) (more : List Char), c ≠ d → s ≠ String.ofList (d :: more) := by
    intro d more hd heq
    rw [heq, String.toList_ofList] at hs
    exact hd (List.cons.inj hs).1.symm
  rw [keyword?, if_neg (hopens 'n' ['u', 'l', 'l'] hn), if_neg (hopens 't' ['r', 'u', 'e'] ht),
    if_neg (hopens 'f' ['a', 'l', 's', 'e'] hf)]

/-- A character opens with a single quote. -/
theorem character?_eq_none (hquote : c ≠ '\'') : character? (c :: rest) = none := by
  rw [character?, enclosed?, if_neg fun h => hquote h.1]
  rfl

/-- A handle opens with its mark. -/
theorem handle?_eq_none (hmark : c ≠ '@') : handle? (c :: rest) = none := by
  rw [handle?]
  intro more heq
  exact hmark (List.cons.inj heq).1

/-- A long ends in its suffix. -/
theorem longInteger?_eq_none (hlast : cs.getLast? = some c) (hupper : c ≠ 'L')
    (hlower : c ≠ 'l') : longInteger? cs = none := by
  simp only [longInteger?, hlast, hupper, hlower, or_self, if_false]

/-- Hexadecimal digits open with a zero and the mark behind it, so they are not
    all digits of a decimal number. -/
theorem hexadecimal?_eq_none (hdigits : ∀ d ∈ cs, d.isDigit = true) : hexadecimal? cs = none := by
  unfold hexadecimal?
  split
  · rename_i x digits
    have hx : x.isDigit = true := hdigits x (List.mem_cons_of_mem _ List.mem_cons_self)
    have hmark : ¬ (x = 'x' ∨ x = 'X') := by
      rintro (rfl | rfl) <;> exact absurd hx (by decide)
    rw [if_neg hmark]
  · rfl

theorem magnitude?_eq_none (hdigit : Numeral.digit? 10 c = none) :
    magnitude? (c :: rest) = none := by
  have hhexadecimal : hexadecimal? (c :: rest) = none := by
    unfold hexadecimal?
    split
    · rename_i heq
      -- A zero would be a digit.
      rw [(List.cons.inj heq).1] at hdigit
      exact absurd hdigit (by decide)
    · rfl
  simp only [magnitude?, hhexadecimal, Numeral.natural?, List.isEmpty_cons, Bool.false_eq_true,
    if_false, Numeral.digitsFrom?, hdigit, Option.bind_none, Option.filter_none]

/-- What opens without a sign is read as a magnitude. -/
theorem integer?_of_unsigned (hsign : c ≠ '-') :
    integer? (c :: rest) = (magnitude? (c :: rest)).map Int.ofNat := by
  rw [integer?]
  intro more heq
  exact hsign (List.cons.inj heq).1

/-- An integer opens with a sign or a digit. -/
theorem integer?_eq_none (hsign : c ≠ '-') (hdigit : Numeral.digit? 10 c = none) :
    integer? (c :: rest) = none := by
  rw [integer?_of_unsigned hsign, magnitude?_eq_none hdigit]
  rfl

/-- A fraction opens with a sign, a digit or a point. -/
theorem fraction?_eq_none (hsign : c ≠ '-') (hpoint : c ≠ '.') (hdigit : c.isDigit = false) :
    fraction? (c :: rest) = none := by
  have hnumeric : looksNumeric (c :: rest) = false := by
    unfold looksNumeric
    split
    · rename_i more heq
      exact absurd (List.cons.inj heq).1 hsign
    · simp only [List.head?_cons, Option.any_some, hdigit, beq_eq_false_iff_ne.2 hpoint,
        Bool.or_self, Bool.false_and]
  rw [fraction?, hnumeric, if_neg Bool.false_ne_true]

end Literal

end PrintBridge
