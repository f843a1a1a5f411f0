import Mathlib.Algebra.Ring.Nat
import PrintBridge.Proofs.Number.Digits
import PrintBridge.Toml.Document

/-!
# Escaped Strings

Every text can stand in a document as a string on one line.

Some characters cannot stand in a string as they are, but any of them can be named
by its code in eight hexadecimal digits, so a text with every character escaped will
do. It is read from the front, and the digits of a code from the front too, while
they are given from the back; `digitsFrom?_lastDigits` is the induction that turns
this around.

## Main definitions

* `lastDigits`: Digits of a number, a fixed count of them.
* `escaped`: A character by its code.

## Theorems

* `digitsFrom?_lastDigits`: The digits are read as what is left of the number.
* `basicBody?_escaped`: An escaped text is read as the text.
* `string?_escaped`, `value?_escaped`: So are a string and a value with it.
* `lines?_of_line`: A document may be a single line.
-/

namespace PrintBridge

namespace Toml

/-- The last digits of a number in base sixteen, so many of them. -/
def lastDigits : Nat → Nat → List Char
  | 0, _ => []
  | count + 1, n => lastDigits count (n / 16) ++ [(n % 16).digitChar]

/-- A character by its code. -/
def escaped (c : Char) : List Char := '\\' :: 'U' :: lastDigits 8 c.toNat

theorem digitsFrom?_lastDigits (count n acc : Nat) :
    Numeral.digitsFrom? 16 acc (lastDigits count n) = some (acc * 16 ^ count + n % 16 ^ count) := by
  induction count generalizing n with
  | zero => rw [lastDigits, Numeral.digitsFrom?, Nat.pow_zero, Nat.mod_one, Nat.mul_one,
      Nat.add_zero]
  | succ count ih =>
      have hdigit := Numeral.digit?_digitChar (Nat.le_refl 16) (Nat.mod_lt n (by decide : 0 < 16))
      have hsplit : n % 16 ^ (count + 1) = n % 16 + 16 * (n / 16 % 16 ^ count) := by
        rw [Nat.pow_succ', Nat.mod_mul]
      rw [lastDigits, Numeral.digitsFrom?_append, ih, Option.bind_some, Numeral.digitsFrom?, hdigit,
        Option.bind_some, Numeral.digitsFrom?, hsplit, Nat.pow_succ, ← Nat.mul_assoc]
      congr 1
      omega

/-- Eight digits hold the code of any character. -/
theorem scalar?_lastDigits (c : Char) : scalar? (lastDigits 8 c.toNat) = some c := by
  have hsmall : c.toNat < 16 ^ 8 := by
    rcases c.valid with hlow | ⟨-, hhigh⟩
    · exact Nat.lt_trans hlow (by decide)
    · exact Nat.lt_trans hhigh (by decide)
  have hread : Numeral.natural? 16 (lastDigits 8 c.toNat) = some c.toNat := by
    rw [Numeral.natural?, if_neg (by simp [lastDigits]), digitsFrom?_lastDigits, Nat.zero_mul,
      Nat.zero_add, Nat.mod_eq_of_lt hsmall]
  rw [scalar?, hread, Option.bind_some]
  exact dif_pos c.valid

theorem escape?_lastDigits (c : Char) (rest : List Char) :
    escape? ('U' :: (lastDigits 8 c.toNat ++ rest)) = some (c, rest) := by
  have hscalar := scalar?_lastDigits c
  simp only [lastDigits, List.nil_append, List.cons_append] at hscalar ⊢
  rw [escape?, hscalar, Option.map_some]

/-- An escaped text is read as the text, up to the quote behind it. -/
theorem basicBody?_escaped (cs rest : List Char) :
    basicBody? (cs.flatMap escaped ++ '"' :: rest) = some (cs, rest) := by
  induction cs with
  | nil => rw [List.flatMap_nil, List.nil_append, basicBody?, if_pos rfl]
  | cons c cs ih =>
      rw [List.flatMap_cons, List.append_assoc, escaped, List.cons_append, List.cons_append,
        basicBody?, if_neg (by decide), if_pos rfl]
      split
      · rename_i hnone
        rw [escape?_lastDigits] at hnone
        exact absurd hnone (by simp only [reduceCtorEq, not_false_eq_true])
      · rename_i image after hsome
        rw [escape?_lastDigits] at hsome
        obtain ⟨rfl, rfl⟩ := Prod.mk.inj (Option.some.inj hsome)
        rw [ih, before, Option.map_some]

/-- A string on one line, if no third quote stands right behind an empty one. -/
theorem string?_escaped (t : String) (rest : List Char) (hrest : rest.head? ≠ some '"') :
    string? ('"' :: (t.toList.flatMap escaped ++ '"' :: rest)) = some (t, rest) := by
  have hbody := basicBody?_escaped t.toList rest
  unfold string?
  split
  · -- Only the empty text begins with a quote here, and then none follows it.
    rename_i after heq
    cases hchars : t.toList with
    | nil =>
        rw [hchars, List.flatMap_nil, List.nil_append] at heq
        simp only [List.cons.injEq, true_and] at heq
        exact absurd (heq ▸ rfl) hrest
    | cons c cs =>
        rw [hchars, List.flatMap_cons, escaped, List.cons_append, List.cons_append] at heq
        simp only [List.cons.injEq, true_and, Char.reduceEq, false_and] at heq
  · rename_i after _ heq
    rw [← (List.cons.inj heq).2, hbody, Option.map_some, String.ofList_toList]
  · rename_i heq
    exact absurd (List.cons.inj heq).1 (by decide)
  · rename_i heq
    exact absurd (List.cons.inj heq).1 (by decide)
  · rename_i hbasic _ _
    exact absurd rfl (hbasic _)

theorem value?_escaped (t : String) :
    value? ('"' :: (t.toList.flatMap escaped ++ ['"'])) = some (.string t, []) := by
  have hnone : ([] : List Char).head? ≠ some '"' := by decide
  rw [value?, valueWithin?, string?_escaped t [] hnone, Option.map_some]

/-- A document of a single line, which begins with the line itself. -/
theorem lines?_of_line {b grown : Builder} {c : Char} {rest : List Char} (fuel : Nat)
    (hc : c ∉ [' ', '\t', '#', '\n', '\r']) (hline : line? b (c :: rest) = some (grown, [])) :
    lines? b (fuel + 2) (c :: rest) = some grown := by
  simp only [List.mem_cons, List.not_mem_nil, or_false, not_or] at hc
  have hblanks : blanks (c :: rest) = c :: rest := by
    rw [blanks, List.dropWhile_cons_of_neg]
    simp only [isBlankChar, Bool.or_eq_true, beq_iff_eq, hc.1, hc.2.1, or_false, not_false_eq_true]
  rw [lines?, hblanks]
  split
  · rename_i heq
    exact absurd heq (List.cons_ne_nil _ _)
  · rename_i heq
    exact absurd (List.cons.inj heq).1 hc.2.2.1
  · rename_i heq
    exact absurd (List.cons.inj heq).1 hc.2.2.2.1
  · rename_i heq
    exact absurd (List.cons.inj heq).1 hc.2.2.2.2
  · rw [hline]
    rfl

end Toml

end PrintBridge
