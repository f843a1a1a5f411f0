import PrintBridge.Number.Numeral

/-!
# Digits

The digits that a number is written in are read as that number.

Numbers are written from the back: what is left of a number without its last
digit is written first. Numerals are read from the front, with what was read so
far as a running value. The two meet in `digitsFrom?_append`, which cuts a
reading at any place, so the induction can take the last digit off.

## Theorems

* `digit?_digitChar`: A digit has its value.
* `digitsFrom?_append`: A reading can be cut.
* `digitsFrom?_toDigits`, `natural?_toDigits`: The digits of a number are read
  as the number.
* `plusNatural?_of_natural?`: Allowing a sign changes nothing.
-/

namespace PrintBridge

namespace Numeral

/-- A digit of a base has its value in that base. -/
theorem digit?_digitChar {base d : Nat} (hbase : base ≤ 16) (hd : d < base) :
    digit? base d.digitChar = some d := by
  have hvalue : ∀ e : Fin 16, hexDigit? e.val.digitChar = some e.val := by decide
  rw [digit?, hvalue ⟨d, Nat.lt_of_lt_of_le hd hbase⟩]
  exact Option.filter_eq_some_iff.2 ⟨rfl, decide_eq_true hd⟩

/-- Digits are read on from what the digits before them denote. -/
theorem digitsFrom?_append (base acc : Nat) (front back : List Char) :
    digitsFrom? base acc (front ++ back) =
      (digitsFrom? base acc front).bind fun n => digitsFrom? base n back := by
  induction front generalizing acc with
  | nil => rfl
  | cons c front ih =>
      rw [List.cons_append, digitsFrom?, digitsFrom?]
      rcases digit? base c with _ | d
      · rfl
      · exact ih _

theorem digitsFrom?_toDigits {base : Nat} (hone : 1 < base) (hbase : base ≤ 16) (n : Nat) :
    digitsFrom? base 0 (Nat.toDigits base n) = some n := by
  induction n using Nat.strongRecOn with
  | ind n ih =>
      rw [Nat.toDigits_eq_if hone]
      split
      · rename_i hlt
        rw [digitsFrom?, digit?_digitChar hbase hlt, Option.bind_some, Nat.zero_mul, Nat.zero_add]
        rfl
      · rename_i hge
        have hpos : 0 < n := by omega
        -- All digits but the last are those of a smaller number.
        rw [digitsFrom?_append, ih _ (Nat.div_lt_self hpos hone), Option.bind_some, digitsFrom?,
          digit?_digitChar hbase (Nat.mod_lt n (Nat.lt_trans Nat.zero_lt_one hone)),
          Option.bind_some, Nat.div_add_mod']
        rfl

/-- The digits of a number are read as the number. -/
theorem natural?_toDigits {base : Nat} (hone : 1 < base) (hbase : base ≤ 16) (n : Nat) :
    natural? base (Nat.toDigits base n) = some n := by
  have hne : (Nat.toDigits base n).isEmpty = false :=
    List.isEmpty_eq_false_iff.2 Nat.toDigits_ne_nil
  rw [natural?, hne, if_neg Bool.false_ne_true, digitsFrom?_toDigits hone hbase]

/-- A sign is no digit, so nothing that is read without a sign is read
    otherwise with one allowed. -/
theorem plusNatural?_of_natural? {base n : Nat} {cs : List Char} (h : natural? base cs = some n) :
    plusNatural? base cs = some n := by
  unfold plusNatural?
  split
  · have hsign : hexDigit? '+' = none := by decide
    simp only [natural?, List.isEmpty_cons, Bool.false_eq_true, if_false, digitsFrom?, digit?,
      hsign, Option.filter_none, Option.bind_none, reduceCtorEq] at h
  · exact h

end Numeral

end PrintBridge
