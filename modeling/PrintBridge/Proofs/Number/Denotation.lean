import Mathlib.Data.List.Induction
import PrintBridge.Proofs.Number.Digits

/-!
# What Digits Denote

The numbers that digits denote, told without a reader.

A digit has a value, and every further digit makes what stands before it count
for the base times as much. So the relation grows at the back, where a digit
adds its own value and nothing else. A reader works from the front, with a
running value, and the two are brought together by the cut of
`digitsFrom?_append` once more.

Leading zeros add nothing, and a letter is the same digit in either case, so a
number has many spellings. The relation has them all, and a reader takes exactly
these.

## Main definitions

* `Numeral.IsDigit`: A character as the digit for a value.
* `Numeral.Denotes`: The number that digits denote.

## Theorems

* `digit?_eq_some_iff`: A digit is read as its value.
* `digitsFrom?_concat`: How the last digit counts.
* `natural?_eq_some_iff`: Digits are read as what they denote, and nothing else is
  read.
* `plusNatural?_eq_some_iff`: The same behind an optional plus sign.
-/

namespace PrintBridge

namespace Numeral

/-- A character is the digit for a value. Letters go on where the decimal digits
    end, in either case. -/
def IsDigit (c : Char) (value : Nat) : Prop := c = value.digitChar ∨ c = value.digitChar.toUpper

/-- Digits in a base denote a number. -/
inductive Denotes (base : Nat) : List Char → Nat → Prop where
  | digit {c : Char} {d : Nat} (hlt : d < base) (hc : IsDigit c d) : Denotes base [c] d
  /-- What stands before the last digit counts for the base times as much. -/
  | more {front : List Char} {n : Nat} {c : Char} {d : Nat} (hfront : Denotes base front n)
      (hlt : d < base) (hc : IsDigit c d) : Denotes base (front ++ [c]) (n * base + d)

variable {base n : Nat} {cs : List Char}

/-- What is read as a hexadecimal digit stands early in the table of
    characters. -/
theorem hexDigit?_lt {c : Char} {d : Nat} (h : hexDigit? c = some d) : c.toNat < 103 := by
  unfold hexDigit? at h
  have hle : ∀ last : Char, c ≤ last → c.toNat ≤ last.toNat := fun last h => h
  split at h
  · rename_i hc
    exact Nat.lt_of_le_of_lt (hle '9' hc.2) (by decide)
  · split at h
    · rename_i hc
      exact Nat.lt_of_le_of_lt (hle 'f' hc.2) (by decide)
    · split at h
      · rename_i hc
        exact Nat.lt_of_le_of_lt (hle 'F' hc.2) (by decide)
      · exact absurd h (by simp only [reduceCtorEq, not_false_eq_true])

theorem hexDigit?_eq_some_iff {c : Char} {d : Nat} :
    hexDigit? c = some d ↔ d < 16 ∧ IsDigit c d := by
  constructor
  · intro h
    -- So few characters can be looked at one by one.
    have hall : ∀ k : Fin 103, ∀ e ∈ hexDigit? (Char.ofNat k.val),
        e < 16 ∧ (Char.ofNat k.val = e.digitChar ∨ Char.ofNat k.val = e.digitChar.toUpper) := by
      decide
    have hc := hall ⟨c.toNat, hexDigit?_lt h⟩ d
    rw [Char.ofNat_toNat] at hc
    exact hc h
  · rintro ⟨hlt, hc⟩
    have hall : ∀ e : Fin 16, hexDigit? e.val.digitChar = some e.val ∧
        hexDigit? e.val.digitChar.toUpper = some e.val := by decide
    rcases hc with rfl | rfl
    · exact (hall ⟨d, hlt⟩).1
    · exact (hall ⟨d, hlt⟩).2

/-- A digit of a base is read as its value. -/
theorem digit?_eq_some_iff (hbase : base ≤ 16) {c : Char} {d : Nat} :
    digit? base c = some d ↔ d < base ∧ IsDigit c d := by
  rw [digit?, Option.filter_eq_some_iff, hexDigit?_eq_some_iff, decide_eq_true_eq]
  exact ⟨fun h => ⟨h.2, h.1.2⟩, fun h => ⟨⟨Nat.lt_of_lt_of_le h.1 hbase, h.2⟩, h.1⟩⟩

/-- The last digit counts for itself, and what stands before it for the base times
    as much. -/
theorem digitsFrom?_concat (base acc : Nat) (front : List Char) (c : Char) :
    digitsFrom? base acc (front ++ [c]) = some n ↔
      ∃ m d, digitsFrom? base acc front = some m ∧ digit? base c = some d ∧
        n = m * base + d := by
  rw [digitsFrom?_append, Option.bind_eq_some_iff]
  refine exists_congr fun m => ?_
  rw [digitsFrom?, Option.bind_eq_some_iff]
  constructor
  · rintro ⟨hm, d, hd, hn⟩
    exact ⟨d, hm, hd, (Option.some.inj hn).symm⟩
  · rintro ⟨d, hm, hd, rfl⟩
    exact ⟨hm, d, hd, rfl⟩

theorem natural?_of_ne_nil (base : Nat) (hne : cs ≠ []) :
    natural? base cs = digitsFrom? base 0 cs := by
  rw [natural?, List.isEmpty_eq_false_iff.2 hne, if_neg Bool.false_ne_true]

/-- Digits are read as the number that they denote, and nothing else is read. -/
theorem natural?_eq_some_iff (hbase : base ≤ 16) :
    natural? base cs = some n ↔ Denotes base cs n := by
  constructor
  · intro h
    -- The relation grows at the back, so that is where the induction goes.
    induction cs using List.reverseRecOn generalizing n with
    | nil => exact absurd h (by simp only [natural?, List.isEmpty_nil, if_true, reduceCtorEq,
        not_false_eq_true])
    | append_singleton front c ih =>
        rw [natural?_of_ne_nil base (List.concat_ne_nil c front), digitsFrom?_concat] at h
        rcases h with ⟨m, d, hm, hd, rfl⟩
        rcases (digit?_eq_some_iff hbase).1 hd with ⟨hlt, hc⟩
        by_cases hfront : front = []
        · subst hfront
          rw [← Option.some.inj hm, Nat.zero_mul, Nat.zero_add]
          exact .digit hlt hc
        · rw [← natural?_of_ne_nil base hfront] at hm
          exact .more (ih hm) hlt hc
  · intro h
    induction h with
    | digit hlt hc =>
        rw [natural?_of_ne_nil base (List.cons_ne_nil _ _), digitsFrom?,
          (digit?_eq_some_iff hbase).2 ⟨hlt, hc⟩, Option.bind_some, Nat.zero_mul, Nat.zero_add]
        rfl
    | @more front m c d hfront hlt hc ih =>
        have hne : front ≠ [] := by
          rintro rfl
          exact absurd ih (by simp only [natural?, List.isEmpty_nil, if_true, reduceCtorEq,
            not_false_eq_true])
        rw [natural?_of_ne_nil base hne] at ih
        rw [natural?_of_ne_nil base (List.concat_ne_nil c front), digitsFrom?_concat]
        exact ⟨m, d, ih, (digit?_eq_some_iff hbase).2 ⟨hlt, hc⟩, rfl⟩

/-- A plus sign before the digits is taken, once. -/
theorem plusNatural?_eq_some_iff (hbase : base ≤ 16) :
    plusNatural? base cs = some n ↔
      Denotes base cs n ∨ ∃ digits, cs = '+' :: digits ∧ Denotes base digits n := by
  constructor
  · intro h
    unfold plusNatural? at h
    split at h
    · rename_i digits
      exact .inr ⟨digits, rfl, (natural?_eq_some_iff hbase).1 h⟩
    · exact .inl ((natural?_eq_some_iff hbase).1 h)
  · rintro (h | ⟨digits, rfl, h⟩)
    · exact plusNatural?_of_natural? ((natural?_eq_some_iff hbase).2 h)
    · exact (natural?_eq_some_iff hbase).2 h

namespace Denotes

/-- Every digit has a value in the base. -/
theorem hexDigit?_of_mem (hbase : base ≤ 16) (h : Denotes base cs n) {c : Char} (hmem : c ∈ cs) :
    ∃ d < base, hexDigit? c = some d := by
  induction h with
  | digit hlt hc =>
      rw [List.mem_singleton.1 hmem]
      exact ⟨_, hlt, hexDigit?_eq_some_iff.2 ⟨Nat.lt_of_lt_of_le hlt hbase, hc⟩⟩
  | more _ hlt hc ih =>
      rcases List.mem_append.1 hmem with hfront | hlast
      · exact ih hfront
      · rw [List.mem_singleton.1 hlast]
        exact ⟨_, hlt, hexDigit?_eq_some_iff.2 ⟨Nat.lt_of_lt_of_le hlt hbase, hc⟩⟩

/-- What has no value in any base is not among digits. -/
theorem not_mem (hbase : base ≤ 16) (h : Denotes base cs n) {c : Char}
    (hc : hexDigit? c = none) : c ∉ cs := by
  intro hmem
  rcases h.hexDigit?_of_mem hbase hmem with ⟨d, _, hd⟩
  rw [hc] at hd
  exact absurd hd (by simp only [reduceCtorEq, not_false_eq_true])

/-- Decimal digits are digits without letters. -/
theorem isDigit_of_mem (h : Denotes 10 cs n) {c : Char} (hmem : c ∈ cs) : c.isDigit = true := by
  have hall : ∀ e : Fin 10, e.val.digitChar.isDigit = true ∧
      e.val.digitChar.toUpper.isDigit = true := by decide
  rcases h.hexDigit?_of_mem (by decide) hmem with ⟨d, hlt, hd⟩
  rcases (hexDigit?_eq_some_iff.1 hd).2 with rfl | rfl
  · exact (hall ⟨d, hlt⟩).1
  · exact (hall ⟨d, hlt⟩).2

/-- Digits open with one of them. -/
theorem ne_nil (h : Denotes base cs n) : cs ≠ [] := by
  cases h with
  | digit _ _ => exact List.cons_ne_nil _ _
  | more _ _ _ => exact List.concat_ne_nil _ _

end Denotes

end Numeral

end PrintBridge
