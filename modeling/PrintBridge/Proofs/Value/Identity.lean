import PrintBridge.Slot.Marshal
import PrintBridge.Value.Box

/-!
# Identity and Equality

How the identity of boxes goes together with the equality of values.

Identity is put together from three comparisons, one for texts, one for doubles and
equality for the rest, and equality alone is no equivalence, as a NaN is not equal to
itself. But every box can be told by one thing, the cell of its text or else its value
with all its bits, and boxes are the same exactly where these are. That is
`sameIdentity_iff`, and with it identity is an equivalence at once. It also rids the
arm for the rest of doubles and texts, which have arms of their own above it.

Identity and equality disagree in few places. On doubles identity looks closer than
equality does, at a NaN and at the zeros. On texts it asks for the cell, and a cell has
one text, so there it is only ever the finer of the two.

The C representation of a value is told by its type and its bits, and a value that is no
text is represented without regard to where it lives, so boxes that are the same are
represented alike.

## Main definitions

* `Box.LivesIn`: Boxes whose cells hold their texts.
* `Box.Copies`: Copies of a box.
* `Box.mark`: What tells a box from others.
* `Value.IsNaN`, `Value.OppositeZeros`: The values at which equality is not identity.
* `CValue.bits`: What tells a representation from others of its type.

## Theorems

* `Box.sameIdentity_iff`, `Box.sameIdentity_equivalence`: Identity is an equivalence.
* `Box.exists_cells`: Boxes that are made together live in the same cells.
* `Double.ieeeEq_iff`, `Value.equals_iff`: Equality of values.
* `same_not_equal_iff`, `equal_not_same_iff`: Where identity and equality disagree.
* `CValue.beq_iff_bits`: Representations are told by type and bits.
* `Lowering.value_of_no_text`: Representation of what is no text.
* `identity_refines_equality`: Identity, equality and representation together.
-/

namespace PrintBridge

/-- What is put into the cell of a value. Only a text uses it. -/
def Value.contents : Value → String
  | string text => text
  | _ => ""

theorem Value.exists_text {v : Value} (h : v.kind = .string) : ∃ s, v = .string s := by
  cases v with
  | string s => exact ⟨s, rfl⟩
  | _ => exact absurd h (by simp only [Value.kind, reduceCtorEq, not_false_eq_true])

theorem Value.kind_double (d : Double) : (Value.double d).kind ≠ .string := by
  simp only [Value.kind, ne_eq, reduceCtorEq, not_false_eq_true]

namespace Box

/-- A box whose cell holds its text, where the texts of all cells are given. -/
def LivesIn (cells : Nat → String) (b : Box) : Prop :=
  ∀ text, b.value = .string text → cells b.cell = text

/-- A copy of a box has its value and shares its cell, if there is a text in it. -/
structure Copies (b copy : Box) : Prop where
  value : copy.value = b.value
  cell : b.value.kind = .string → copy.cell = b.cell

/-- What tells a box from others: the cell of its text, or its value. -/
def mark (b : Box) : Nat ⊕ Value :=
  match b.value with
  | .string _ => .inl b.cell
  | v => .inr v

variable {a b : Box} {cells : Nat → String}

/-- Boxes are the same where they have the same mark. -/
theorem sameIdentity_iff (a b : Box) : a.sameIdentity b = true ↔ a.mark = b.mark := by
  rcases a with ⟨v, m⟩
  rcases b with ⟨w, n⟩
  cases v with
  | string s =>
      cases w with
      | string t => simp only [sameIdentity, mark, beq_iff_eq, Sum.inl.injEq]
      | _ => simp only [sameIdentity, mark, Value.equals, beq_iff_eq, reduceCtorEq]
  | double x =>
      cases w with
      | double y =>
          simp only [sameIdentity, mark, beq_iff_eq, Sum.inr.injEq, Value.double.injEq,
            ← Double.bits_inj]
      | _ =>
          simp only [sameIdentity, mark, Value.equals, beq_iff_eq, Sum.inr.injEq, reduceCtorEq]
  | _ =>
      -- No arm above the last fits, and equality there is that of values as data.
      cases w with
      | string t => simp only [sameIdentity, mark, Value.equals, beq_iff_eq, reduceCtorEq]
      | _ => simp only [sameIdentity, mark, Value.equals, beq_iff_eq, Sum.inr.injEq, reduceCtorEq]

/-- Identity is the kernel of the mark, so it is an equivalence. -/
theorem sameIdentity_equivalence : Equivalence fun a b : Box => a.sameIdentity b = true where
  refl a := a.sameIdentity_self
  symm {a b} h := (sameIdentity_iff b a).2 ((sameIdentity_iff a b).1 h).symm
  trans {a b c} hab hbc :=
    (sameIdentity_iff a c).2 (((sameIdentity_iff a b).1 hab).trans ((sameIdentity_iff b c).1 hbc))

/-- A text has its cell for a mark. -/
theorem mark_of_text {s : String} (h : a.value = .string s) : a.mark = .inl a.cell := by
  rw [mark, h]

/-- Anything else has its value. -/
theorem mark_of_no_text (h : a.value.kind ≠ .string) : a.mark = .inr a.value := by
  rcases a with ⟨v, m⟩
  cases v with
  | string s => exact absurd rfl h
  | _ => rfl

/-- Boxes that are the same have the same value, if there is no text in the one. -/
theorem value_eq_of_no_text (htext : a.value.kind ≠ .string) (h : a.sameIdentity b = true) :
    a.value = b.value := by
  rw [sameIdentity_iff, mark_of_no_text htext] at h
  by_cases htext' : b.value.kind = .string
  · rcases Value.exists_text htext' with ⟨t, ht⟩
    rw [mark_of_text ht] at h
    exact absurd h (by simp only [reduceCtorEq, not_false_eq_true])
  · rw [mark_of_no_text htext', Sum.inr.injEq] at h
    exact h

/-- Boxes that are the same have the same value, where every cell holds one text. -/
theorem value_eq_of_same (ha : a.LivesIn cells) (hb : b.LivesIn cells)
    (h : a.sameIdentity b = true) : a.value = b.value := by
  by_cases htext : a.value.kind = .string
  · by_cases htext' : b.value.kind = .string
    · rcases Value.exists_text htext with ⟨s, hs⟩
      rcases Value.exists_text htext' with ⟨t, ht⟩
      rw [sameIdentity_iff, mark_of_text hs, mark_of_text ht, Sum.inl.injEq] at h
      rw [hs, ht, ← ha s hs, ← hb t ht, h]
    · exact (value_eq_of_no_text htext' (sameIdentity_equivalence.symm h)).symm
  · exact value_eq_of_no_text htext h

/-- Where no text is in a box, the value decides alone. -/
theorem same_of_value_eq (h : a.value = b.value)
    (hcell : a.value.kind = .string → a.cell = b.cell) : a.sameIdentity b = true := by
  rw [sameIdentity_iff]
  by_cases htext : a.value.kind = .string
  · rcases Value.exists_text htext with ⟨s, hs⟩
    rw [mark_of_text hs, mark_of_text (h.symm.trans hs), hcell htext]
  · rw [mark_of_no_text htext, mark_of_no_text (h ▸ htext), h]

/-- Boxes have their values in the order of their cells. -/
theorem getElem?_of_mem_allocate {cell : Nat} {vs : List Value} (h : b ∈ allocate cell vs) :
    cell ≤ b.cell ∧ vs[b.cell - cell]? = some b.value := by
  induction vs generalizing cell with
  | nil => exact absurd h List.not_mem_nil
  | cons v rest ih =>
      rcases List.mem_cons.1 h with rfl | hrest
      · exact ⟨Nat.le_refl _, by rw [Nat.sub_self, List.getElem?_cons_zero]⟩
      · rcases ih hrest with ⟨hle, hvalue⟩
        have hsub : b.cell - cell = b.cell - (cell + 1) + 1 := by omega
        exact ⟨by omega, by rw [hsub, List.getElem?_cons_succ, hvalue]⟩

/-- Values that are boxed together live in the same cells, and each cell holds one text. -/
theorem exists_cells (cell : Nat) (vs : List Value) :
    ∃ cells, ∀ b ∈ allocate cell vs, b.LivesIn cells := by
  refine ⟨fun n => (vs[n - cell]?.map Value.contents).getD "", fun b hb text htext => ?_⟩
  simp only [(getElem?_of_mem_allocate hb).2, htext, Option.map_some, Option.getD_some,
    Value.contents]

/-- A copy is the same box. -/
theorem Copies.same (h : a.Copies b) : a.sameIdentity b = true :=
  same_of_value_eq h.value.symm fun htext => (h.cell htext).symm

end Box

namespace Double

variable {x y : Double}

/-- There are two zeros, one for each sign. -/
theorem eq_of_isZero (hx : x.isZero = true) (hy : y.isZero = true)
    (hsign : x.negative = y.negative) : x = y := by
  -- Where exponent and fraction are zero only the bit of the sign is left.
  have hzero {d : Double} (h : d.isZero = true) :
      d.bits.toNat = 0 ∨ d.bits.toNat = 2 ^ 63 := by
    have h52 : twoTo 52 = 2 ^ 52 := rfl
    have h11 : twoTo 11 = 2 ^ 11 := rfl
    have hlt : d.bits.toNat < 2 ^ 64 := d.bits.toNat_lt
    simp only [isZero, exponent, fraction, Bool.and_eq_true, beq_iff_eq, h52, h11] at h
    omega
  have h63 : twoTo 63 = 2 ^ 63 := rfl
  have hx' := hzero hx
  have hy' := hzero hy
  rw [negative, negative, decide_eq_decide, h63] at hsign
  rw [← bits_inj, ← UInt64.toNat_inj]
  omega

theorem not_isNaN_of_isZero (hx : x.isZero = true) : x.isNaN = false := by
  simp only [isZero, Bool.and_eq_true, beq_iff_eq] at hx
  simp only [isNaN, hx.1]
  rfl

/-- Doubles are equal as numbers where they are the same number or the two zeros. -/
theorem ieeeEq_iff (x y : Double) : x.ieeeEq y = true ↔
    (x = y ∧ x.isNaN = false) ∨
      (x.isZero = true ∧ y.isZero = true ∧ x.negative ≠ y.negative) := by
  constructor
  · intro h
    simp only [ieeeEq, Bool.and_eq_true, Bool.or_eq_true, Bool.not_eq_true', beq_iff_eq] at h
    rcases h with ⟨⟨hx, -⟩, heq | ⟨hzero, hzero'⟩⟩
    · exact .inl ⟨heq, hx⟩
    · by_cases hsign : x.negative = y.negative
      · exact .inl ⟨eq_of_isZero hzero hzero' hsign, hx⟩
      · exact .inr ⟨hzero, hzero', hsign⟩
  · rintro (⟨rfl, hx⟩ | ⟨hzero, hzero', -⟩)
    · exact (ieeeEq_self_iff x).2 hx
    · simp only [ieeeEq, not_isNaN_of_isZero hzero, not_isNaN_of_isZero hzero', hzero, hzero',
        Bool.not_false, Bool.and_self, Bool.or_true]

end Double

namespace Value

variable {v w : Value}

/-- A value that is a NaN. -/
def IsNaN (v : Value) : Prop := ∃ d : Double, d.isNaN = true ∧ v = .double d

/-- The two zeros, in either order. -/
def OppositeZeros (v w : Value) : Prop :=
  ∃ x y : Double, v = .double x ∧ w = .double y ∧ x.isZero = true ∧ y.isZero = true ∧
    x.negative ≠ y.negative

/-- Values are equal where they are one value and no NaN, or the two zeros. -/
theorem equals_iff (v w : Value) :
    v.equals w = true ↔ (v = w ∧ ¬ v.IsNaN) ∨ v.OppositeZeros w := by
  unfold equals
  split
  · rename_i x y
    have hnan : ¬ (double x).IsNaN ↔ x.isNaN = false := by
      simp only [IsNaN, double.injEq, exists_eq_right', Bool.not_eq_true]
    have hzeros : (double x).OppositeZeros (double y) ↔
        x.isZero = true ∧ y.isZero = true ∧ x.negative ≠ y.negative := by
      refine ⟨?_, fun h => ⟨x, y, rfl, rfl, h⟩⟩
      rintro ⟨x', y', hx, hy, h⟩
      rw [double.inj hx, double.inj hy]
      exact h
    rw [Double.ieeeEq_iff, double.injEq, hnan, hzeros]
  · rename_i hdoubles
    rw [beq_iff_eq]
    constructor
    · rintro rfl
      exact .inl ⟨rfl, fun ⟨d, _, hd⟩ => hdoubles d d hd hd⟩
    · rintro (⟨heq, -⟩ | ⟨x, y, hx, hy, -⟩)
      · exact heq
      · exact (hdoubles x y hx hy).elim

end Value

section Disagreement

variable {a b : Box} {cells : Nat → String}

/-- Boxes that are the same have equal values, unless both are the same NaN. -/
theorem same_not_equal_iff (ha : a.LivesIn cells) (hb : b.LivesIn cells) :
    (a.sameIdentity b = true ∧ a.value.equals b.value = false) ↔
      a.value = b.value ∧ a.value.IsNaN := by
  constructor
  · rintro ⟨hsame, hequal⟩
    have hvalue := Box.value_eq_of_same ha hb hsame
    -- Any value but a NaN is equal to itself.
    refine ⟨hvalue, Classical.byContradiction fun hnan => ?_⟩
    have hequal' := (Value.equals_iff a.value b.value).2 (.inl ⟨hvalue, hnan⟩)
    exact absurd (hequal.symm.trans hequal') Bool.false_ne_true
  · rintro ⟨hvalue, hnan⟩
    rcases hnan with ⟨d, hd, hdouble⟩
    refine ⟨Box.same_of_value_eq hvalue fun htext => ?_, ?_⟩
    · rw [hdouble] at htext
      exact absurd htext (Value.kind_double d)
    · rw [← hvalue, hdouble, ← Bool.not_eq_true]
      intro hequal
      exact absurd ((Double.ieeeEq_self_iff d).1 hequal) (by rw [hd]; decide)

/-- Equal values are in boxes that are not the same if they are texts in cells of their own,
    or the two zeros. -/
theorem equal_not_same_iff (a b : Box) :
    (a.value.equals b.value = true ∧ a.sameIdentity b = false) ↔
      (∃ s, a.value = .string s ∧ b.value = .string s ∧ a.cell ≠ b.cell) ∨
        a.value.OppositeZeros b.value := by
  rw [Value.equals_iff, ← Bool.not_eq_true, Box.sameIdentity_iff]
  constructor
  · rintro ⟨⟨hvalue, -⟩ | hzeros, hmark⟩
    · left
      -- One value has two marks only where the mark is a cell, so it is a text.
      by_cases htext : a.value.kind = .string
      · rcases Value.exists_text htext with ⟨s, hs⟩
        refine ⟨s, hs, hvalue.symm.trans hs, fun hcell => hmark ?_⟩
        rw [Box.mark_of_text hs, Box.mark_of_text (hvalue.symm.trans hs), hcell]
      · refine absurd ?_ hmark
        rw [Box.mark_of_no_text htext, Box.mark_of_no_text (hvalue ▸ htext), hvalue]
    · exact .inr hzeros
  · rintro (⟨s, hs, hs', hcell⟩ | hzeros)
    · refine ⟨.inl ⟨hs.trans hs'.symm, ?_⟩, ?_⟩
      · rintro ⟨d, -, hd⟩
        exact absurd (hs.symm.trans hd) (by simp only [reduceCtorEq, not_false_eq_true])
      · rw [Box.mark_of_text hs, Box.mark_of_text hs', Sum.inl.injEq]
        exact hcell
    · -- The zeros differ in the bit of their sign, and bits are compared.
      refine ⟨.inr hzeros, ?_⟩
      rcases hzeros with ⟨x, y, hx, hy, -, -, hsign⟩
      rw [Box.mark_of_no_text (hx ▸ Value.kind_double x),
        Box.mark_of_no_text (hy ▸ Value.kind_double y), Sum.inr.injEq, hx, hy,
        Value.double.injEq]
      exact fun heq => hsign (heq ▸ rfl)

end Disagreement

namespace CValue

/-- What tells a representation from others of its type: its bits, or the place that it
    points to. -/
def bits : CValue → Word
  | int number => .bits number.toInt64.toUInt64
  | long number => .bits number.toUInt64
  | double number => .bits number.bits
  | charPointer address => address
  | pointer address => .bits address

/-- Representations are equal where their types and their bits are. -/
theorem beq_iff_bits (c d : CValue) : (c == d) = true ↔ c.type = d.type ∧ c.bits = d.bits := by
  rw [beq_iff_eq]
  constructor
  · rintro rfl
    exact ⟨rfl, rfl⟩
  · rintro ⟨htype, hbits⟩
    have hlong {m n : Int64} (h : m.toUInt64 = n.toUInt64) : m = n := by
      rcases m with ⟨m⟩
      exact congrArg Int64.ofUInt64 h
    cases c with
    | int m =>
        cases d with
        | int n =>
            -- An int comes with its sign extended, and nothing of it is lost by that.
            have hextended := hlong (Word.bits.inj hbits)
            have hint : m.toInt = n.toInt := by
              rw [← Int32.toInt_toInt64, hextended, Int32.toInt_toInt64]
            rw [Int32.toInt_inj.1 hint]
        | _ => exact absurd htype (by simp only [type, reduceCtorEq, not_false_eq_true])
    | long m =>
        cases d with
        | long n => rw [hlong (Word.bits.inj hbits)]
        | _ => exact absurd htype (by simp only [type, reduceCtorEq, not_false_eq_true])
    | double x =>
        cases d with
        | double y => rw [Double.bits_inj.1 (Word.bits.inj hbits)]
        | _ => exact absurd htype (by simp only [type, reduceCtorEq, not_false_eq_true])
    | charPointer address =>
        cases d with
        | charPointer address' => rw [show address = address' from hbits]
        | _ => exact absurd htype (by simp only [type, reduceCtorEq, not_false_eq_true])
    | pointer address =>
        cases d with
        | pointer address' => rw [Word.bits.inj hbits]
        | _ => exact absurd htype (by simp only [type, reduceCtorEq, not_false_eq_true])

theorem beq_equivalence : Equivalence fun c d : CValue => (c == d) = true where
  refl c := beq_self_eq_true c
  symm {c d} h := by
    rw [beq_iff_bits] at h ⊢
    exact ⟨h.1.symm, h.2.symm⟩
  trans {c d e} hcd hde := by
    rw [beq_iff_bits] at hcd hde ⊢
    exact ⟨hcd.1.trans hde.1, hcd.2.trans hde.2⟩

end CValue

/-- What is no text is represented in the same way in every arena, and stores nothing. -/
theorem Lowering.value_of_no_text {v : Value} (h : v.kind ≠ .string) :
    ∃ c, ∀ arena, Lowering.value v arena = (.ok c, arena) := by
  cases v with
  | string s => exact absurd rfl h
  | _ => exact ⟨_, fun _ => rfl⟩

/-- Identity is an equivalence that holds between a box and its copies. Where it holds, the
    values are equal, unless both are the same NaN. Where it does not and the values are
    equal, there is one text in two cells, or the two zeros. Equality of representations is an
    equivalence too, of what has the same type and the same bits, and values without text
    have equal representations in boxes that are the same, whatever the arenas hold. -/
theorem identity_refines_equality :
    (Equivalence fun a b : Box => a.sameIdentity b = true) ∧
      (∀ b copy : Box, b.Copies copy → b.sameIdentity copy = true) ∧
      (∀ (cells : Nat → String) (a b : Box), a.LivesIn cells → b.LivesIn cells →
        ((a.sameIdentity b = true ∧ a.value.equals b.value = false) ↔
          a.value = b.value ∧ a.value.IsNaN)) ∧
      (∀ a b : Box, (a.value.equals b.value = true ∧ a.sameIdentity b = false) ↔
        (∃ s, a.value = .string s ∧ b.value = .string s ∧ a.cell ≠ b.cell) ∨
          a.value.OppositeZeros b.value) ∧
      (Equivalence fun c d : CValue => (c == d) = true) ∧
      (∀ c d : CValue, (c == d) = true ↔ c.type = d.type ∧ c.bits = d.bits) ∧
      ∀ a b : Box, a.value.kind ≠ .string → a.sameIdentity b = true →
        ∃ c d, (∀ arena, Lowering.value a.value arena = (.ok c, arena)) ∧
          (∀ arena, Lowering.value b.value arena = (.ok d, arena)) ∧ (c == d) = true := by
  refine ⟨Box.sameIdentity_equivalence, fun b copy hcopy => hcopy.same,
    fun cells a b ha hb => same_not_equal_iff ha hb, equal_not_same_iff,
    CValue.beq_equivalence, CValue.beq_iff_bits, fun a b htext hsame => ?_⟩
  rcases Lowering.value_of_no_text htext with ⟨c, hc⟩
  have hvalue := Box.value_eq_of_no_text htext hsame
  exact ⟨c, c, hc, hvalue ▸ hc, beq_self_eq_true c⟩

/-- A NaN that is boxed twice: the boxes are the same, with values that are not equal and
    are represented alike. -/
theorem identity_refines_equality_nan :
    (Box.mk (.double ⟨0x7ff8000000000001⟩) 0).Copies (Box.mk (.double ⟨0x7ff8000000000001⟩) 1) ∧
      (Box.mk (.double ⟨0x7ff8000000000001⟩) 0).sameIdentity
        (Box.mk (.double ⟨0x7ff8000000000001⟩) 1) = true ∧
      (Value.double ⟨0x7ff8000000000001⟩).equals (.double ⟨0x7ff8000000000001⟩) = false ∧
      ∃ c d, (∀ arena, Lowering.value (.double ⟨0x7ff8000000000001⟩) arena = (.ok c, arena)) ∧
        (∀ arena, Lowering.value (.double ⟨0x7ff8000000000001⟩) arena = (.ok d, arena)) ∧
        (c == d) = true := by
  have hcopy : (Box.mk (.double ⟨0x7ff8000000000001⟩) 0).Copies
      (Box.mk (.double ⟨0x7ff8000000000001⟩) 1) :=
    ⟨rfl, fun htext => absurd htext (Value.kind_double _)⟩
  rcases Box.exists_cells 0 [.double ⟨0x7ff8000000000001⟩, .double ⟨0x7ff8000000000001⟩] with
    ⟨cells, hcells⟩
  rcases identity_refines_equality with ⟨-, hcopies, hnan, -, -, -, halike⟩
  have hsame := hcopies _ _ hcopy
  have hunequal := (hnan cells _ _ (hcells _ List.mem_cons_self)
    (hcells _ (List.mem_cons_of_mem _ List.mem_cons_self))).2 ⟨rfl, _, by decide +kernel, rfl⟩
  exact ⟨hcopy, hsame, hunequal.2, halike _ _ (Value.kind_double _) hsame⟩

end PrintBridge
