import PrintBridge.Pattern.Expression
import PrintBridge.Proofs.Pattern.Repetition

/-!
# Matches

What an expression matches, and that the search finds it.

A match is told by the places where it begins and ends. `Matches` says which there are,
for each expression from the matches of its parts, and says nothing about how they are
looked for. A repetition is any number of matches of its body, one behind the other,
that is among those asked for.

The search follows all places at once. It carries marks from where matches begin to
where they end, and `carry_carries` is that it does so for all matches and for nothing
else: `Carries` relates a step on marks to a relation of places, and each way to put
expressions together is a way to put such steps together.

Only repetitions are cut short, at the number of places in the text. That is no loss.
A match does not lead back, so among more repetitions than there are places one leads
nowhere, and then the number asked for can be reached in other ways as well.

## Main definitions

* `Expression.Matches`: From where to where an expression matches.
* `Expression.Ordered`: No repetition asks for less at most than at least.
* `Marks.Marked`: The places that are marked.
* `Carries`: A step on marks that follows a relation of places.

## Theorems

* `Matches.forward`, `Matches.bounded`: Matches stay within the text.
* `Carries.iterate`, `Carries.reach`: Steps that are taken more than once.
* `repeated_iff`: How repetitions are cut short.
* `carry_carries`: An expression carries marks along its matches.
* `occursIn_iff`: The search finds a match where there is one.
-/

namespace PrintBridge

namespace Pattern

/-- The character in front of a place, behind a first one. -/
def characterBefore (first : Option Char) (text : List Char) : Nat → Option Char
  | 0 => first
  | i + 1 => text[i]?

namespace Expression

/-- From where to where an expression matches. -/
def Matches (text : List Char) : Expression → Nat → Nat → Prop
  | empty => Eq
  | character members => fun i j => ∃ c, text[i]? = some c ∧ members.contains c = true ∧ j = i + 1
  | look l => fun i j => l.holds (characterBefore none text i) text[i]? = true ∧ j = i
  | sequence a b => Relation.Comp (Matches text a) (Matches text b)
  | either a b => fun i j => Matches text a i j ∨ Matches text b i j
  | repeated least most body => fun i j =>
      ∃ n, least ≤ n ∧ (∀ m ∈ most, n ≤ m) ∧ Times (Matches text body) n i j
  | remembered body => Matches text body

/-- No repetition asks for less at most than at least. -/
inductive Ordered : Expression → Prop where
  | empty : Ordered empty
  | character (members : CharSet) : Ordered (character members)
  | look (l : Look) : Ordered (look l)
  | sequence {a b : Expression} (ha : Ordered a) (hb : Ordered b) : Ordered (sequence a b)
  | either {a b : Expression} (ha : Ordered a) (hb : Ordered b) : Ordered (either a b)
  | repeated {least : Nat} {most : Option Nat} {body : Expression}
      (hcounts : ∀ m ∈ most, least ≤ m) (hbody : Ordered body) :
      Ordered (repeated least most body)
  | remembered {body : Expression} (hbody : Ordered body) : Ordered (remembered body)

namespace Matches

variable {text : List Char}

theorem forward (e : Expression) : Forward (Matches text e) := by
  induction e with
  | empty => exact fun i j h => Nat.le_of_eq h
  | character members =>
      rintro i j ⟨c, hc, hmember, rfl⟩
      exact Nat.le_succ i
  | look l =>
      rintro i j ⟨hholds, rfl⟩
      exact Nat.le_refl _
  | sequence a b ha hb =>
      rintro i j ⟨mid, hfirst, hsecond⟩
      exact Nat.le_trans (ha i mid hfirst) (hb mid j hsecond)
  | either a b ha hb =>
      rintro i j (h | h)
      · exact ha i j h
      · exact hb i j h
  | repeated least most body hbody =>
      rintro i j ⟨n, -, -, htimes⟩
      exact hbody.times n i j htimes
  | remembered body hbody => exact hbody

/-- A match ends in the text if it begins there. -/
theorem bounded (e : Expression) {i j : Nat} (h : Matches text e i j) (hi : i ≤ text.length) :
    j ≤ text.length := by
  induction e generalizing i j with
  | empty => exact h ▸ hi
  | character members =>
      rcases h with ⟨c, hc, -, rfl⟩
      exact (List.getElem?_eq_some_iff.1 hc).1
  | look l => exact h.2 ▸ hi
  | sequence a b ha hb =>
      rcases h with ⟨mid, hfirst, hsecond⟩
      exact hb hsecond (ha hfirst hi)
  | either a b ha hb =>
      rcases h with h | h
      · exact ha h hi
      · exact hb h hi
  | repeated least most body hbody =>
      rcases h with ⟨n, -, -, htimes⟩
      exact times_bounded hbody htimes hi
  | remembered body hbody => exact hbody h hi

end Matches

end Expression

namespace Look

variable {text : List Char} {i : Nat}

theorem length_places (l : Look) (first : Option Char) (text : List Char) :
    (l.places first text).length = text.length + 1 := by
  induction text generalizing first with
  | nil => rfl
  | cons c rest ih => rw [places, List.length_cons, ih, List.length_cons]

theorem getElem?_places (l : Look) (first : Option Char) (h : i ≤ text.length) :
    (l.places first text)[i]? = some (l.holds (characterBefore first text i) text[i]?) := by
  induction text generalizing first i with
  | nil =>
      rw [Nat.le_zero.1 h]
      rfl
  | cons c rest ih =>
      cases i with
      | zero => rfl
      | succ i =>
          rw [places, List.getElem?_cons_succ, ih (some c) (Nat.le_of_succ_le_succ h),
            List.getElem?_cons_succ]
          cases i with
          | zero => rfl
          | succ i => rfl

end Look

namespace Marks

/-- A place is marked. -/
def Marked (m : Marks) (i : Nat) : Prop := m[i]? = some true

theorem marked_join {m n : Marks} (h : m.length = n.length) (i : Nat) :
    (join m n).Marked i ↔ m.Marked i ∨ n.Marked i := by
  by_cases hi : i < m.length
  · have hn : i < n.length := h ▸ hi
    simp only [Marked, join, List.getElem?_zipWith, List.getElem?_eq_getElem hi,
      List.getElem?_eq_getElem hn, Option.some.injEq, Bool.or_eq_true]
  · have hn : ¬ i < n.length := h ▸ hi
    simp only [Marked, join, List.getElem?_zipWith, List.getElem?_eq_none (Nat.not_lt.1 hi),
      List.getElem?_eq_none (Nat.not_lt.1 hn), reduceCtorEq, or_self]

theorem marked_keep (m : Marks) (places : List Bool) (i : Nat) :
    (m.keep places).Marked i ↔ m.Marked i ∧ places[i]? = some true := by
  simp only [Marked, keep, List.getElem?_zipWith]
  rcases m[i]? with _ | marked
  · simp only [reduceCtorEq, false_and]
  · rcases places[i]? with _ | holds
    · simp only [reduceCtorEq, and_false]
    · simp only [Option.some.injEq, Bool.and_eq_true]

theorem marked_past (m : Marks) (text : List Char) (members : CharSet) (j : Nat) :
    (m.past text members).Marked j ↔
      ∃ i, m.Marked i ∧ ∃ c, text[i]? = some c ∧ members.contains c = true ∧ j = i + 1 := by
  cases j with
  | zero =>
      -- No match of a character ends in front of the text.
      refine iff_of_false (by simp only [Marked, past, List.getElem?_cons_zero, Option.some.injEq,
        Bool.false_eq_true, not_false_eq_true]) ?_
      rintro ⟨i, -, c, -, -, hj⟩
      exact absurd hj (Nat.succ_ne_zero i).symm
  | succ i =>
      simp only [Marked, past, List.getElem?_cons_succ, List.getElem?_zipWith]
      constructor
      · intro h
        rcases hm : m[i]? with _ | marked
        · rw [hm] at h
          exact absurd h (by simp only [reduceCtorEq, not_false_eq_true])
        · rcases hc : text[i]? with _ | c
          · rw [hm, hc] at h
            exact absurd h (by simp only [reduceCtorEq, not_false_eq_true])
          · rw [hm, hc] at h
            simp only [Option.some.injEq, Bool.and_eq_true] at h
            exact ⟨i, by rw [hm, h.1], c, hc, h.2, rfl⟩
      · rintro ⟨i', hm, c, hc, hmember, hi⟩
        obtain rfl : i = i' := Nat.succ.inj hi
        simp only [hm, hc, hmember, Bool.and_self]

theorem marked_everywhere (text : List Char) (i : Nat) :
    (everywhere text).Marked i ↔ i ≤ text.length := by
  rw [Marked, everywhere, List.getElem?_replicate]
  by_cases hi : i < text.length + 1
  · simp only [if_pos hi, Nat.le_of_lt_succ hi]
  · simp only [if_neg hi, reduceCtorEq, false_iff]
    omega

/-- Where a step changes nothing, it need not be taken again. -/
theorem iterate_succ (step : Marks → Marks) (n : Nat) (m : Marks) :
    iterate step (n + 1) m = iterate step n (step m) := by
  rw [iterate]
  by_cases hfixed : step m = m
  · rw [if_pos hfixed, hfixed]
    cases n with
    | zero => rfl
    | succ n => rw [iterate, if_pos hfixed]
  · rw [if_neg hfixed]

end Marks

/-- A step on the marks of so many places that carries them along a relation. -/
structure Carries (places : Nat) (step : Marks → Marks) (r : Nat → Nat → Prop) : Prop where
  length : ∀ m : Marks, m.length = places → (step m).length = places
  marked : ∀ (m : Marks) (j : Nat), m.length = places →
    ((step m).Marked j ↔ ∃ i, m.Marked i ∧ r i j)

namespace Carries

variable {places : Nat} {step other : Marks → Marks} {r p : Nat → Nat → Prop}

/-- A marked place is one of the places. -/
theorem lt_of_marked {m : Marks} {i : Nat} (h : m.Marked i) : i < m.length :=
  (List.getElem?_eq_some_iff.1 h).1

theorem refl (places : Nat) : Carries places (fun m => m) Eq where
  length _ hm := hm
  marked m j _ := by simp only [exists_eq_right]

/-- Only what the relation does to the places counts. -/
theorem congr (h : Carries places step r) (hiff : ∀ i j, i < places → (r i j ↔ p i j)) :
    Carries places step p where
  length := h.length
  marked m j hm := by
    rw [h.marked m j hm]
    refine exists_congr fun i => and_congr_right fun hi => hiff i j ?_
    exact hm ▸ lt_of_marked hi

theorem comp (h : Carries places step r) (hother : Carries places other p) :
    Carries places (fun m => other (step m)) (Relation.Comp r p) where
  length m hm := hother.length _ (h.length m hm)
  marked m j hm := by
    rw [hother.marked _ j (h.length m hm)]
    constructor
    · rintro ⟨mid, hmid, hsecond⟩
      rcases (h.marked m mid hm).1 hmid with ⟨i, hi, hfirst⟩
      exact ⟨i, hi, mid, hfirst, hsecond⟩
    · rintro ⟨i, hi, mid, hfirst, hsecond⟩
      exact ⟨mid, (h.marked m mid hm).2 ⟨i, hi, hfirst⟩, hsecond⟩

theorem join (h : Carries places step r) (hother : Carries places other p) :
    Carries places (fun m => Marks.join (step m) (other m)) fun i j => r i j ∨ p i j where
  length m hm := by
    rw [Marks.join, List.length_zipWith, h.length m hm, hother.length m hm, Nat.min_self]
  marked m j hm := by
    have hlength : (step m).length = (other m).length :=
      (h.length m hm).trans (hother.length m hm).symm
    rw [Marks.marked_join hlength, h.marked m j hm, hother.marked m j hm]
    simp only [and_or_left, exists_or]

theorem iterate (h : Carries places step r) (n : Nat) :
    Carries places (Marks.iterate step n) (Times r n) := by
  induction n with
  | zero => exact refl places
  | succ n ih =>
      have hsucc : Marks.iterate step (n + 1) = fun m => Marks.iterate step n (step m) := by
        funext m
        exact Marks.iterate_succ step n m
      rw [hsucc]
      exact h.comp ih

theorem reach (h : Carries places step r) (n : Nat) :
    Carries places (Marks.reach step n) fun i j => ∃ k ≤ n, Times r k i j :=
  (((refl places).join h).iterate n).congr fun i j _ => times_or_eq_iff n i j

/-- Marks are carried over a character. -/
theorem past (text : List Char) (members : CharSet) :
    Carries (text.length + 1) (fun m => m.past text members)
      ((Expression.character members).Matches text) where
  length m hm := by
    rw [Marks.past, List.length_cons, List.length_zipWith, hm]
    omega
  marked m j _ := Marks.marked_past m text members j

/-- Marks stay where something holds. -/
theorem keep (text : List Char) (l : Look) :
    Carries (text.length + 1) (fun m => m.keep (l.places none text))
      ((Expression.look l).Matches text) where
  length m hm := by
    rw [Marks.keep, List.length_zipWith, hm, l.length_places, Nat.min_self]
  marked m j hm := by
    rw [Marks.marked_keep]
    constructor
    · rintro ⟨hj, hholds⟩
      have hlt := lt_of_marked hj
      have hle : j ≤ text.length := by omega
      rw [l.getElem?_places none hle, Option.some.injEq] at hholds
      exact ⟨j, hj, hholds, rfl⟩
    · rintro ⟨i, hi, hholds, rfl⟩
      have hlt := lt_of_marked hi
      have hle : j ≤ text.length := by omega
      exact ⟨hi, by rw [l.getElem?_places none hle, hholds]⟩

end Carries

namespace Expression

variable {text : List Char}

/-- So many repetitions can be made behind those that have to be, if no more than a limit
    are. -/
def further (least : Nat) (most : Option Nat) (limit : Nat) : Nat :=
  (most.map fun m => min (m - least) limit).getD limit

/-- The limit is all that is lost. -/
theorem le_further {least n limit : Nat} {most : Option Nat} (hmost : ∀ m ∈ most, n ≤ m) :
    n - least ≤ further least most limit ∨ further least most limit = limit := by
  cases most with
  | none => exact .inr rfl
  | some m =>
      have hm : n ≤ m := hmost m rfl
      have hfurther : further least (some m) limit = min (m - least) limit := rfl
      omega

theorem further_le {least k limit : Nat} {most : Option Nat} (hcounts : ∀ m ∈ most, least ≤ m)
    (hk : k ≤ further least most limit) : ∀ m ∈ most, least + k ≤ m := by
  rintro m rfl
  have hm : least ≤ m := hcounts m rfl
  have hfurther : further least (some m) limit = min (m - least) limit := rfl
  omega

/-- No repetitions are needed beyond the number of places, neither of those that have to be
    made nor of those that may be. -/
theorem repeated_iff {r : Nat → Nat → Prop} (hforward : Forward r) {places i j : Nat}
    (hbounded : ∀ n, Times r n i j → j < places) {least : Nat} {most : Option Nat}
    (hcounts : ∀ m ∈ most, least ≤ m) :
    (∃ n, least ≤ n ∧ (∀ m ∈ most, n ≤ m) ∧ Times r n i j) ↔
      ∃ k ≤ further least most places, Times r (min least places + k) i j := by
  by_cases hfew : least ≤ places
  · rw [Nat.min_eq_left hfew]
    constructor
    · rintro ⟨n, hleast, hmost, htimes⟩
      have hj := hbounded n htimes
      have hfurther : n - least ≤ further least most places ∨ further least most places = places :=
        le_further hmost
      rcases hfurther with hk | hlimit
      · exact ⟨n - least, hk, by rwa [Nat.add_sub_cancel' hleast]⟩
      · by_cases hmany : n - least ≤ places
        · exact ⟨n - least, by omega, by rwa [Nat.add_sub_cancel' hleast]⟩
        · -- There are more repetitions than places.
          exact ⟨places, by omega, hforward.of_slack htimes (by omega) (by omega)⟩
    · rintro ⟨k, hk, htimes⟩
      exact ⟨least + k, Nat.le_add_right _ _, further_le hcounts hk, htimes⟩
  · rw [Nat.min_eq_right (Nat.le_of_not_le hfew)]
    constructor
    · rintro ⟨n, hleast, hmost, htimes⟩
      have hj := hbounded n htimes
      exact ⟨0, Nat.zero_le _, hforward.of_slack htimes (by omega) (by omega)⟩
    · rintro ⟨k, hk, htimes⟩
      have hj := hbounded _ htimes
      exact ⟨least, Nat.le_refl _, hcounts, hforward.of_slack htimes (by omega) (by omega)⟩

/-- An expression carries marks along its matches. -/
theorem carry_carries (text : List Char) {e : Expression} (h : e.Ordered) :
    Carries (text.length + 1) (carry text e) (e.Matches text) := by
  induction h with
  | empty => exact .refl _
  | character members => exact .past text members
  | look l => exact .keep text l
  | sequence _ _ ha hb => exact ha.comp hb
  | either _ _ ha hb => exact ha.join hb
  | @repeated least most body hcounts _ hbody =>
      have hmarks := (hbody.iterate (min least (text.length + 1))).comp
        (hbody.reach (further least most (text.length + 1)))
      refine hmarks.congr fun i j hi => ?_
      have hbounded : ∀ n, Times (body.Matches text) n i j → j < text.length + 1 := by
        intro n htimes
        have hj := times_bounded (Matches.bounded body) htimes (Nat.le_of_lt_succ hi)
        omega
      exact comp_times_iff.trans
        (repeated_iff (Matches.forward body) hbounded hcounts).symm
  | remembered _ hbody => exact hbody

/-- The search finds a match where there is one. -/
theorem occursIn_iff (text : List Char) {e : Expression} (h : e.Ordered) :
    e.occursIn text = true ↔ ∃ i j, i ≤ text.length ∧ e.Matches text i j := by
  have hlength : (Marks.everywhere text).length = text.length + 1 := List.length_replicate
  have hany : e.occursIn text = true ↔ ∃ j, (carry text e (Marks.everywhere text)).Marked j := by
    rw [occursIn, List.any_eq_true]
    constructor
    · rintro ⟨marked, hmem, hmarked⟩
      rcases List.mem_iff_getElem?.1 hmem with ⟨j, hj⟩
      exact ⟨j, hj.trans (congrArg some hmarked)⟩
    · rintro ⟨j, hj⟩
      exact ⟨true, List.mem_of_getElem? hj, rfl⟩
  rw [hany, exists_comm]
  refine exists_congr fun j => ?_
  rw [(carry_carries text h).marked _ j hlength]
  simp only [Marks.marked_everywhere]

end Expression

end Pattern

end PrintBridge
