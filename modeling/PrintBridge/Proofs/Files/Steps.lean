import Mathlib.Data.List.TakeWhile
import PrintBridge.Path

/-!
# Steps of a Path

What the text of a path says, step by step, and what becomes of it on the way
to the parent.

A path is taken apart twice, once from the front, when it is followed, and once
from the back, when its parent is taken. The two have to agree on what the
steps are. From the back, the last segment is what stands before the first
slash of the reversed bytes, and `stepsOf_reverse` says that it contributes the
last step, if any. So trimming drops no step, and the parent drops exactly one.

Where a path opens at the root or with a dot, the opening says nothing that a
step would say, and it is kept until the end.

## Main definitions

* `Path.stepsOf`, `Path.steps`: The steps that bytes or a path say.

## Theorems

* `splitSegments_append_slash`: A slash parts segments.
* `stepsOf_reverse`: The last segment gives the last step.
* `stepsOf_trimSegments`: Trimming keeps the steps.
* `steps_parent`: A parent has one step less.
* `steps_of_no_parent`: Without a parent there are no steps.
* `isAbsolute_parent`: A parent starts at the same place.
* `segments_join`: A file in a directory is one more segment.
-/

namespace PrintBridge

namespace Path

/-- The steps that bytes say. -/
def stepsOf (bytes : Bytes) : List Component := (splitSegments bytes).filterMap componentOf?

/-- The steps of a path. -/
def steps (p : Path) : List Component := stepsOf p.bytes

theorem splitSegments_cons (b : UInt8) (rest : Bytes) :
    ∃ first others, splitSegments rest = first :: others ∧
      splitSegments (b :: rest) =
        if b = slash then [] :: first :: others else (b :: first) :: others := by
  have hne : splitSegments rest ≠ [] := by
    cases rest with
    | nil => exact List.cons_ne_nil _ _
    | cons c rest =>
        rw [splitSegments]
        split
        · exact List.cons_ne_nil _ _
        · split
          · exact List.cons_ne_nil _ _
          · exact List.cons_ne_nil _ _
  rcases List.exists_cons_of_ne_nil hne with ⟨first, others, h⟩
  exact ⟨first, others, h, by rw [splitSegments, h]⟩

theorem splitSegments_slash (rest : Bytes) :
    splitSegments (slash :: rest) = [] :: splitSegments rest := by
  rcases splitSegments_cons slash rest with ⟨first, others, hrest, hall⟩
  rw [hall, if_pos rfl, hrest]

/-- A slash parts segments. -/
theorem splitSegments_append_slash (front back : Bytes) :
    splitSegments (front ++ slash :: back) = splitSegments front ++ splitSegments back := by
  induction front with
  | nil => exact splitSegments_slash back
  | cons b front ih =>
      rcases splitSegments_cons b front with ⟨first, others, hfront, hall⟩
      rcases splitSegments_cons b (front ++ slash :: back) with ⟨first', others', hboth, hall'⟩
      rw [ih, hfront, List.cons_append, List.cons.injEq] at hboth
      rw [List.cons_append, hall', hall, ← hboth.1, ← hboth.2]
      split <;> rfl

theorem splitSegments_of_no_slash {bytes : Bytes} (h : slash ∉ bytes) :
    splitSegments bytes = [bytes] := by
  induction bytes with
  | nil => rfl
  | cons b rest ih =>
      rw [List.mem_cons, not_or] at h
      rw [splitSegments, ih h.2]
      simp only [Ne.symm h.1, if_false]

theorem stepsOf_append_slash (front back : Bytes) :
    stepsOf (front ++ slash :: back) = stepsOf front ++ stepsOf back := by
  rw [stepsOf, splitSegments_append_slash, List.filterMap_append, stepsOf, stepsOf]

theorem stepsOf_of_no_slash {bytes : Bytes} (h : slash ∉ bytes) :
    stepsOf bytes = (componentOf? bytes).toList := by
  rw [stepsOf, splitSegments_of_no_slash h]
  cases hc : componentOf? bytes <;>
    simp only [List.filterMap_cons, hc, List.filterMap_nil, Option.toList]

@[simp]
theorem stepsOf_nil : stepsOf [] = [] := rfl

/-- A segment says nothing, or to go up, or its own name. -/
theorem componentOf?_cases (segment : Bytes) :
    componentOf? segment = none ∨ componentOf? segment = some .up ∨
      componentOf? segment = some (.name segment) := by
  unfold componentOf?
  split
  · exact .inl rfl
  · split
    · exact .inr (.inl rfl)
    · exact .inr (.inr rfl)

/-- Reversed bytes start with the last segment, up to the first slash. -/
theorem reversed_cases (reversed : Bytes) :
    (slash ∉ reversed ∧ reversed.takeWhile (· != slash) = reversed ∧ dropSegment reversed = []) ∨
      ∃ rest, slash ∉ reversed.takeWhile (· != slash) ∧ dropSegment reversed = rest ∧
        reversed = reversed.takeWhile (· != slash) ++ slash :: rest := by
  by_cases hslash : slash ∈ reversed
  · right
    rcases List.eq_append_cons_of_mem hslash with ⟨segment, rest, hall, hsegment⟩
    have hpass : ∀ b ∈ segment, (b != slash) = true := fun b hb =>
      bne_iff_ne.2 fun heq => hsegment (heq ▸ hb)
    have htake : reversed.takeWhile (· != slash) = segment := by
      rw [hall, List.takeWhile_append_of_pos hpass, List.takeWhile_cons, bne_self_eq_false,
        if_neg Bool.false_ne_true, List.append_nil]
    have hdrop : dropSegment reversed = rest := by
      rw [dropSegment, hall, List.dropWhile_append_of_pos hpass, List.dropWhile_cons,
        bne_self_eq_false, if_neg Bool.false_ne_true, List.drop_one, List.tail_cons]
    exact ⟨rest, htake ▸ hsegment, hdrop, by rw [htake]; exact hall⟩
  · left
    have hpass : ∀ b ∈ reversed, (b != slash) = true := fun b hb =>
      bne_iff_ne.2 fun heq => hslash (heq ▸ hb)
    refine ⟨hslash, List.takeWhile_eq_self_iff.2 hpass, ?_⟩
    rw [dropSegment, List.dropWhile_eq_nil_iff.2 hpass, List.drop_nil]

/-- The last segment gives the last step, if any. -/
theorem stepsOf_reverse (reversed : Bytes) :
    stepsOf reversed.reverse =
      stepsOf (dropSegment reversed).reverse ++
        (componentOf? (reversed.takeWhile (· != slash)).reverse).toList := by
  -- Without a slash all of it is the last segment.
  rcases reversed_cases reversed with ⟨hslash, htake, hdrop⟩ | ⟨rest, hslash, hdrop, hall⟩
  · rw [hdrop, htake, List.reverse_nil, stepsOf_nil, List.nil_append]
    exact stepsOf_of_no_slash fun hmem => hslash (List.mem_reverse.1 hmem)
  · rw [hdrop]
    conv => lhs; rw [hall]
    rw [List.reverse_append, List.reverse_cons, List.append_assoc, List.singleton_append,
      stepsOf_append_slash,
      stepsOf_of_no_slash fun hmem => hslash (List.mem_reverse.1 hmem)]

theorem dropSegment_suffix (reversed : Bytes) : dropSegment reversed <:+ reversed :=
  (List.drop_suffix 1 _).trans (List.dropWhile_suffix _)

theorem trimSegments_suffix (reversed : Bytes) : trimSegments reversed <:+ reversed := by
  fun_induction trimSegments reversed with
  | case1 => exact List.suffix_refl _
  | case2 reversed _ _ _ ih => exact ih.trans (dropSegment_suffix reversed)
  | case3 => exact List.suffix_refl _

/-- Trimming keeps the steps. -/
theorem stepsOf_trimSegments (reversed : Bytes) :
    stepsOf (trimSegments reversed).reverse = stepsOf reversed.reverse := by
  fun_induction trimSegments reversed with
  | case1 => rfl
  | case2 reversed _ hnone _ ih =>
      rw [ih, stepsOf_reverse reversed, Option.isNone_iff_eq_none.1 hnone, Option.toList_none,
        List.append_nil]
  | case3 => rfl

/-- What is left by trimming ends with a step. -/
theorem trimSegments_last (reversed : Bytes) (h : trimSegments reversed ≠ []) :
    (componentOf? ((trimSegments reversed).takeWhile (· != slash)).reverse).isSome := by
  fun_induction trimSegments reversed with
  | case1 => exact absurd rfl h
  | case2 _ _ _ _ ih => exact ih h
  | case3 reversed _ hsome =>
      exact Option.isSome_iff_ne_none.2 fun hnone => hsome (Option.isNone_iff_eq_none.2 hnone)

/-- The opening says no step, whatever is kept of the rest. -/
theorem stepsOf_opening {bytes kept : Bytes} (h : kept <+: (opening bytes).2) :
    stepsOf ((opening bytes).1 ++ kept) = stepsOf kept := by
  cases bytes with
  | nil => rfl
  | cons b rest =>
      simp only [opening] at h ⊢
      split at h
      · rename_i hb
        rw [if_pos hb]
        exact stepsOf_append_slash [] kept
      · rename_i hb
        rw [if_neg hb]
        split at h
        · rename_i hdot
          rw [if_pos hdot]
          -- Only nothing or a slash can come after the dot.
          rcases kept with _ | ⟨c, kept⟩
          · rfl
          · rcases hdot.2 with hnil | hslash
            · exact absurd (hnil ▸ h) (by
                simp only [List.prefix_nil, reduceCtorEq, not_false_eq_true])
            · rcases h with ⟨back, hrest⟩
              simp only at hrest
              rw [← hrest] at hslash
              injection hslash with hc
              subst hc
              exact (stepsOf_append_slash [dot] kept).trans (stepsOf_append_slash [] kept).symm
        · rename_i hdot
          rw [if_neg hdot, List.nil_append]

variable {p q : Path}

theorem steps_eq_body (p : Path) : p.steps = stepsOf (opening p.bytes).2 := by
  rw [← stepsOf_opening (List.prefix_refl _), opening_append, steps]

/-- The opening is a root, a dot, or nothing in front of something relative. -/
theorem opening_cases (bytes : Bytes) :
    ((opening bytes).1 = [slash] ∧ bytes.head? = some slash) ∨
      ((opening bytes).1 = [dot] ∧ bytes.head? = some dot) ∨
        ((opening bytes).1 = [] ∧ bytes.head? ≠ some slash) := by
  cases bytes with
  | nil => exact .inr (.inr ⟨rfl, by simp only [List.head?_nil, ne_eq, reduceCtorEq,
      not_false_eq_true]⟩)
  | cons b rest =>
      simp only [opening]
      split
      · rename_i hb
        exact .inl ⟨rfl, by rw [hb, List.head?_cons]⟩
      · rename_i hb
        split
        · rename_i hdot
          exact .inr (.inl ⟨rfl, by rw [hdot.1, List.head?_cons]⟩)
        · exact .inr (.inr ⟨rfl, fun heq => hb (Option.some.inj heq)⟩)

/-- Going up is a step exactly if it is a component. -/
theorem up_mem_steps_iff (p : Path) : .up ∈ p.steps ↔ .up ∈ p.components := by
  rw [steps_eq_body]
  rcases opening_cases p.bytes with ⟨hfront, -⟩ | ⟨hfront, -⟩ | ⟨hfront, -⟩ <;>
    simp [components, hfront, stepsOf, slash, dot]

/-- What a parent is, if there is one: a dot goes at last, and else a step. What
    is kept then does not end with a segment that says nothing. -/
theorem parent?_cases (h : p.parent? = some q) :
    (q.bytes = [] ∧ (opening p.bytes).1 = [dot] ∧ p.steps = []) ∨
      ∃ kept, q.bytes = (opening p.bytes).1 ++ kept ∧ kept <+: (opening p.bytes).2 ∧
        stepsOf kept = p.steps.dropLast ∧ p.steps ≠ [] ∧ kept ≠ [dot] := by
  have hsteps := stepsOf_trimSegments (opening p.bytes).2.reverse
  rw [List.reverse_reverse, ← steps_eq_body] at hsteps
  simp only [parent?] at h
  split at h
  · rename_i hnil
    split at h
    · rename_i hdot
      injection h with h
      rw [hnil, List.reverse_nil, stepsOf_nil] at hsteps
      exact .inl ⟨h ▸ rfl, hdot, hsteps.symm⟩
    · exact absurd h (by simp only [reduceCtorEq, not_false_eq_true])
  · rename_i hkept
    injection h with h
    right
    -- Trimmed, dropped and trimmed again: only the dropping takes a step away.
    rcases Option.isSome_iff_exists.1 (trimSegments_last _ hkept) with ⟨c, hc⟩
    rw [stepsOf_reverse, hc, Option.toList_some] at hsteps
    refine ⟨_, congrArg Path.bytes h.symm, ?_, ?_, ?_, ?_⟩
    · have hsuffix := ((trimSegments_suffix _).trans (dropSegment_suffix _)).trans
        (trimSegments_suffix (opening p.bytes).2.reverse)
      exact List.reverse_suffix.1 (by rwa [List.reverse_reverse])
    · rw [stepsOf_trimSegments, ← hsteps, List.dropLast_concat]
    · rw [← hsteps]
      exact List.append_ne_nil_of_right_ne_nil _ (List.cons_ne_nil _ _)
    · intro hdot
      have hreversed : trimSegments (dropSegment (trimSegments (opening p.bytes).2.reverse)) =
          [dot] := List.reverse_eq_iff.1 hdot
      have hlast := trimSegments_last _ (by rw [hreversed]; exact List.cons_ne_nil _ _)
      rw [hreversed] at hlast
      exact absurd hlast (by decide)

/-- A parent has one step less, if there is a step at all. -/
theorem steps_parent (h : p.parent? = some q) : q.steps = p.steps.dropLast := by
  rcases parent?_cases h with ⟨hnil, -, hsteps⟩ | ⟨kept, hbytes, hkept, hsteps, -⟩
  · rw [steps, hnil, stepsOf_nil, hsteps, List.dropLast_nil]
  · rw [steps, hbytes, stepsOf_opening hkept, hsteps]

theorem steps_of_no_parent (h : p.parent? = none) : p.steps = [] := by
  have hsteps := stepsOf_trimSegments (opening p.bytes).2.reverse
  rw [List.reverse_reverse, ← steps_eq_body] at hsteps
  simp only [parent?] at h
  split at h
  · rename_i hnil
    rw [← hsteps, hnil, List.reverse_nil, stepsOf_nil]
  · exact absurd h (by simp only [reduceCtorEq, not_false_eq_true])

theorem parent_front (h : p.parent? = some q) : q.bytes <+: p.bytes := by
  rcases parent?_cases h with ⟨hnil, -, -⟩ | ⟨kept, hbytes, hkept, -⟩
  · rw [hnil]
    exact List.nil_prefix
  · have hall := (List.prefix_append_right_inj (opening p.bytes).1).2 hkept
    rwa [← hbytes, opening_append] at hall

/-- A parent starts at the same place. -/
theorem isAbsolute_parent (h : p.parent? = some q) : q.isAbsolute = p.isAbsolute := by
  have hbody := parent_front h
  rw [isAbsolute, isAbsolute]
  rcases parent?_cases h with ⟨hnil, hdot, -⟩ | ⟨kept, hbytes, hkept, -⟩
  · rcases opening_cases p.bytes with ⟨hfront, -⟩ | ⟨-, hhead⟩ | ⟨hfront, -⟩
    · exact absurd (hfront.symm.trans hdot) (by decide)
    · rw [hnil, hhead]
      decide
    · exact absurd (hfront.symm.trans hdot) (by decide)
  · rcases opening_cases p.bytes with ⟨hfront, hhead⟩ | ⟨hfront, hhead⟩ | ⟨hfront, hhead⟩
    · rw [hbytes, hfront, hhead]
      rfl
    · rw [hbytes, hfront, hhead]
      rfl
    · rw [beq_eq_false_iff_ne.2 hhead]
      rcases hq : q.bytes with _ | ⟨b, rest⟩
      · rfl
      · rcases hbody with ⟨back, hback⟩
        rw [hq] at hback
        rw [← hback, List.cons_append, List.head?_cons] at hhead
        exact beq_eq_false_iff_ne.2 hhead

theorem not_absolute_of_no_slash {name : Bytes} (h : slash ∉ name) :
    ¬ (isAbsolute ⟨name⟩ = true) :=
  fun habsolute => h (List.mem_of_head? (eq_of_beq habsolute))

/-- A file in a directory is one more segment behind the steps to it. -/
theorem segments_join (directory : Path) {name : Bytes} (hname : slash ∉ name) :
    ∃ front, (directory.join ⟨name⟩).segments = front ++ [name] ∧
      front.filterMap componentOf? = directory.steps := by
  rw [join, if_neg (not_absolute_of_no_slash hname)]
  split
  · rename_i hopen
    rcases hopen with hnil | hlast
    · exact ⟨[], by rw [segments, hnil, List.nil_append, splitSegments_of_no_slash hname,
        List.nil_append], by rw [steps, hnil]; rfl⟩
    · rcases List.getLast?_eq_some_iff.1 hlast with ⟨front, hfront⟩
      refine ⟨splitSegments front, ?_, ?_⟩
      · rw [segments, hfront, List.append_assoc, List.singleton_append,
          splitSegments_append_slash, splitSegments_of_no_slash hname]
      · rw [steps, hfront, stepsOf_append_slash, stepsOf_nil, List.append_nil, stepsOf]
  · exact ⟨splitSegments directory.bytes, by
      rw [segments, splitSegments_append_slash, splitSegments_of_no_slash hname], rfl⟩

end Path

end PrintBridge
