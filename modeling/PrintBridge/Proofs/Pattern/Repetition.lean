import Mathlib.Logic.Relation

/-!
# Repetitions

Steps that lead forward, and how often they are taken.

A step leads from one number to another, which is never smaller. Then there are only
so many steps between two numbers that move: no more than what lies between the two. If
more steps than that are taken, one of them stays where it is. Such a step can be left
out, and it can be taken again. So the number of steps does not matter any more once
there are more of them than can move: `Forward.of_slack` gives every number of steps
that is enough to cover the distance.

## Main definitions

* `Times`: A step that is taken a number of times.
* `Forward`: Steps that do not lead back.

## Theorems

* `times_add`: Some steps and then others.
* `Forward.compress`: Without the steps that stay, there are few.
* `Forward.stays`: If there are many, one of them stays.
* `Forward.of_slack`: If there are many, there might as well be another number of them.
-/

namespace PrintBridge

namespace Pattern

variable {r : Nat → Nat → Prop} {n i j : Nat}

/-- A step that is taken a number of times. -/
def Times (r : Nat → Nat → Prop) : Nat → Nat → Nat → Prop
  | 0 => Eq
  | n + 1 => Relation.Comp r (Times r n)

/-- Steps that do not lead back. -/
def Forward (r : Nat → Nat → Prop) : Prop := ∀ i j, r i j → i ≤ j

/-- Some steps and then others are as many steps as both together. -/
theorem times_add (m n : Nat) : Times r (m + n) = Relation.Comp (Times r m) (Times r n) := by
  induction m with
  | zero => rw [Nat.zero_add, Times, Relation.eq_comp]
  | succ k ih => rw [show k + 1 + n = k + n + 1 by omega, Times, ih, Times, Relation.comp_assoc]

/-- Some steps, and then at most so many more. -/
theorem comp_times_iff {m limit : Nat} :
    Relation.Comp (Times r m) (fun i j => ∃ k ≤ limit, Times r k i j) i j ↔
      ∃ k ≤ limit, Times r (m + k) i j := by
  simp only [times_add]
  constructor
  · rintro ⟨mid, hfirst, k, hk, hrest⟩
    exact ⟨k, hk, mid, hfirst, hrest⟩
  · rintro ⟨k, hk, mid, hfirst, hrest⟩
    exact ⟨mid, hfirst, k, hk, hrest⟩

/-- What one step does not go beyond, all of them do not. -/
theorem times_bounded {limit : Nat} (hstep : ∀ {i j}, r i j → i ≤ limit → j ≤ limit)
    (h : Times r n i j) (hi : i ≤ limit) : j ≤ limit := by
  induction n generalizing i with
  | zero => exact h ▸ hi
  | succ n ih =>
      rcases h with ⟨mid, hfirst, hrest⟩
      exact ih hrest (hstep hfirst hi)

/-- A step that stays can be taken any number of times. -/
theorem times_self (h : r i i) (n : Nat) : Times r n i i := by
  induction n with
  | zero => rfl
  | succ k ih => exact ⟨i, h, ih⟩

/-- At most so many steps are so many steps that may stay. -/
theorem times_or_eq_iff (n i j : Nat) :
    Times (fun i j => i = j ∨ r i j) n i j ↔ ∃ k ≤ n, Times r k i j := by
  induction n generalizing i with
  | zero =>
      constructor
      · intro h
        exact ⟨0, Nat.le_refl 0, h⟩
      · rintro ⟨k, hk, htimes⟩
        rwa [Nat.le_zero.1 hk] at htimes
  | succ n ih =>
      constructor
      · rintro ⟨mid, rfl | hstep, hrest⟩
        · rcases (ih i).1 hrest with ⟨k, hk, htimes⟩
          exact ⟨k, by omega, htimes⟩
        · rcases (ih mid).1 hrest with ⟨k, hk, htimes⟩
          exact ⟨k + 1, by omega, mid, hstep, htimes⟩
      · rintro ⟨k, hk, htimes⟩
        cases k with
        | zero => exact ⟨i, .inl rfl, (ih i).2 ⟨0, Nat.zero_le n, htimes⟩⟩
        | succ k =>
            rcases htimes with ⟨mid, hstep, hrest⟩
            exact ⟨mid, .inr hstep, (ih mid).2 ⟨k, by omega, hrest⟩⟩

namespace Forward

variable (h : Forward r)
include h

theorem times (n : Nat) : Forward (Times r n) := by
  intro i j htimes
  induction n generalizing i with
  | zero => exact Nat.le_of_eq htimes
  | succ k ih =>
      rcases htimes with ⟨mid, hstep, hrest⟩
      exact Nat.le_trans (h i mid hstep) (ih mid hrest)

/-- Without the steps that stay, there are no more than what lies in between. -/
theorem compress (htimes : Times r n i j) : ∃ m, m ≤ j - i ∧ Times r m i j := by
  induction n generalizing i with
  | zero => exact ⟨0, Nat.zero_le _, htimes⟩
  | succ k ih =>
      rcases htimes with ⟨mid, hstep, hrest⟩
      rcases ih hrest with ⟨m, hm, hmoves⟩
      have hmid := h i mid hstep
      have hend := h.times m mid j hmoves
      by_cases hstays : mid = i
      · subst hstays
        exact ⟨m, hm, hmoves⟩
      · exact ⟨m + 1, by omega, mid, hstep, hmoves⟩

/-- If there are more steps than what lies in between, one of them stays. -/
theorem stays (htimes : Times r n i j) (hslack : j - i < n) :
    ∃ mid a b, Times r a i mid ∧ r mid mid ∧ Times r b mid j := by
  induction n generalizing i with
  | zero => exact absurd hslack (Nat.not_lt_zero _)
  | succ k ih =>
      rcases htimes with ⟨mid, hstep, hrest⟩
      have hmid := h i mid hstep
      by_cases hstays : mid = i
      · subst hstays
        exact ⟨mid, 0, k, rfl, hstep, hrest⟩
      · -- The first step moves, so what is left is still too many.
        have hend := h.times k mid j hrest
        rcases ih hrest (by omega) with ⟨there, a, b, hto, hthere, hfrom⟩
        exact ⟨there, a + 1, b, ⟨mid, hstep, hto⟩, hthere, hfrom⟩

/-- If there are more steps than what lies in between, then any number of steps will do
    that is large enough. -/
theorem of_slack {m : Nat} (htimes : Times r n i j) (hslack : j - i < n) (hm : j - i ≤ m) :
    Times r m i j := by
  rcases h.stays htimes hslack with ⟨mid, a, b, hto, hstays, hfrom⟩
  rcases h.compress hto with ⟨a', ha, hto⟩
  rcases h.compress hfrom with ⟨b', hb, hfrom⟩
  have hmid := h.times a' i mid hto
  have hend := h.times b' mid j hfrom
  -- The step that stays makes up for what is missing.
  rw [show m = a' + (m - (a' + b') + b') by omega, times_add, times_add]
  exact ⟨mid, hto, mid, times_self hstays _, hfrom⟩

end Forward

end Pattern

end PrintBridge
