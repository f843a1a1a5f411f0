import Mathlib.Algebra.Ring.Parity
import Mathlib.Data.List.DropRight
import PrintBridge.Proofs.Literal.Quoting

/-!
# Expansion in Parts

What expansion makes of a text that is put together from two, and which texts it
leaves as they are.

Expansion goes through a text in units, a backslash with the character behind it or a
single character. Where two texts are joined, the last unit of the first may reach
into the second, and then the two cannot be expanded apart. That happens exactly where
a backslash is pending at the join, one that has not yet got its character.

Whether one is pending depends on all that stands before it, since a backslash that is
the second character of a unit opens none. But only the run of backslashes at the end
counts: any other character closes the unit that it belongs to, and from there on the
backslashes pair up. So one is pending where the run is odd, and there the text can be
parted just before its last backslash.

A known escape loses a character when it is expanded and no unit gains one. So a text
that is not changed has kept its length, and no unit of it can be a known escape. The
units are those of the scan: in two backslashes before an n, the second backslash and
the n are no unit, although the two stand side by side.

## Main definitions

* `backslashes`: The length of the run of backslashes at the end of a text.
* `pending`: Whether a backslash at the end waits for its character.
* `units`: The units of a text.
* `Recognised`: A unit that is a known escape.

## Theorems

* `pending_iff`: A backslash is pending where the run at the end is odd.
* `expandChars_append`: Where none is pending, the parts are expanded apart.
* `flatten_units`: The units make up the text.
* `expandChars_eq_self_iff`: What is left as it is.
* `expand_parts`: Expansion of joined texts, of lengths, and of what is not changed.
-/

namespace PrintBridge

namespace Text

/-- How many backslashes stand at the end of a text. -/
def backslashes (cs : List Char) : Nat := (cs.rtakeWhile (· == '\\')).length

/-- Whether a backslash waits for its character behind `c`, if one did or did not
    before. -/
def pendingBehind (before : Bool) (c : Char) : Bool := !before && c == '\\'

/-- Whether a backslash waits for its character at the end of a text. -/
def pending (cs : List Char) : Bool := cs.foldl pendingBehind false

/-- The units of a text, from the left. A backslash at the end is a unit alone. -/
def units : List Char → List (List Char)
  | [] => []
  | '\\' :: c :: rest => ['\\', c] :: units rest
  | c :: rest => [c] :: units rest

/-- A unit that is a known escape. -/
def Recognised (unit : List Char) : Prop := ∃ escape ∈ escapes, unit = ['\\', escape.1]

variable {a cs : List Char} {c : Char}

section Joining

theorem backslashes_concat_backslash (front : List Char) :
    backslashes (front ++ ['\\']) = backslashes front + 1 := by
  rw [backslashes, List.rtakeWhile_concat_pos _ _ _ (by decide), List.length_append,
    List.length_singleton, backslashes]

theorem backslashes_concat (front : List Char) (hc : c ≠ '\\') :
    backslashes (front ++ [c]) = 0 := by
  rw [backslashes, List.rtakeWhile_concat_neg, List.length_nil]
  rw [beq_iff_eq]
  exact hc

/-- A backslash is pending where the run at the end is odd. -/
theorem pending_iff (cs : List Char) : pending cs = true ↔ Odd (backslashes cs) := by
  -- The run is counted from the end, so that is where the induction goes.
  induction cs using List.reverseRecOn with
  | nil => decide
  | append_singleton front c ih =>
      have hstep : pending (front ++ [c]) = pendingBehind (pending front) c := by
        rw [pending, List.foldl_append]
        rfl
      rw [hstep]
      by_cases hc : c = '\\'
      · subst hc
        rw [backslashes_concat_backslash, Nat.odd_add_one, ← ih]
        simp only [pendingBehind, BEq.rfl, Bool.and_true, Bool.not_eq_true', Bool.not_eq_true]
      · rw [backslashes_concat front hc]
        simp only [pendingBehind, beq_eq_false_iff_ne.2 hc, Bool.and_false, Bool.false_eq_true,
          Nat.not_odd_zero]

/-- Where no backslash is pending, the parts of a text are expanded apart. -/
theorem expandChars_append (h : pending a = false) (b : List Char) :
    expandChars (a ++ b) = expandChars a ++ expandChars b := by
  fun_induction expandChars a with
  | case1 => rfl
  | case2 c rest ih =>
      -- Behind the unit nothing is pending, whatever its second character is.
      have hrest : pending rest = false := h
      rw [List.cons_append, List.cons_append, expandChars, ih hrest, List.append_assoc]
  | case3 c rest hunit ih =>
      by_cases hc : c = '\\'
      · subst hc
        rcases rest with _ | ⟨d, rest⟩
        · -- The backslash has no character behind it, so it is pending.
          exact absurd h (by decide)
        · exact absurd rfl (hunit d rest rfl)
      · have hrest : pending rest = false := by
          have hfirst : pendingBehind false c = false := beq_eq_false_iff_ne.2 hc
          rw [pending, List.foldl_cons, hfirst] at h
          exact h
        rw [List.cons_append, expandChars_cons hc, ih hrest, List.cons_append]

/-- The same for texts. -/
theorem expand_append {a : String} (h : pending a.toList = false) (b : String) :
    expand (a ++ b) = expand a ++ expand b := by
  rw [expand, String.toList_append, expandChars_append h, String.ofList_append]
  rfl

/-- An even run leaves nothing pending. -/
theorem pending_of_even (h : Even (backslashes cs)) : pending cs = false := by
  rw [← Bool.not_eq_true, pending_iff]
  exact Nat.not_odd_iff_even.2 h

end Joining

section Units

/-- The units make up the text. -/
theorem flatten_units (cs : List Char) : (units cs).flatten = cs := by
  fun_induction units cs with
  | case1 => rfl
  | case2 c rest ih => rw [List.flatten_cons, ih, List.cons_append, List.cons_append,
      List.nil_append]
  | case3 c rest _ ih => rw [List.flatten_cons, ih, List.cons_append, List.nil_append]

theorem mem_escapes_iff {letter image : Char} :
    (letter, image) ∈ escapes ↔ expanded? letter = some image := by
  refine ⟨expanded?_of_mem_escapes, fun h => ?_⟩
  unfold expanded? at h
  split at h
  case h_8 => exact absurd h (by simp only [reduceCtorEq, not_false_eq_true])
  all_goals
    cases h
    decide

/-- A backslash and the character behind it are a known escape where expansion knows the
    character. -/
theorem recognised_pair_iff (c : Char) : Recognised ['\\', c] ↔ (expanded? c).isSome = true := by
  rw [Option.isSome_iff_exists]
  constructor
  · rintro ⟨⟨letter, image⟩, hmem, hunit⟩
    have hletter : c = letter := (List.cons.inj (List.cons.inj hunit).2).1
    exact ⟨image, hletter ▸ mem_escapes_iff.1 hmem⟩
  · rintro ⟨image, himage⟩
    exact ⟨(c, image), mem_escapes_iff.2 himage, rfl⟩

/-- A character alone is no escape. -/
theorem not_recognised_singleton (c : Char) : ¬ Recognised [c] := by
  rintro ⟨escape, _, hunit⟩
  exact absurd (List.cons.inj hunit).2 (List.cons_ne_nil _ _).symm

/-- Expansion leaves a text as it is where none of its units is a known escape. -/
theorem expandChars_eq_self_iff (cs : List Char) :
    expandChars cs = cs ↔ ∀ unit ∈ units cs, ¬ Recognised unit := by
  fun_induction units cs with
  | case1 => simp only [expandChars, List.not_mem_nil, false_implies, implies_true]
  | case2 c rest ih =>
      rw [List.forall_mem_cons, recognised_pair_iff, ← ih, expandChars]
      rcases hc : expanded? c with _ | image
      · simp only [expandUnit, hc, List.cons_append, List.nil_append, List.cons.injEq, true_and,
          Option.isSome_none, Bool.false_eq_true, not_false_eq_true]
      · -- The known escape loses a character, and nothing behind it makes up for that.
        have hshort := expandChars_length_le rest
        have hne : expandUnit c ++ expandChars rest ≠ '\\' :: c :: rest := by
          intro heq
          have hlength := congrArg List.length heq
          simp only [expandUnit, hc, List.length_append, List.length_cons, List.length_nil]
            at hlength
          omega
        simp only [hne, Option.isSome_some, not_true_eq_false, false_and]
  | case3 c rest hunit ih =>
      rw [List.forall_mem_cons, ← ih, expandChars, List.cons.injEq]
      · simp only [true_and, not_recognised_singleton, not_false_eq_true]
      · exact hunit

theorem expand_eq_self_iff (s : String) :
    expand s = s ↔ ∀ unit ∈ units s.toList, ¬ Recognised unit := by
  rw [← expandChars_eq_self_iff, ← String.toList_inj, expand, String.toList_ofList]

/-- So a text is not changed where no backslash stands before a letter of an escape. -/
theorem not_recognised_of_no_escape (h : ∀ escape ∈ escapes, ¬ ['\\', escape.1] <:+: cs) :
    ∀ unit ∈ units cs, ¬ Recognised unit := by
  rintro unit hunit ⟨escape, hmem, rfl⟩
  refine h escape hmem ?_
  rcases List.append_of_mem hunit with ⟨before, after, hunits⟩
  refine ⟨before.flatten, after.flatten, ?_⟩
  rw [← flatten_units cs, hunits, List.flatten_append, List.flatten_cons, List.append_assoc]

end Units

/-- Joined texts are expanded apart where the first ends in an even run of backslashes, and
    just before the last backslash where the run is odd. No text has more characters when it
    is expanded, and it is the same text exactly if the scan finds no known escape in it, as
    where none stands in it at all. -/
theorem expand_parts :
    (∀ a b : String, Even (backslashes a.toList) → expand (a ++ b) = expand a ++ expand b) ∧
      (∀ a b : String, Odd (backslashes (a ++ "\\").toList) →
        expand (a ++ "\\" ++ b) = expand a ++ expand ("\\" ++ b)) ∧
      (∀ s : String, (expand s).length ≤ s.length) ∧
      (∀ s : String, expand s = s ↔ ∀ unit ∈ units s.toList, ¬ Recognised unit) ∧
      ∀ s : String, (∀ escape ∈ escapes, ¬ ['\\', escape.1] <:+: s.toList) → expand s = s := by
  refine ⟨fun a b heven => expand_append (pending_of_even heven) b, fun a b hodd => ?_,
    fun s => ?_, expand_eq_self_iff,
    fun s hnone => (expand_eq_self_iff s).2 (not_recognised_of_no_escape hnone)⟩
  · -- Without its last backslash the run is even.
    have hlist : (a ++ "\\").toList = a.toList ++ ['\\'] := String.toList_append
    rw [hlist, backslashes_concat_backslash, Nat.odd_add_one, Nat.not_odd_iff_even] at hodd
    rw [String.append_assoc]
    exact expand_append (pending_of_even hodd) ("\\" ++ b)
  · rw [← String.length_toList, ← String.length_toList]
    exact expand_length_le s

/-- A run of two backslashes before an n, which is no escape there, and a run of three with
    the n behind the join. An unknown escape and a backslash at the end stay. -/
theorem expand_parts_runs :
    (Even (backslashes "\\\\".toList) ∧ expand ("\\\\" ++ "n") = expand "\\\\" ++ expand "n") ∧
      (Odd (backslashes ("\\\\" ++ "\\").toList) ∧
        expand ("\\\\" ++ "\\" ++ "n") = expand "\\\\" ++ expand ("\\" ++ "n")) ∧
      (∀ escape ∈ escapes, ¬ ['\\', escape.1] <:+: "\\q\\".toList) ∧
      expand "\\q\\" = "\\q\\" := by
  have heven : Even (backslashes "\\\\".toList) := ⟨1, by decide⟩
  have hodd : Odd (backslashes ("\\\\" ++ "\\").toList) := ⟨1, by decide⟩
  have hnone : ∀ escape ∈ escapes, ¬ ['\\', escape.1] <:+: "\\q\\".toList := by decide
  rcases expand_parts with ⟨hapart, hparted, -, -, hkept⟩
  exact ⟨⟨heven, hapart _ "n" heven⟩, ⟨hodd, hparted _ "n" hodd⟩, hnone, hkept _ hnone⟩

end Text

end PrintBridge
