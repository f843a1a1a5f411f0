import PrintBridge.Pattern.Basic
import PrintBridge.Proofs.Pattern.Matching
import PrintBridge.Proofs.Pattern.Reading
import PrintBridge.Proofs.Results

/-!
# Searching

From the text of a pattern to what it finds.

A pattern that is read is in order, and so is the expression it stands for: whatever
flags are switched on the way, the meaning of a part takes its repetitions over as they
are written. `occursIn_iff` of expressions asks for nothing else. So of a pattern that
is accepted it is known, without a look at how it was read or how it is searched for,
that it occurs in a text exactly if its expression matches somewhere.

Some parts of a pattern only switch flags, and some are repeated no times at all. Such a
part stands for what matches only the empty stretch, and among several parts that stand
one behind the other it is left out. The matches do not change by that.

## Main definitions

* `Meant.Gives`: What the meaning of something can be.

## Theorems

* `Expression.matches_all`, `Expression.matches_any`: What several expressions match.
* `Expression.matches_occupied`: What matches only the empty stretch can be left out.
* `Tree.meaning_ordered`: The meaning of a pattern in order is in order.
* `Tree.matches_of_sequence`, `Tree.matches_of_either`: What the parts of a pattern match
  together.
* `ofText_eq_ok_iff`: Which texts are accepted as patterns.
* `occursIn_ofText`: A pattern occurs in a text exactly if its expression matches there.
-/

namespace PrintBridge

namespace Pattern

namespace Expression

variable {text : List Char} {i j : Nat}

theorem Ordered.all {es : List Expression} (h : ∀ e ∈ es, e.Ordered) :
    (Expression.all es).Ordered := by
  induction es with
  | nil => exact .empty
  | cons e rest ih =>
      rcases List.forall_mem_cons.1 h with ⟨he, hrest⟩
      cases rest with
      | nil => exact he
      | cons => exact .sequence he (ih hrest)

theorem Ordered.any {es : List Expression} (h : ∀ e ∈ es, e.Ordered) :
    (Expression.any es).Ordered := by
  induction es with
  | nil => exact .empty
  | cons e rest ih =>
      rcases List.forall_mem_cons.1 h with ⟨he, hrest⟩
      cases rest with
      | nil => exact he
      | cons => exact .either he (ih hrest)

/-- Several expressions match one behind the other. -/
theorem matches_all (text : List Char) (es : List Expression) :
    (Expression.all es).Matches text =
      es.foldr (fun e rest => Relation.Comp (e.Matches text) rest) Eq := by
  induction es with
  | nil => rfl
  | cons e rest ih =>
      rw [List.foldr_cons, ← ih]
      cases rest with
      | nil => exact Relation.comp_eq.symm
      | cons => rfl

/-- Of several expressions any may match. -/
theorem matches_any {es : List Expression} (h : es ≠ []) :
    (Expression.any es).Matches text i j ↔ ∃ e ∈ es, e.Matches text i j := by
  induction es with
  | nil => exact absurd rfl h
  | cons e rest ih =>
      simp only [List.mem_cons, or_and_right, exists_or, exists_eq_left]
      cases rest with
      | nil => simp only [Expression.any, List.not_mem_nil, false_and, exists_false, or_false]
      | cons next rest =>
          refine or_congr Iff.rfl ((ih (List.cons_ne_nil next rest)).trans ?_)
          simp only [List.mem_cons]

/-- What matches only the empty stretch can be left out. -/
theorem matches_occupied (text : List Char) (es : List Expression) :
    (Expression.all (es.filter (· != .empty))).Matches text =
      (Expression.all es).Matches text := by
  rw [matches_all, matches_all]
  induction es with
  | nil => rfl
  | cons e rest ih =>
      by_cases he : e = .empty
      · rw [List.filter_cons_of_neg (by simp only [he, bne_self_eq_false, Bool.false_eq_true,
          not_false_eq_true]), ih, he, List.foldr_cons]
        exact Relation.eq_comp.symm
      · rw [List.filter_cons_of_pos (by simp only [bne_iff_ne, ne_eq, he, not_false_eq_true]),
          List.foldr_cons, List.foldr_cons, ih]

end Expression

namespace Meant

variable {α β : Type} {p : α → Prop} {q : β → Prop}

/-- What the meaning of something can be. -/
def Gives (x : Meant α) (p : α → Prop) : Prop := ∀ a, x = .ok a → p a

namespace Gives

theorem any (x : Meant α) : Gives x fun _ => True := fun _ _ => trivial

theorem pure {a : α} (h : p a) : Gives (.ok a) p := by
  intro a' ha
  exact Except.ok.inj ha ▸ h

theorem bind {x : Meant α} {f : α → Meant β} (hx : Gives x p) (hf : ∀ a, p a → Gives (f a) q) :
    Gives (x >>= f) q := by
  intro b h
  rcases bind_eq_ok_iff.1 h with ⟨a, ha, hb⟩
  exact hf a (hx a ha) b hb

theorem behind {x : Meant α} {f : α → Meant β} (hf : ∀ a, Gives (f a) q) : Gives (x >>= f) q :=
  bind (any x) fun a _ => hf a

theorem faulty (fault : Fault) (span : Span) : Gives (Pattern.faulty fault span) p :=
  fun _ h => absurd h (by simp only [Pattern.faulty, reduceCtorEq, not_false_eq_true])

end Gives

end Meant

namespace Tree

theorem property_gives {α : Type} {p : α → Prop} (m : Modes) (span : Span) (name : String) :
    Meant.Gives (Pattern.property m span name) p := by
  unfold Pattern.property
  split
  · exact .faulty _ _
  · split
    · exact .faulty _ _
    · exact .faulty _ _

mutual

/-- What a pattern stands for asks for its repetitions as they are written. -/
theorem meaning_ordered (m : Modes) (t : Tree) (h : t.Ordered) :
    Meant.Gives (meaning m t) fun r => r.1.Ordered := by
  cases h with
  | empty =>
      rw [meaning]
      exact .pure .empty
  | switch =>
      rw [meaning]
      exact .pure .empty
  | literal =>
      rw [meaning]
      exact .behind fun c => .behind fun members => .pure (.character members)
  | dot =>
      rw [meaning]
      exact .behind fun members => .pure (.character members)
  | assertion =>
      rw [meaning]
      exact .pure (.look _)
  | letter =>
      rw [meaning]
      exact .behind fun members => .pure (.character members)
  | property =>
      rw [meaning]
      exact property_gives _ _ _
  | bracketed =>
      rw [meaning]
      exact .behind fun members => .pure (.character members)
  | @repeated span least most body _ hmost hbody =>
      rw [meaning]
      refine .bind (meaning_ordered m body hbody) fun r hr => .pure ?_
      -- What is repeated no times at all is not there.
      split
      · exact .empty
      · exact .repeated (fun m hm => (hmost m hm).1) hr
  | @group span remembered switches body hbody =>
      rw [meaning]
      refine .bind (meaning_ordered _ body hbody) fun r hr => .pure ?_
      split
      · exact .remembered hr
      · exact hr
  | @either span branches hbranches =>
      rw [meaning]
      exact .bind (meanings_ordered m branches hbranches) fun r hr => .pure (.any hr)
  | @sequence span items hitems =>
      rw [meaning]
      refine .bind (meanings_ordered m items hitems) fun r hr => .pure (.all fun e he => ?_)
      exact hr e ((List.mem_filter.1 he).1)

theorem meanings_ordered (m : Modes) (ts : List Tree) (h : ∀ t ∈ ts, t.Ordered) :
    Meant.Gives (meanings m ts) fun r => ∀ e ∈ r.1, e.Ordered := by
  cases ts with
  | nil =>
      rw [meanings]
      exact .pure fun _ he => absurd he List.not_mem_nil
  | cons item rest =>
      rcases List.forall_mem_cons.1 h with ⟨hitem, hrest⟩
      rw [meanings]
      refine .bind (meaning_ordered m item hitem) fun first hfirst => ?_
      refine .bind (meanings_ordered first.2 rest hrest) fun others hothers => .pure ?_
      exact List.forall_mem_cons.2 ⟨hfirst, hothers⟩

end

theorem length_meanings (m : Modes) (ts : List Tree) :
    Meant.Gives (meanings m ts) fun r => r.1.length = ts.length := by
  induction ts generalizing m with
  | nil =>
      rw [meanings]
      exact .pure rfl
  | cons item rest ih =>
      rw [meanings]
      refine .behind fun first => .bind (ih first.2) fun others hothers => .pure ?_
      rw [List.length_cons, List.length_cons, hothers]

variable {m m' : Modes} {e : Expression} {span : Span}

/-- A sequence matches what its items match, one behind the other. -/
theorem matches_of_sequence {items : List Tree}
    (h : meaning m (.sequence span items) = .ok (e, m')) (text : List Char) :
    ∃ es, meanings m items = .ok (es, m') ∧
      e.Matches text = es.foldr (fun e rest => Relation.Comp (e.Matches text) rest) Eq := by
  rw [meaning] at h
  rcases bind_eq_ok_iff.1 h with ⟨⟨es, behind⟩, hitems, hall⟩
  obtain ⟨rfl, rfl⟩ := Prod.mk.inj (Except.ok.inj hall)
  exact ⟨es, hitems, (Expression.matches_occupied text es).trans (Expression.matches_all text es)⟩

/-- Where there are several branches, any of them may match. -/
theorem matches_of_either {branches : List Tree} (hbranches : branches ≠ [])
    (h : meaning m (.either span branches) = .ok (e, m')) (text : List Char) :
    ∃ es, meanings m branches = .ok (es, m') ∧
      ∀ i j, e.Matches text i j ↔ ∃ e ∈ es, e.Matches text i j := by
  rw [meaning] at h
  rcases bind_eq_ok_iff.1 h with ⟨⟨es, behind⟩, hmeanings, hany⟩
  obtain ⟨rfl, rfl⟩ := Prod.mk.inj (Except.ok.inj hany)
  -- There are as many expressions as branches, so there is one.
  have hlength := length_meanings m branches _ hmeanings
  have hes : es ≠ [] := fun hnil =>
    hbranches (List.length_eq_zero_iff.1 (hlength.symm.trans (congrArg List.length hnil)))
  exact ⟨es, hmeanings, fun i j => Expression.matches_any hes⟩

end Tree

variable {pattern : String} {p : Pattern}

/-- A text is accepted as a pattern if it can be read, has a meaning, is not too large, and
    asks only for what is known. -/
theorem ofText_eq_ok_iff :
    ofText pattern = .ok p ↔
      ∃ t m, Tree.read pattern = .ok t ∧ t.meaning {} = .ok (p.expression, m) ∧
        p.expression.size ≤ sizeLimit ∧ p.expression.decided = true := by
  simp only [ofText, bind_eq_ok_iff, mapError_eq_ok_iff, Prod.exists]
  constructor
  · rintro ⟨t, hread, e, m, hmeaning, h⟩
    split at h
    · exact absurd h (by simp only [reduceCtorEq, not_false_eq_true])
    · rename_i hsize
      split at h
      · rename_i hdecided
        obtain rfl := Except.ok.inj h
        exact ⟨t, m, hread, hmeaning, Nat.le_of_not_lt hsize, hdecided⟩
      · exact absurd h (by simp only [reduceCtorEq, not_false_eq_true])
  · rintro ⟨t, m, hread, hmeaning, hsize, hdecided⟩
    refine ⟨t, hread, p.expression, m, hmeaning, ?_⟩
    rw [if_neg (Nat.not_lt.2 hsize), if_pos hdecided]

/-- A pattern that is accepted asks for its repetitions in order. -/
theorem ordered_of_ofText (h : ofText pattern = .ok p) : p.expression.Ordered := by
  rcases ofText_eq_ok_iff.1 h with ⟨t, m, hread, hmeaning, -, -⟩
  exact Tree.meaning_ordered {} t (Tree.ordered_of_read hread).1 _ hmeaning

/-- A pattern that is accepted occurs in a text exactly if its expression matches somewhere
    there. -/
theorem occursIn_ofText (h : ofText pattern = .ok p) (text : String) :
    p.occursIn text = true ↔
      ∃ i j, i ≤ text.toList.length ∧ p.expression.Matches text.toList i j :=
  Expression.occursIn_iff text.toList (ordered_of_ofText h)

end Pattern

end PrintBridge
