import PrintBridge.Proofs.Slot.Lowered

/-!
# Ownership of Handed-Out Strings

What an arena owes to those who use it for a while, and not for one call
only.

An `Errand` is anything that can be asked of an arena: the C representation of a
value, the word of an argument, or the address of a format. Errands follow each
other on one arena, and some of them are refused. Whoever was handed an
address does not come back for it, so it has to stay good on its own: it reads
as its text after every later errand, whatever that stored or failed to store.

Everything rests on `Performed.Course`, which lists all that an errand can do. It
stores the one text that it is about behind everything stored before, or it
needs no storage and leaves the arena alone, or it is refused and leaves the
arena alone as well. An address is a place counted from the front, so a text
that is stored later has a larger one.

## Main definitions

* `Errand`, `Errand.lower`: What can be asked of an arena, and doing it.
* `Errand.text?`: The text that an errand is about.
* `Errand.Refused`: An errand that cannot be done.
* `Handed.address?`: The address in what an errand gives.
* `Performed`, `Errand.perform`: Errands that follow each other.
* `Performed.Course`: What an errand has done to the arena.

## Theorems

* `performed_course`: Nothing else is ever done.
* `Course.reads`: An address reads as its text when it is handed out.
* `perform_size`: What was stored is counted.
* `perform_pairwise`: An address stays good, and no other errand has it.
* `perform_owns_handed_out`: An arena owns all that it hands out.
-/

namespace PrintBridge

/-- What can be asked of an arena. -/
inductive Errand where
  | value (v : Value)
  | argument (index : Nat) (v : Value)
  | format (text : String)

/-- What an errand gives. -/
inductive Handed where
  | value (c : CValue)
  | word (w : Word)
deriving DecidableEq

/-- The address of an owned text, if one is given. Other pointers are the
    caller's own. -/
def Handed.address? : Handed → Option Word
  | .value (.charPointer w) => some w
  | .word (.text handle) => some (.text handle)
  | _ => none

namespace Errand

/-- The text that an errand is about. -/
def text? : Errand → Option String
  | .value (.string s) => some s
  | .argument _ (.string s) => some s
  | .format s => some s
  | _ => none

/-- An errand that cannot be done: its text has a NUL inside, or it asks for the
    word of a double. -/
def Refused (t : Errand) : Prop :=
  (∃ s, t.text? = some s ∧ '\x00' ∈ s.toList) ∨ ∃ index d, t = .argument index (.double d)

/-- Does an errand. -/
def lower : Errand → Lowering Handed
  | .value v => do return .value (← Lowering.value v)
  | .argument index v => do return .word (← Lowering.word index v)
  | .format s => do return .word (← Lowering.store s)

end Errand

/-- An errand that was done or refused, and the arena around it. -/
structure Performed where
  errand : Errand
  before : Arena
  result : Except MarshalError Handed
  after : Arena

namespace Performed

/-- The address that an errand has handed out. -/
def address? (p : Performed) : Option Word :=
  match p.result with
  | .ok handed => handed.address?
  | .error _ => none

/-- Whether an errand has stored its text: it is about one, and succeeded. -/
def stored (p : Performed) : Bool := p.errand.text?.isSome && p.result.toBool

end Performed

namespace Errand

/-- Does an errand on an arena. -/
def performed (a : Arena) (t : Errand) : Performed := ⟨t, a, (t.lower a).1, (t.lower a).2⟩

/-- Does one errand after the other, whichever fail. -/
def perform (a : Arena) : List Errand → List Performed
  | [] => []
  | t :: rest => performed a t :: perform (performed a t).after rest

variable {a : Arena}

/-- An errand about a text is the storing of it, with the address handed out. -/
theorem lower_of_text (t : Errand) (s : String) (ht : t.text? = some s) :
    ∃ hand : Word → Handed, (∀ handle, (hand (.text handle)).address? = some (.text handle)) ∧
      ∀ a, t.lower a = ((Lowering.store s a).1.map hand, (Lowering.store s a).2) := by
  cases t with
  | value v =>
      cases v with
      | string text =>
          obtain rfl : text = s := Option.some.inj ht
          refine ⟨fun w => .value (.charPointer w), fun _ => rfl, fun a => ?_⟩
          have hlower := Lowering.bind_return (Lowering.value (.string text)) Handed.value a
          rw [Lowering.value_string] at hlower
          rw [lower, hlower]
          rcases (Lowering.store text a).1 with e | w
          · rfl
          · rfl
      | _ => exact absurd ht (by simp only [text?, reduceCtorEq, not_false_eq_true])
  | argument index v =>
      cases v with
      | string text =>
          obtain rfl : text = s := Option.some.inj ht
          refine ⟨.word, fun _ => rfl, fun a => ?_⟩
          rw [lower, Lowering.bind_return, Lowering.word_string]
      | _ => exact absurd ht (by simp only [text?, reduceCtorEq, not_false_eq_true])
  | format text =>
      obtain rfl : text = s := Option.some.inj ht
      exact ⟨.word, fun _ => rfl, Lowering.bind_return _ _⟩

/-- An errand that is refused fails, and the arena stays as it is. -/
theorem lower_of_refused (t : Errand) (a : Arena) (h : t.Refused) :
    ∃ e, t.lower a = (.error e, a) := by
  rcases h with ⟨s, ht, hnul⟩ | ⟨index, d, rfl⟩
  · rcases lower_of_text t s ht with ⟨hand, _, hlower⟩
    rcases Lowering.store_of_nul s a hnul with ⟨position, hstore⟩
    refine ⟨.nulAt position, ?_⟩
    rw [hlower, hstore]
    rfl
  · rcases Lowering.word_of_not_lowers index (.double d) a id with ⟨e, hword⟩
    refine ⟨e, ?_⟩
    rw [lower, Lowering.bind_return, hword]
    rfl

/-- Any other errand about a text stores it behind everything else, and hands
    out the address. -/
theorem lower_of_stored (t : Errand) (s : String) (a : Arena) (h : ¬ t.Refused)
    (ht : t.text? = some s) :
    ∃ handed, t.lower a = (.ok handed, a.push (Utf8.encode s)) ∧
      handed.address? = some (.text a.size) := by
  have hnul : '\x00' ∉ s.toList := fun hmem => h (.inl ⟨s, ht, hmem⟩)
  rcases lower_of_text t s ht with ⟨hand, haddress, hlower⟩
  refine ⟨hand (.text a.size), ?_, haddress a.size⟩
  rw [hlower, Lowering.store_of_no_nul s a hnul]
  rfl

/-- Any other errand about no text needs no storage, and what it hands out is
    no address of the arena. -/
theorem lower_of_no_text (t : Errand) (a : Arena) (h : ¬ t.Refused) (ht : t.text? = none) :
    ∃ handed, t.lower a = (.ok handed, a) ∧ handed.address? = none := by
  cases t with
  | value v =>
      cases v with
      | string text => exact absurd ht (by simp only [text?, reduceCtorEq, not_false_eq_true])
      | _ => exact ⟨_, Lowering.bind_return _ _ a, rfl⟩
  | argument index v =>
      rcases hbits : v.bits? with _ | bits
      · cases v with
        | string text => exact absurd ht (by simp only [text?, reduceCtorEq, not_false_eq_true])
        | double d => exact absurd (.inr ⟨index, d, rfl⟩) h
        | _ => exact absurd hbits (by simp only [Value.bits?, reduceCtorEq, not_false_eq_true])
      · refine ⟨.word (.bits bits), ?_, rfl⟩
        rw [lower, Lowering.bind_return, Lowering.word_of_bits? index v bits a hbits]
        rfl
  | format text => exact absurd ht (by simp only [text?, reduceCtorEq, not_false_eq_true])

end Errand

/-- What an errand has done to the arena. -/
inductive Performed.Course (p : Performed) : Prop where
  /-- It stored its text behind everything else, and handed out the address. -/
  | stored (s : String) (handed : Handed) (hallowed : ¬ p.errand.Refused)
      (htext : p.errand.text? = some s) (hresult : p.result = .ok handed)
      (haddress : handed.address? = some (.text p.before.size))
      (hafter : p.after = p.before.push (Utf8.encode s))
  /-- It needed no storage. -/
  | plain (handed : Handed) (hallowed : ¬ p.errand.Refused) (htext : p.errand.text? = none)
      (hresult : p.result = .ok handed) (haddress : handed.address? = none)
      (hafter : p.after = p.before)
  /-- It was refused. -/
  | refused (e : MarshalError) (hrefused : p.errand.Refused) (hresult : p.result = .error e)
      (hafter : p.after = p.before)

namespace Errand

theorem performed_course (a : Arena) (t : Errand) : (performed a t).Course := by
  by_cases h : t.Refused
  · rcases lower_of_refused t a h with ⟨e, hlower⟩
    exact .refused e h (congrArg Prod.fst hlower) (congrArg Prod.snd hlower)
  -- A value is lowered with storage or without, and its text decides which.
  · rcases ht : t.text? with _ | s
    · rcases lower_of_no_text t a h ht with ⟨handed, hlower, haddress⟩
      exact .plain handed h ht (congrArg Prod.fst hlower) haddress (congrArg Prod.snd hlower)
    · rcases lower_of_stored t s a h ht with ⟨handed, hlower, haddress⟩
      exact .stored s handed h ht (congrArg Prod.fst hlower) haddress (congrArg Prod.snd hlower)

end Errand

namespace Performed

variable {p : Performed}

theorem stored_of_ok (s : String) (handed : Handed) (htext : p.errand.text? = some s)
    (hresult : p.result = .ok handed) : p.stored = true := by
  simp only [stored, htext, hresult, Option.isSome_some, Except.toBool, Bool.and_true]

/-- Whatever is done, what could be read before can be read after. -/
theorem Course.le (h : p.Course) : p.before.Le p.after := by
  cases h with
  | stored s handed _ _ _ _ hafter =>
      rw [hafter]
      exact p.before.le_push _
  | plain handed _ _ _ _ hafter => exact hafter ▸ p.before.le_refl
  | refused e _ _ hafter => exact hafter ▸ p.before.le_refl

/-- The arena has grown by the text that was stored, if one was. -/
theorem Course.size (h : p.Course) :
    p.after.size = p.before.size + if p.stored then 1 else 0 := by
  cases h with
  | stored s handed _ htext hresult _ hafter =>
      rw [hafter, if_pos (stored_of_ok s handed htext hresult), Arena.size_push]
  | plain handed _ htext _ _ hafter =>
      have hstored : ¬ p.stored = true := by
        simp only [Performed.stored, htext, Option.isSome_none, Bool.false_and, Bool.false_eq_true,
          not_false_eq_true]
      rw [hafter, if_neg hstored, Nat.add_zero]
  | refused e _ hresult hafter =>
      have hstored : ¬ p.stored = true := by
        simp only [Performed.stored, hresult, Except.toBool, Bool.and_false, Bool.false_eq_true,
          not_false_eq_true]
      rw [hafter, if_neg hstored, Nat.add_zero]

/-- An address that is handed out is the place behind everything stored
    before, and something is stored there. -/
theorem Course.address (h : p.Course) (w : Word) (hw : p.address? = some w) :
    w = .text p.before.size ∧ p.stored = true := by
  cases h with
  | stored s handed _ htext hresult haddress _ =>
      simp only [address?, hresult, haddress, Option.some.injEq] at hw
      exact ⟨hw.symm, stored_of_ok s handed htext hresult⟩
  | plain handed _ _ hresult haddress _ =>
      simp only [address?, hresult, haddress, reduceCtorEq] at hw
  | refused e _ hresult _ => simp only [address?, hresult, reduceCtorEq] at hw

/-- An errand about a text hands out an address, unless it is refused. -/
theorem Course.hands_out (h : p.Course) (s : String) (htext : p.errand.text? = some s)
    (hallowed : ¬ p.errand.Refused) : ∃ w, p.address? = some w := by
  cases h with
  | stored _ handed _ _ hresult haddress _ =>
      refine ⟨.text p.before.size, ?_⟩
      simp only [address?, hresult, haddress]
  | plain _ _ htext' _ _ _ =>
      rw [htext] at htext'
      exact absurd htext' (by simp only [reduceCtorEq, not_false_eq_true])
  | refused _ hrefused _ _ => exact absurd hrefused hallowed

/-- The address reads as the text, all of it. -/
theorem Course.reads (h : p.Course) (s : String) (w : Word) (htext : p.errand.text? = some s)
    (hw : p.address? = some w) : p.after.read? w = some (Utf8.encode s) := by
  have hplace := (h.address w hw).1
  cases h with
  | stored s' handed hallowed htext' _ _ hafter =>
      obtain rfl : s' = s := Option.some.inj (htext'.symm.trans htext)
      rw [hafter, hplace]
      exact Lowering.read?_stored s' p.before fun hnul => hallowed (.inl ⟨s', htext, hnul⟩)
  | plain _ _ htext' _ _ _ =>
      rw [htext] at htext'
      exact absurd htext' (by simp only [reduceCtorEq, not_false_eq_true])
  | refused e _ hresult _ => simp only [address?, hresult, reduceCtorEq] at hw

/-- An errand fails exactly when it is refused. -/
theorem Course.failed_iff (h : p.Course) : (∃ e, p.result = .error e) ↔ p.errand.Refused := by
  cases h with
  | stored s handed hallowed _ hresult _ _ =>
      simp only [hresult, reduceCtorEq, exists_false, hallowed]
  | plain handed hallowed _ hresult _ _ =>
      simp only [hresult, reduceCtorEq, exists_false, hallowed]
  | refused e hrefused hresult _ =>
      simp only [hresult, Except.error.injEq, exists_eq', hrefused]

/-- An errand that is refused leaves the arena as it was. -/
theorem Course.unchanged (h : p.Course) (hrefused : p.errand.Refused) : p.after = p.before := by
  cases h with
  | stored _ _ hallowed _ _ _ _ => exact absurd hrefused hallowed
  | plain _ _ _ _ _ hafter => exact hafter
  | refused _ _ _ hafter => exact hafter

end Performed

namespace Errand

theorem course_of_mem (errands : List Errand) (a : Arena) (p : Performed)
    (hp : p ∈ perform a errands) : p.Course := by
  induction errands generalizing a with
  | nil => exact absurd hp List.not_mem_nil
  | cons t rest ih =>
      rcases List.mem_cons.1 hp with rfl | hlater
      · exact performed_course a t
      · exact ih _ hlater

/-- What could be read before some errands can be read after each of them, and
    the arena has not shrunk. -/
theorem perform_le (errands : List Errand) (a : Arena) (p : Performed)
    (hp : p ∈ perform a errands) : a.Le p.before ∧ a.size ≤ p.before.size := by
  induction errands generalizing a with
  | nil => exact absurd hp List.not_mem_nil
  | cons t rest ih =>
      rcases List.mem_cons.1 hp with rfl | hlater
      · exact ⟨a.le_refl, Nat.le_refl _⟩
      · have hcourse := performed_course a t
        rcases ih _ hlater with ⟨hle, hsize⟩
        refine ⟨hcourse.le.trans hle, Nat.le_trans ?_ hsize⟩
        rw [hcourse.size]
        exact Nat.le_add_right _ _

/-- After some errands the arena has as many more strings as errands have stored
    one. -/
theorem perform_size (errands : List Errand) (a : Arena) (done : List Performed) (p : Performed)
    (rest : List Performed) (hsplit : perform a errands = done ++ p :: rest) :
    p.before.size = a.size + done.countP Performed.stored := by
  induction errands generalizing a done with
  | nil => exact absurd hsplit.symm (List.append_ne_nil_of_right_ne_nil _ (List.cons_ne_nil _ _))
  | cons t later ih =>
      rcases done with _ | ⟨first, done⟩
      · rw [← (List.cons.inj hsplit).1]
        rfl
      · rcases List.cons.inj hsplit with ⟨rfl, hlater⟩
        have hsize := (performed_course a t).size
        rw [ih _ done hlater, hsize, List.countP_cons, Nat.add_assoc, Nat.add_comm (ite _ _ _)]
        rfl

/-- An address stays good: later errands leave what it reads as, and hand out
    other addresses. -/
theorem perform_pairwise (errands : List Errand) (a : Arena) :
    (perform a errands).Pairwise fun p q =>
      p.after.Le q.after ∧ ∀ w, p.address? = some w → q.address? ≠ some w := by
  induction errands generalizing a with
  | nil => exact .nil
  | cons t rest ih =>
      have hcourse := performed_course a t
      refine .cons (fun q hq => ?_) (ih _)
      have hlater := course_of_mem rest _ q hq
      rcases perform_le rest _ q hq with ⟨hle, hsize⟩
      refine ⟨hle.trans hlater.le, fun w hw hsame => ?_⟩
      -- The first errand stored something, so the place of the second is behind it.
      rcases hcourse.address w hw with ⟨hplace, hstored⟩
      rcases hlater.address w hsame with ⟨hplace', _⟩
      rw [hcourse.size, if_pos hstored] at hsize
      have hequal : (performed a t).before.size = q.before.size :=
        Word.text.inj (hplace.symm.trans hplace')
      omega

/-- An arena owns all that it hands out, over any errands of which some may be
    refused. An errand about a text hands out an address unless it is refused,
    and the address reads as all bytes of the text after the errand and after
    every later one. No two errands hand out one address. The strings that the
    arena owns at any time are as many as the errands that have stored a text by
    then. An errand fails exactly when it is refused, and has then changed
    nothing. -/
theorem perform_owns_handed_out (errands : List Errand) :
    (∀ p ∈ perform Arena.empty errands, ∀ s, p.errand.text? = some s → ¬ p.errand.Refused →
      ∃ w, p.address? = some w ∧ p.after.read? w = some (Utf8.encode s)) ∧
    ((perform Arena.empty errands).Pairwise fun p q => ∀ s w,
      p.errand.text? = some s → p.address? = some w →
        q.after.read? w = some (Utf8.encode s) ∧ q.address? ≠ some w) ∧
    (∀ done p rest, perform Arena.empty errands = done ++ p :: rest →
      p.before.size = done.countP Performed.stored ∧
        p.after.size = (done ++ [p]).countP Performed.stored) ∧
    ∀ p ∈ perform Arena.empty errands,
      ((∃ e, p.result = .error e) ↔ p.errand.Refused) ∧
        (p.errand.Refused → p.after = p.before) := by
  have hcourse := course_of_mem errands Arena.empty
  refine ⟨?_, ?_, ?_, fun p hp => ⟨(hcourse p hp).failed_iff, (hcourse p hp).unchanged⟩⟩
  · intro p hp s htext hallowed
    rcases (hcourse p hp).hands_out s htext hallowed with ⟨w, hw⟩
    exact ⟨w, hw, (hcourse p hp).reads s w htext hw⟩
  · refine (perform_pairwise errands Arena.empty).imp_of_mem ?_
    rintro p q hp _ ⟨hle, hother⟩ s w htext hw
    exact ⟨hle w _ ((hcourse p hp).reads s w htext hw), hother w hw⟩
  · intro done p rest hsplit
    have hbefore := perform_size errands Arena.empty done p rest hsplit
    rw [show Arena.empty.size = 0 from rfl, Nat.zero_add] at hbefore
    refine ⟨hbefore, ?_⟩
    have hp : p ∈ perform Arena.empty errands := by
      rw [hsplit]
      exact List.mem_append_right _ List.mem_cons_self
    rw [(hcourse p hp).size, hbefore, List.countP_append, List.countP_singleton]

end Errand

end PrintBridge
