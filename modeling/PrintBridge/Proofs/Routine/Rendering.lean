import PrintBridge.Routine.Formatting

/-!
# Two Passes and One Rendering

What rendering in two passes gives, when each pass of the routine keeps to
the contract of its kind.

A pass either fails with a negative code or has a rendering. In the second
case it answers with the length of the whole rendering, and a buffer gets as
much of it as fits with a NUL behind. The contract is about single passes: a
routine keeps state, so nothing says that the passes of one call render the
same. What the call gives is then the rendering of the pass that filled, and
only if that pass was as long as the measured one. The buffer has room for
exactly that many bytes and the NUL, so nothing is cut off, and NULs inside
the rendering are kept.

A routine whose passes agree renders as if there were only one.

## Main definitions

* `Pass`: What a pass of the routine comes to.
* `Routine.Contract`: What the passes of a routine come to, and that the
  routine answers accordingly.
* `Routine.measuring`, `Routine.filling`: The requests of the two passes.
* `Routine.formattingContract`: The formatting routine keeps the contract.

## Theorems

* `render_of_measure_neg`, `render_of_measured`: What is asked of any routine.
* `render_of_failed`: A failed measuring pass is the only one.
* `render_of_rendered`: The filling pass decides after a measured length.
* `render_ok_iff`: When rendering gives a text, and which.
* `render_refines_single_pass`: Two passes give what one renders.
-/

namespace PrintBridge

/-- What a pass of the routine comes to. -/
inductive Pass where
  | failed (code : Int32)
  | rendered (bytes : Bytes)
deriving DecidableEq

namespace Pass

/-- The reply of a pass. A failure has a negative code. A rendering has its
    length as the code, which no length above the largest code can be, and a
    buffer begins with what fits of it; what lies behind is not said. -/
def Answers : Pass → Option Nat → RoutineReply → Prop
  | failed code, _, reply => code < 0 ∧ reply.code = code
  | rendered bytes, capacity, reply =>
    reply.code.toInt = bytes.length ∧ RoutineReply.fitted capacity bytes <+: reply.stored

/-- What a call comes to that needs one pass only. -/
def verdict : Pass → Except Stop Bytes
  | failed code => .error (.failure (Routine.failed (.failed code)))
  | rendered bytes => .ok bytes

end Pass

namespace Routine

variable {ρ : Type}

/-- What the passes of a routine come to, each in the state that it starts
    from, and that the routine answers accordingly. -/
structure Contract (r : Routine ρ) where
  pass : Request → ρ → Pass
  answers : ∀ q s, (pass q s).Answers q.capacity (r.answer q s).1

/-- The request of the pass that measures. -/
def measuring (format : Word) (words : List Word) (arena : Arena) : Request :=
  ⟨none, format, words, arena⟩

/-- The request of the pass that fills, after so many bytes were measured. -/
def filling (length : Nat) (format : Word) (words : List Word) (arena : Arena) : Request :=
  ⟨some (length + 1), format, words, arena⟩

/-- The failure of a call in which the routine failed. -/
def failure (e : RenderError) : Stop := .failure (failed e)

section Passes

variable (r : Routine ρ) (format : Word) (words : List Word) (arena : Arena) (s : ρ)

/-- A negative code of the measuring pass ends the call. -/
theorem render_of_measure_neg
    (h : (r.answer (measuring format words arena) s).1.code < 0) :
    r.render format words arena s =
      ⟨.error (failure (.failed (r.answer (measuring format words arena) s).1.code)),
        (r.answer (measuring format words arena) s).2,
        [.requested (measuring format words arena)]⟩ := by
  unfold render
  rw [Action.bind_of_ok _ _ s (r.answer (measuring format words arena) s).1 rfl]
  rw [if_pos h]
  rfl

/-- Any other code makes the routine fill a buffer for as many bytes, in the
    state that the measuring pass left. -/
theorem render_of_measured (length : Nat) (reply : RoutineReply)
    (h : ¬ (r.answer (measuring format words arena) s).1.code < 0)
    (hlength : (r.answer (measuring format words arena) s).1.code.toInt.toNat = length)
    (hreply : (r.answer (filling length format words arena)
      (r.answer (measuring format words arena) s).2).1 = reply) :
    r.render format words arena s =
      ⟨if reply.code < 0 then .error (failure (.failed reply.code))
        else if reply.code.toInt.toNat ≠ length then
          .error (failure (.lengthChanged length reply.code.toInt.toNat))
        else .ok ((filled (length + 1) reply.stored).take length),
        (r.answer (filling length format words arena)
          (r.answer (measuring format words arena) s).2).2,
        [.requested (measuring format words arena),
          .requested (filling length format words arena)]⟩ := by
  subst hlength hreply
  unfold render
  rw [Action.bind_of_ok _ _ s (r.answer (measuring format words arena) s).1 rfl]
  rw [if_neg h]
  rw [Action.bind_of_ok _ _ _ (r.answer (filling _ format words arena)
    (r.answer (measuring format words arena) s).2).1 rfl]
  split
  · rfl
  · split
    · rfl
    · rfl

end Passes

/-- A buffer for exactly the rendered bytes keeps all of them: the NUL takes
    the one place that is left. -/
theorem take_filled_of_fitted (bytes stored : Bytes)
    (h : RoutineReply.fitted (some (bytes.length + 1)) bytes <+: stored) :
    (filled (bytes.length + 1) stored).take bytes.length = bytes := by
  rcases h with ⟨behind, rfl⟩
  -- The stored bytes come first, and both cuts are behind the rendering.
  simp only [filled, RoutineReply.fitted, List.take_length, List.append_assoc]
  rw [List.take_append_of_le_length (by
    simp only [List.length_take, List.length_append, List.length_cons]
    omega)]
  rw [List.take_take, Nat.min_eq_left (Nat.le_succ _), List.take_left]

/-- A code that is a length is not negative. -/
theorem not_neg_of_toInt_eq (code : Int32) (length : Nat) (h : code.toInt = length) :
    ¬ code < 0 := by
  rw [Int32.lt_iff_toInt_lt, h, Int32.toInt_zero]
  omega

namespace Contract

variable {r : Routine ρ} (k : r.Contract) (format : Word) (words : List Word) (arena : Arena)
  (s : ρ)

/-- What the measuring pass of a call comes to. -/
def first : Pass := k.pass (measuring format words arena) s

/-- What the pass comes to that fills a buffer for so many bytes. -/
def second (length : Nat) : Pass :=
  k.pass (filling length format words arena) (r.answer (measuring format words arena) s).2

/-- A failed measuring pass is the only one. -/
theorem render_of_failed (code : Int32) (h : k.first format words arena s = .failed code) :
    r.render format words arena s =
      ⟨.error (failure (.failed code)), (r.answer (measuring format words arena) s).2,
        [.requested (measuring format words arena)]⟩ := by
  have hanswer := k.answers (measuring format words arena) s
  unfold first at h
  rw [h] at hanswer
  rcases hanswer with ⟨hneg, hcode⟩
  rw [render_of_measure_neg r format words arena s (hcode ▸ hneg), hcode]

/-- After a measured length the filling pass decides: its failure is the
    failure of the call, and its rendering counts if it is as long. -/
theorem render_of_rendered (measured : Bytes)
    (h : k.first format words arena s = .rendered measured) :
    (r.render format words arena s).result =
      match k.second format words arena s measured.length with
      | .failed code => .error (failure (.failed code))
      | .rendered bytes =>
        if measured.length = bytes.length then .ok bytes
        else .error (failure (.lengthChanged measured.length bytes.length)) := by
  have hmeasure := k.answers (measuring format words arena) s
  have hfill := k.answers (filling measured.length format words arena)
    (r.answer (measuring format words arena) s).2
  unfold first at h
  rw [h] at hmeasure
  have hlength := hmeasure.1
  rw [render_of_measured r format words arena s measured.length _
    (not_neg_of_toInt_eq _ _ hlength) (by omega) rfl]
  unfold second
  rcases hpass : k.pass (filling measured.length format words arena)
    (r.answer (measuring format words arena) s).2 with code | bytes
  · rw [hpass] at hfill
    rcases hfill with ⟨hneg, hcode⟩
    simp only [hcode, if_pos hneg]
  · -- The code is the length again, so comparing codes compares lengths.
    rw [hpass] at hfill
    rcases hfill with ⟨hcode, hstored⟩
    simp only [if_neg (not_neg_of_toInt_eq _ _ hcode), hcode, Int.toNat_natCast]
    by_cases hsame : measured.length = bytes.length
    · rw [if_neg (fun hc => hc hsame.symm), if_pos hsame, hsame]
      rw [hsame] at hstored
      exact congrArg Except.ok (take_filled_of_fitted bytes _ hstored)
    · rw [if_pos (fun hc => hsame hc.symm), if_neg hsame]

/-- The result is a text exactly when both passes render and their lengths
    agree, and then it is the rendering of the pass that filled. -/
theorem render_ok_iff (bytes : Bytes) :
    (r.render format words arena s).result = .ok bytes ↔
      ∃ measured, k.first format words arena s = .rendered measured ∧
        k.second format words arena s measured.length = .rendered bytes ∧
        measured.length = bytes.length := by
  rcases hfirst : k.first format words arena s with code | measured
  · rw [k.render_of_failed format words arena s code hfirst]
    simp only [reduceCtorEq, false_and, exists_const]
  · rw [k.render_of_rendered format words arena s measured hfirst]
    simp only [Pass.rendered.injEq, exists_eq_left']
    rcases k.second format words arena s measured.length with code | written
    · simp only [reduceCtorEq, false_and]
    · simp only [Pass.rendered.injEq]
      by_cases hsame : measured.length = written.length
      · rw [if_pos hsame]
        constructor
        · intro h
          exact ⟨Except.ok.inj h, by rw [← Except.ok.inj h]; exact hsame⟩
        · intro h
          rw [h.1]
      · rw [if_neg hsame]
        simp only [reduceCtorEq, false_iff, not_and]
        intro h
        rw [← h]
        exact hsame

/-- Two passes give what one renders. The result is a text exactly when both
    passes render and their lengths agree, and then it is the rendering of
    the pass that filled, complete. Otherwise the first pass that failed
    tells its code, and no filling pass follows a failed measuring pass, or
    the two lengths are told. A routine whose passes agree on the call cannot
    change the length, and the call comes to what a single pass does. -/
theorem render_refines_single_pass :
    (∀ bytes, (r.render format words arena s).result = .ok bytes ↔
      ∃ measured, k.first format words arena s = .rendered measured ∧
        k.second format words arena s measured.length = .rendered bytes ∧
        measured.length = bytes.length) ∧
      (∀ code, k.first format words arena s = .failed code →
        (r.render format words arena s).result = .error (failure (.failed code)) ∧
          (r.render format words arena s).trace =
            [.requested (measuring format words arena)]) ∧
      (∀ measured code, k.first format words arena s = .rendered measured →
        k.second format words arena s measured.length = .failed code →
        (r.render format words arena s).result = .error (failure (.failed code))) ∧
      (∀ measured written, k.first format words arena s = .rendered measured →
        k.second format words arena s measured.length = .rendered written →
        measured.length ≠ written.length →
        (r.render format words arena s).result =
          .error (failure (.lengthChanged measured.length written.length))) ∧
      (∀ own, (∀ capacity t, k.pass ⟨capacity, format, words, arena⟩ t = own) →
        (r.render format words arena s).result = own.verdict ∧
          ∀ measured written, (r.render format words arena s).result ≠
            .error (failure (.lengthChanged measured written))) := by
  refine ⟨k.render_ok_iff format words arena s, ?_, ?_, ?_, ?_⟩
  · intro code hfirst
    rw [k.render_of_failed format words arena s code hfirst]
    exact ⟨rfl, rfl⟩
  · intro measured code hfirst hsecond
    rw [k.render_of_rendered format words arena s measured hfirst, hsecond]
  · intro measured written hfirst hsecond hne
    rw [k.render_of_rendered format words arena s measured hfirst, hsecond]
    simp only [if_neg hne]
  · intro own hown
    have hverdict : (r.render format words arena s).result = own.verdict := by
      have hfirst : k.first format words arena s = own := hown none s
      rcases own with code | bytes
      · rw [k.render_of_failed format words arena s code hfirst]
        rfl
      · have hsecond : k.second format words arena s bytes.length = .rendered bytes :=
          hown _ _
        rw [k.render_of_rendered format words arena s bytes hfirst, hsecond]
        exact if_pos rfl
    refine ⟨hverdict, ?_⟩
    intro measured written h
    rw [hverdict] at h
    rcases own with code | bytes
    · simp only [Pass.verdict, failure, failed, Except.error.injEq, Stop.failure.injEq,
        PrintError.native.injEq, NativeError.render.injEq, reduceCtorEq] at h
    · exact absurd h (by simp only [Pass.verdict, reduceCtorEq, not_false_eq_true])

end Contract

/-- What is rendered is no longer than a code can tell. -/
theorem rendering?_length (q : Request) (segments : List Format.Segment)
    (h : rendering? q = some segments) :
    (segments.flatMap Format.Segment.toBytes).length ≤ Format.intMax := by
  unfold rendering? Format.renderAll? at h
  rw [Format.Segment.flatMap_toBytes_length]
  simpa only [decide_eq_true_eq] using (Option.filter_eq_some_iff.1 h).2

/-- The formatting routine keeps the contract: the lengths it measures are
    those it would write, and what is too long for a code has no rendering. -/
def formattingContract : (formatting : Routine ρ).Contract where
  pass q _ := match rendering? q with
    | none => .failed (-1)
    | some segments => .rendered (segments.flatMap Format.Segment.toBytes)
  answers q s := by
    rcases h : rendering? q with _ | segments
    · simp only [formatting, h, Pass.Answers]
      exact ⟨by decide, trivial⟩
    · have hle := rendering?_length q segments h
      simp only [formatting, h, Pass.Answers]
      rw [← Format.Segment.flatMap_toBytes_length]
      refine ⟨Int32.toInt_ofNat_of_lt (Nat.lt_succ_of_le hle), ?_⟩
      rcases q.capacity with _ | capacity
      · exact List.prefix_rfl
      · exact List.prefix_rfl

/-- A NUL that a character argument puts in front is kept by both passes. -/
theorem render_inner_nul :
    ((formatting : Routine Unit).render (.text 0) [.bits 0] ⟨[[37, 99, 33, 0]]⟩ ()).result =
      .ok [0, 33] :=
  ((formattingContract.render_refines_single_pass (.text 0) [.bits 0]
    ⟨[[37, 99, 33, 0]]⟩ ()).1 [0, 33]).2
    ⟨[0, 33], by decide +kernel, by decide +kernel, rfl⟩

end Routine

end PrintBridge
