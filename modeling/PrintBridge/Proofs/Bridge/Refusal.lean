import PrintBridge.Proofs.Bridge.Stages
import PrintBridge.Proofs.Sink.Writing

/-!
# Refused Invocations

When an invocation of the native bridge ends in a lowering failure, and in
which.

Lowering is the first of the stages, so whatever it is refused for is what
the invocation ends in, and neither routine nor sink is asked. The converse
needs a look at the other stages: a routine that does not render is a failure
of the routine, and a sink that does not accept is a refusal of the sink or a
breakdown. None of them can be taken for a failure of lowering, also where
the routine or the sink misbehaves.

So the lowering failure of an invocation is known before it is made. A NUL in
the format comes first, then the first argument that no slot can hold, and
the arguments behind that one make no difference.

## Theorems

* `render_stop`, `deliver_stop`: What the later stages can end in.
* `native_of_refusal`: A refused call ends in what it is refused for.
* `native_of_all_lower`: Any other call never ends in a lowering failure.
* `native_marshalling_iff`: Which lowering failure an invocation ends in.
-/

namespace PrintBridge

variable {ρ τ : Type}

/-- Slots can hold everything but doubles and texts with a NUL. -/
theorem Value.not_lowers_iff (v : Value) :
    ¬ v.Lowers ↔ (∃ d, v = .double d) ∨ ∃ text, v = .string text ∧ '\x00' ∈ text.toList := by
  cases v with
  | double d =>
      constructor
      · intro _
        exact .inl ⟨d, rfl⟩
      · intro _ hlowers
        exact hlowers
  | string text =>
      constructor
      · intro h
        exact .inr ⟨text, rfl, Decidable.not_not.1 h⟩
      · rintro (⟨d, hd⟩ | ⟨_, htext, hnul⟩) hlowers
        · exact absurd hd (by simp only [reduceCtorEq, not_false_eq_true])
        · rw [← Value.string.inj htext] at hnul
          exact hlowers hnul
  | _ =>
      simp only [Value.Lowers, not_true_eq_false, reduceCtorEq, false_and, exists_false, or_self]

/-- A routine that does not render fails as a routine. -/
theorem Routine.render_stop (r : Routine ρ) (format : Word) (words : List Word) (arena : Arena)
    (s : ρ) (stop : Stop) (h : (r.render format words arena s).result = .error stop) :
    ∃ e, stop = failure e := by
  by_cases hneg : (r.answer (measuring format words arena) s).1.code < 0
  · rw [render_of_measure_neg r format words arena s hneg] at h
    exact ⟨_, (Except.error.inj h).symm⟩
  · -- After a measured length either the code or the length of the second pass is at fault.
    rw [render_of_measured r format words arena s _ _ hneg rfl rfl] at h
    simp only at h
    split at h
    · exact ⟨_, (Except.error.inj h).symm⟩
    · split at h
      · exact ⟨_, (Except.error.inj h).symm⟩
      · exact absurd h (by simp only [reduceCtorEq, not_false_eq_true])

/-- A write that does not go on is a refusal of the sink or a breakdown. -/
theorem WriteReply.eq_of_refusal? (reply : WriteReply) (stop : Stop)
    (h : reply.refusal? = some stop) : stop = .panic ∨ ∃ reason, stop = Sink.refused reason := by
  cases reply with
  | accepted count =>
      simp only [refusal?] at h
      split at h
      · exact .inr ⟨_, (Option.some.inj h).symm⟩
      · exact absurd h (by simp only [reduceCtorEq, not_false_eq_true])
  | interrupted => exact absurd h (by simp only [refusal?, reduceCtorEq, not_false_eq_true])
  | failed reason => exact .inr ⟨reason, (Option.some.inj h).symm⟩
  | panicked => exact .inl (Option.some.inj h).symm

/-- So is a flush that is not done. -/
theorem Sink.flushed_stop (sink : Sink τ) (t : τ) (stop : Stop)
    (h : (sink.flushed t).result = .error stop) :
    stop = .panic ∨ ∃ reason, stop = refused reason := by
  simp only [flushed] at h
  cases hreply : (sink.flush t).1 with
  | done =>
      rw [hreply] at h
      exact absurd h (by simp only [reduceCtorEq, not_false_eq_true])
  | failed reason =>
      rw [hreply] at h
      exact .inr ⟨reason, (Except.error.inj h).symm⟩
  | panicked =>
      rw [hreply] at h
      exact .inl (Except.error.inj h).symm

namespace Bridge

/-- Delivering ends well, in a refusal of the sink, or in a breakdown. -/
theorem deliver_stop (sink : Sink τ) (bytes : Bytes) (t : τ) (stop : Stop)
    (h : (deliver sink bytes t).result = .error stop) :
    stop = .panic ∨ ∃ reason, stop = Sink.refused reason := by
  rcases hwrite : (sink.deliver bytes t).result with cut | _
  · -- The last answer to a write is what it was given up for.
    rw [deliver_of_cut sink bytes t cut hwrite] at h
    rcases (sink.deliver_writing bytes t).refused stop h with ⟨_, _, reply, _, hrefusal⟩
    exact reply.eq_of_refusal? stop hrefusal
  · rw [deliver_of_completed sink bytes t hwrite] at h
    exact sink.flushed_stop _ stop h

variable (routine : Routine ρ) (sink : Sink τ) (call : Call) (s : NativeState ρ τ)

/-- An invocation that is refused ends in what it is refused for. -/
theorem native_of_refusal (e : MarshalError)
    (h : Lowering.Refusal call.format call.values e) :
    (native routine sink call s).result = .error (.failure (.marshalling e)) := by
  rcases Lowering.call_of_refusal call.format call.values e Arena.empty h with ⟨arena, hrefused⟩
  have hrendering := rendering_of_refused routine call e arena hrefused
  have hstop : (rendering routine call s.routine).result =
      .error (.failure (.marshalling e)) := by
    rw [hrendering]
    rfl
  rw [native_of_unrendered routine sink call s _ hstop]

/-- An invocation that is not refused does not end in a lowering failure,
    whatever routine and sink do. -/
theorem native_of_all_lower (hformat : '\x00' ∉ call.format.toList)
    (hvalues : ∀ v ∈ call.values, v.Lowers) (e : MarshalError) :
    (native routine sink call s).result ≠ .error (.failure (.marshalling e)) := by
  intro h
  rcases Lowering.call_of_lowers call.format call.values Arena.empty hformat hvalues with
    ⟨lowered, arena, hlowered, _⟩
  have hrendering := rendering_of_lowered routine call lowered arena hlowered
  rcases hresult : (rendering routine call s.routine).result with stop | bytes
  · -- The failure is one of the routine.
    rw [native_of_unrendered routine sink call s stop hresult] at h
    rw [hrendering] at hresult
    rcases routine.render_stop _ _ _ _ stop hresult with ⟨cause, rfl⟩
    exact absurd (Except.error.inj h)
      (by simp only [Routine.failure, Routine.failed, Stop.failure.injEq, reduceCtorEq,
        not_false_eq_true])
  · -- The failure is one of the sink.
    rcases native_of_rendered routine sink call s bytes hresult with ⟨record, hnative⟩
    rw [hnative] at h
    rcases deliver_stop sink bytes s.sink.content _ h with hpanic | ⟨reason, hrefused⟩
    · exact absurd hpanic (by simp only [reduceCtorEq, not_false_eq_true])
    · exact absurd hrefused
        (by simp only [Sink.refused, Stop.failure.injEq, reduceCtorEq, not_false_eq_true])

/-- An invocation ends in a lowering failure exactly when its format has a NUL
    or some argument is a double or a text with a NUL. The failure tells the
    byte of the first NUL in the format, and if there is none, the fault of
    the first such argument: for a double its index, and for a text the byte
    of its first NUL. No later argument makes a difference. -/
theorem native_marshalling_iff :
    ((∃ e, (native routine sink call s).result = .error (.failure (.marshalling e))) ↔
      '\x00' ∈ call.format.toList ∨ (∃ d, .double d ∈ call.values) ∨
        ∃ text, .string text ∈ call.values ∧ '\x00' ∈ text.toList) ∧
    ∀ e, (native routine sink call s).result = .error (.failure (.marshalling e)) ↔
      Lowering.Refusal call.format call.values e := by
  -- What is said of arguments by kind is what `Value.Lowers` says of them.
  have hfaulty : ((∃ d, .double d ∈ call.values) ∨
      ∃ text, .string text ∈ call.values ∧ '\x00' ∈ text.toList) ↔
        ∃ v ∈ call.values, ¬ v.Lowers := by
    constructor
    · rintro (⟨d, hd⟩ | ⟨text, htext, hnul⟩)
      · exact ⟨_, hd, (Value.not_lowers_iff _).2 (.inl ⟨d, rfl⟩)⟩
      · exact ⟨_, htext, (Value.not_lowers_iff _).2 (.inr ⟨text, rfl, hnul⟩)⟩
    · rintro ⟨v, hv, hnot⟩
      rcases (Value.not_lowers_iff v).1 hnot with ⟨d, rfl⟩ | ⟨text, rfl, hnul⟩
      · exact .inl ⟨d, hv⟩
      · exact .inr ⟨text, hv, hnul⟩
  have hcause (e : MarshalError)
      (h : (native routine sink call s).result = .error (.failure (.marshalling e))) :
      '\x00' ∈ call.format.toList ∨ ∃ v ∈ call.values, ¬ v.Lowers := by
    by_contra hnone
    rw [not_or, not_exists] at hnone
    refine native_of_all_lower routine sink call s hnone.1 (fun v hv => ?_) e h
    by_contra hnot
    exact hnone.2 v ⟨hv, hnot⟩
  rw [hfaulty]
  refine ⟨⟨?_, ?_⟩, fun e => ⟨?_, ?_⟩⟩
  · rintro ⟨e, h⟩
    exact hcause e h
  · intro h
    rcases Lowering.exists_refusal call.format call.values h with ⟨e, hrefusal⟩
    exact ⟨e, native_of_refusal routine sink call s e hrefusal⟩
  · intro h
    -- There is a refusal, and it is for `e` because the result has one failure only.
    rcases Lowering.exists_refusal call.format call.values (hcause e h) with ⟨e', hrefusal⟩
    have hsame := h.symm.trans (native_of_refusal routine sink call s e' hrefusal)
    obtain rfl : e = e' := PrintError.marshalling.inj (Stop.failure.inj (Except.error.inj hsame))
    exact hrefusal
  · exact native_of_refusal routine sink call s e

/-- The double at the end is not looked at, nor are characters counted. -/
example : (Lowering.call "%s %f" [.long 7, .string "é\x00", .double ⟨0⟩] Arena.empty).1 =
    .error (.nulAt 2) := by
  decide

end Bridge

end PrintBridge
