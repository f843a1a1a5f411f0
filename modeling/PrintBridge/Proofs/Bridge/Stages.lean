import PrintBridge.Bridge.Native
import PrintBridge.Proofs.Routine.Rendering
import PrintBridge.Proofs.Slot.Lowered
import PrintBridge.Proofs.Stream.Reached

/-!
# Stages of a Native Call

A call over the native bridge has two halves. The first one counts the
arguments, lowers them and has the routine render, and it works on the
routine alone. The second one writes and flushes what was rendered, and it
works on the sink alone. `Print.rendering` is the first half as an action of
its own, so that it can be said once what happens when it fails: nothing
else.

The two halves meet in one place, `outcome_of_unrendered` and
`outcome_of_rendered`. What is asked of the routine is a matter of the first
half, and what reaches the output is a matter of the second.

## Main definitions

* `Print.Lowers`: A call that can be lowered.
* `Print.rendering`: What a call does before the output is touched.
* `Reached.rendering`: The same, of a reached call.
* `Request.Carries`: A request that has a call as it was made.

## Theorems

* `render_trace`: What rendering asks of the routine.
* `rendering_of_lowered`, `rendering_of_refused`: The first half, by what
  lowering came to.
* `rendering_of_lowers`, `rendering_of_not_lowers`: The first half, by the call
  alone.
* `rendering_outputs`: The first half never touches the output.
* `outcome_of_unrendered`: When it fails, nothing follows.
* `outcome_of_rendered`: When it succeeds, what was rendered is delivered.
-/

namespace PrintBridge

variable {ρ τ : Type}

/-- A call that can be lowered: it has an entry point, its format can be a C
    string, and slots can hold its arguments. -/
structure Print.Lowers (p : Print) : Prop where
  few : p.args.length ≤ maxArity
  format : '\x00' ∉ p.format.toList
  values : ∀ v ∈ p.values, v.Lowers

/-- A request that has a call as it was made: the format reads as all its
    bytes, and there is one word for each argument, which holds it. -/
structure Request.Carries (q : Request) (p : Print) : Prop where
  format : q.arena.read? q.format = some (Utf8.encode p.format)
  words : List.Forall₂ q.arena.Holds p.values q.words

/-- What an invocation does before the output is touched. -/
def Bridge.rendering (routine : Routine ρ) (call : Call) : Action ρ Bytes :=
  match (Lowering.call call.format call.values).run.run Arena.empty with
  | (.error e, _) => Action.fail (.marshalling e)
  | (.ok lowered, arena) => routine.render lowered.format lowered.words arena

/-- What a call does before the output is touched. -/
def Print.rendering (routine : Routine ρ) (p : Print) : Action ρ Bytes :=
  match p.call? with
  | none => Action.fail (.unsupportedArity p.args.length maxArity)
  | some call => Bridge.rendering routine call

/-- What a reached call does before the output is touched. -/
def Reached.rendering (routine : Routine ρ) (r : Reached (NativeState ρ τ)) : Outcome ρ Bytes :=
  r.print.rendering routine r.state.routine

/-- Rendering asks the routine to measure and then, unless it failed, to fill
    a buffer for as many bytes as it told. -/
theorem Routine.render_trace (r : Routine ρ) (format : Word) (words : List Word) (arena : Arena)
    (s : ρ) :
    (r.render format words arena s).trace =
      if (r.answer (measuring format words arena) s).1.code < 0 then
        [.requested (measuring format words arena)]
      else
        [.requested (measuring format words arena), .requested (filling
          (r.answer (measuring format words arena) s).1.code.toInt.toNat format words arena)] := by
  by_cases h : (r.answer (measuring format words arena) s).1.code < 0
  · rw [render_of_measure_neg r format words arena s h, if_pos h]
  · rw [render_of_measured r format words arena s _ _ h rfl rfl, if_neg h]

namespace Bridge

/-- What was lowered is rendered, in the arena that it was lowered to. -/
theorem rendering_of_lowered (routine : Routine ρ) (call : Call) (lowered : LoweredCall)
    (arena : Arena)
    (h : Lowering.call call.format call.values Arena.empty = (.ok lowered, arena)) :
    rendering routine call = routine.render lowered.format lowered.words arena := by
  have hrun : (Lowering.call call.format call.values).run.run Arena.empty =
      (.ok lowered, arena) := h
  simp only [rendering, hrun]

/-- What was refused is not rendered. -/
theorem rendering_of_refused (routine : Routine ρ) (call : Call) (e : MarshalError)
    (arena : Arena)
    (h : Lowering.call call.format call.values Arena.empty = (.error e, arena)) :
    rendering routine call = Action.fail (.marshalling e) := by
  have hrun : (Lowering.call call.format call.values).run.run Arena.empty =
      (.error e, arena) := h
  simp only [rendering, hrun]

end Bridge

namespace Print

/-- A call that can be lowered is rendered from a request that has it as it
    was made, whatever the capacity. -/
theorem rendering_of_lowers (routine : Routine ρ) (p : Print) (h : p.Lowers) :
    ∃ format words arena, p.rendering routine = routine.render format words arena ∧
      ∀ capacity, Request.Carries ⟨capacity, format, words, arena⟩ p := by
  rcases hcall : p.call? with _ | call
  · have hlt := (call?_eq_none_iff p).1 hcall
    have hle := h.few
    omega
  · have hformat := ((call?_eq_some_iff p call).1 hcall).1
    have hvalues := p.values_of_call? call hcall
    rcases Lowering.call_of_lowers p.format p.values Arena.empty h.format h.values with
      ⟨lowered, arena, hlowered, hread, hwords⟩
    refine ⟨lowered.format, lowered.words, arena, ?_, fun _ => ⟨hread, hwords⟩⟩
    rw [← hformat, ← hvalues] at hlowered
    simp only [rendering, hcall]
    exact Bridge.rendering_of_lowered routine call lowered arena hlowered

/-- A call that has an entry point and cannot be lowered has a NUL in its
    format or an argument that no slot can hold. -/
theorem refused_of_not_lowers (p : Print) (h : ¬ p.Lowers) (hfew : p.args.length ≤ maxArity) :
    '\x00' ∈ p.format.toList ∨ ∃ v ∈ p.values, ¬ v.Lowers := by
  by_cases hformat : '\x00' ∈ p.format.toList
  · exact .inl hformat
  · refine .inr ?_
    by_contra hall
    refine h ⟨hfew, hformat, fun v hv => ?_⟩
    by_contra hnot
    exact hall ⟨v, hv, hnot⟩

/-- Any other call fails before the routine is asked. -/
theorem rendering_of_not_lowers (routine : Routine ρ) (p : Print) (h : ¬ p.Lowers) :
    ∃ e, p.rendering routine = Action.fail e := by
  rcases hcall : p.call? with _ | call
  · simp only [rendering, hcall]
    exact ⟨_, rfl⟩
  · rcases (call?_eq_some_iff p call).1 hcall with ⟨hformat, hargs⟩
    have hvalues := p.values_of_call? call hcall
    have hfew : p.args.length ≤ maxArity := by
      rw [← hargs, call.args_length]
      exact call.entry.arity_le
    rcases Lowering.call_of_not_lowers p.format p.values Arena.empty
      (p.refused_of_not_lowers h hfew) with ⟨e, arena, hrefused⟩
    rw [← hformat, ← hvalues] at hrefused
    refine ⟨.marshalling e, ?_⟩
    simp only [rendering, hcall]
    exact Bridge.rendering_of_refused routine call e arena hrefused

/-- The first half of a call neither writes nor flushes. -/
theorem rendering_outputs (routine : Routine ρ) (p : Print) (s : ρ) :
    Trace.outputs (p.rendering routine s).trace = [] := by
  by_cases h : p.Lowers
  · -- One pass or two, the trace has requests only.
    rcases rendering_of_lowers routine p h with ⟨format, words, arena, hrender, _⟩
    rw [hrender, Routine.render_trace]
    split
    · rfl
    · rfl
  · rcases rendering_of_not_lowers routine p h with ⟨e, hfail⟩
    rw [hfail]
    rfl

end Print

namespace Bridge

variable (routine : Routine ρ) (sink : Sink τ) (call : Call) (s : NativeState ρ τ)

/-- An invocation whose first half fails is over. -/
theorem native_of_unrendered (stop : Stop)
    (h : (rendering routine call s.routine).result = .error stop) :
    native routine sink call s =
      ⟨.error stop, { s with routine := (rendering routine call s.routine).state },
        (rendering routine call s.routine).trace⟩ := by
  unfold rendering at h ⊢
  unfold native
  rcases hrun : (Lowering.call call.format call.values).run.run Arena.empty with
    ⟨e | lowered, arena⟩
  · -- Nothing was lowered, so the routine is where it was.
    simp only [hrun] at h
    rw [← Except.error.inj h]
    rfl
  · simp only [hrun] at h
    simp only
    rw [Action.bind_of_error _ _ s stop h]
    rfl

/-- An invocation whose first half succeeds logs that it did, and delivers
    what was rendered. -/
theorem native_of_rendered (bytes : Bytes)
    (h : (rendering routine call s.routine).result = .ok bytes) :
    ∃ record, native routine sink call s =
      ⟨(deliver sink bytes s.sink.content).result,
        ⟨(rendering routine call s.routine).state,
          (Guarded.locked (deliver sink bytes) s.sink).state⟩,
        (rendering routine call s.routine).trace ++
          .logged record :: (deliver sink bytes s.sink.content).trace⟩ := by
  unfold rendering at h ⊢
  unfold native
  rcases hrun : (Lowering.call call.format call.values).run.run Arena.empty with
    ⟨e | lowered, arena⟩
  · simp only [hrun] at h
    exact absurd h (by simp only [Action.fail, reduceCtorEq, not_false_eq_true])
  · simp only [hrun] at h
    simp only
    -- The guard lets the delivery in whether or not it is marked.
    rw [Action.bind_of_ok _ _ s bytes h, ← Guarded.enter_content s.sink]
    exact ⟨_, rfl⟩

end Bridge

namespace Reached

variable (routine : Routine ρ) (sink : Sink τ) (r : Reached (NativeState ρ τ))

/-- When the first half of a call fails, the call has failed and nothing
    follows: the sink is what it was, and nothing was written or flushed. -/
theorem outcome_of_unrendered (stop : Stop) (h : (r.rendering routine).result = .error stop) :
    (r.outcome (Bridge.native routine sink)).result = .error stop ∧
      (r.outcome (Bridge.native routine sink)).state =
        { r.state with routine := (r.rendering routine).state } ∧
      Trace.requests (r.outcome (Bridge.native routine sink)).trace =
        Trace.requests (r.rendering routine).trace ∧
      Trace.outputs (r.outcome (Bridge.native routine sink)).trace = [] := by
  have houtputs : Trace.outputs (r.rendering routine).trace = [] :=
    r.print.rendering_outputs routine r.state.routine
  unfold rendering Print.rendering at h houtputs ⊢
  rcases hcall : r.print.call? with _ | call
  · -- Without an entry point the bridge is not even called.
    simp only [hcall] at h
    rw [outcome_of_call?_none _ r hcall]
    exact ⟨congrArg Except.error (Except.error.inj h), rfl, rfl, rfl⟩
  · simp only [hcall] at h houtputs ⊢
    rw [outcome_of_call? _ r call hcall,
      Bridge.native_of_unrendered routine sink call r.state stop h]
    exact ⟨rfl, rfl, rfl, houtputs⟩

/-- When it succeeds, the second half decides how the call ends, and what is
    written and flushed is what delivering writes and flushes. -/
theorem outcome_of_rendered (bytes : Bytes) (h : (r.rendering routine).result = .ok bytes) :
    (∃ entry, (r.outcome (Bridge.native routine sink)).result =
        (Bridge.deliver sink bytes r.state.sink.content).result.map fun _ => entry) ∧
      (r.outcome (Bridge.native routine sink)).state =
        ⟨(r.rendering routine).state,
          (Guarded.locked (Bridge.deliver sink bytes) r.state.sink).state⟩ ∧
      Trace.requests (r.outcome (Bridge.native routine sink)).trace =
        Trace.requests (r.rendering routine).trace ++
          Trace.requests (Bridge.deliver sink bytes r.state.sink.content).trace ∧
      Trace.outputs (r.outcome (Bridge.native routine sink)).trace =
        Trace.outputs (Bridge.deliver sink bytes r.state.sink.content).trace := by
  have houtputs : Trace.outputs (r.rendering routine).trace = [] :=
    r.print.rendering_outputs routine r.state.routine
  unfold rendering Print.rendering at h houtputs ⊢
  rcases hcall : r.print.call? with _ | call
  · simp only [hcall] at h
    exact absurd h (by simp only [Action.fail, reduceCtorEq, not_false_eq_true])
  · simp only [hcall] at h houtputs ⊢
    rcases Bridge.native_of_rendered routine sink call r.state bytes h with ⟨record, hnative⟩
    rw [outcome_of_call? _ r call hcall, hnative]
    refine ⟨⟨call.entry, rfl⟩, rfl, ?_, ?_⟩
    · exact Trace.requests_append _ _
    · -- Of what comes before the delivery nothing is output.
      change Trace.outputs (_ ++ _) = _
      rw [Trace.outputs_append, houtputs]
      rfl

end Reached

end PrintBridge
