import PrintBridge.Proofs.Bridge.Output
import PrintBridge.Proofs.Sink.Sparing

/-!
# Breakdowns of the Output

A native bridge goes on after its output broke down.

A breakdown cuts a call short and leaves the guard of the sink marked. Nothing
else stays behind. The mark is looked at by nobody, the sink is in the state in
which the broken write or flush left it, and the routine has been asked what it
would have been asked anyway. So the call could as well have failed: over a sink
that refuses where this one breaks down, the run up to there is the same, and so
is every later step.

Which breakdowns are replaced is chosen for each step apart, so a run can be
compared with one in which a single breakdown was a refusal, with one in which
all of them were, and with anything between. Two states that such runs come to
are `Alike`: they differ in the mark at most.

## Main definitions

* `NativeState.Alike`, `Outcome.Alike`: States and outcomes that differ in the
  mark of the guard at most.
* `NativeState.remarked`: A state with another mark.
* `Stream.runRefusing`: A run in which each step has breakdowns of its own
  replaced.

## Theorems

* `onSink_spared`, `onRoutine_spared`: Both halves of a call compare.
* `native_spared`: So do calls.
* `runRefusing_spared`: So do runs.
* `run_alike`: Runs do not tell marks apart.
* `run_kept`: What was taken stays in the sink.
* `run_outlives_breakdowns`: What a breakdown does to a run, and what it does
  not.
-/

namespace PrintBridge

variable {ρ τ α : Type}

/-- States with the same routine and the same sink behind the guard. -/
structure NativeState.Alike (s t : NativeState ρ τ) : Prop where
  routine : s.routine = t.routine
  content : s.sink.content = t.sink.content

/-- Outcomes with one result and one trace, in states that are alike. -/
structure Outcome.Alike (o p : Outcome (NativeState ρ τ) α) : Prop where
  result : p.result = o.result
  trace : p.trace = o.trace
  state : o.state.Alike p.state

namespace NativeState

/-- The state with its guard marked, or not. -/
def remarked (s : NativeState ρ τ) (mark : Bool) : NativeState ρ τ :=
  ⟨s.routine, ⟨s.sink.content, mark⟩⟩

theorem alike_refl (s : NativeState ρ τ) : s.Alike s := ⟨rfl, rfl⟩

theorem alike_remarked (s : NativeState ρ τ) (mark : Bool) : s.Alike (s.remarked mark) :=
  ⟨rfl, rfl⟩

variable {r : Sink.Refusals τ}

/-- What is done on the routine does not depend on the mark. -/
theorem onRoutine_spared (x : Action ρ α) :
    (Comparison.sparing r Alike).Actions (onRoutine x : Action (NativeState ρ τ) α)
      (onRoutine x) := by
  intro s t hst
  refine .unchanged ?_ ?_ ⟨?_, hst.content⟩
  · exact congrArg (fun u => (x u).result) hst.routine.symm
  · exact congrArg (fun u => (x u).trace) hst.routine.symm
  · exact congrArg (fun u => (x u).state) hst.routine

/-- What is done on the sink behind the guard compares as it does without a
    guard. -/
theorem onSink_spared {x y : Action τ α} (h : (Comparison.sparing r Eq).Actions x y) :
    (Comparison.sparing r Alike).Actions (onSink x : Action (NativeState ρ τ) α) (onSink y) := by
  intro s t hst
  -- Both guards give the same sink, marked or not.
  have hsame : s.sink.enter.content = t.sink.enter.content := by
    rw [Guarded.enter_content, Guarded.enter_content]
    exact hst.content
  cases h _ _ hsame with
  | unchanged hresult htrace hstate => exact .unchanged hresult htrace ⟨hst.routine, hstate⟩
  | replaced before broken refused words hevent hbroke hlast hrefused hlast' hstate =>
      exact .replaced before broken refused words hevent hbroke hlast hrefused hlast'
        ⟨hst.routine, hstate⟩

end NativeState

namespace Bridge

variable (routine : Routine ρ) (sink : Sink τ) (r : Sink.Refusals τ)

theorem deliver_spared (bytes : Bytes) :
    (Comparison.sparing r Eq).Actions (deliver sink bytes) (deliver (sink.refusing r) bytes) := by
  refine .bind ?_ fun _ => ?_
  · rintro s t rfl
    exact sink.deliver_spared r bytes s
  · rintro s t rfl
    exact sink.flushed_spared r s

/-- A call over a sink that breaks down, and the same call over one that refuses
    instead. -/
theorem native_spared :
    (Comparison.sparing r NativeState.Alike).Bridges (native routine sink)
      (native routine (sink.refusing r)) := by
  intro call
  unfold native
  rcases (Lowering.call call.format call.values).run.run Arena.empty with ⟨e | lowered, arena⟩
  · exact .fail _
  · -- The sink comes in with the last of the three steps only.
    refine .bind (NativeState.onRoutine_spared _) fun bytes => .bind (.emit _) fun _ => ?_
    exact NativeState.onSink_spared (deliver_spared sink r bytes)

end Bridge

namespace Stream

variable (routine : Routine ρ) (sink : Sink τ)

/-- A run in which every step is made over a sink that refuses instead of some
    breakdowns, which the step has of its own. -/
def runRefusing (s : NativeState ρ τ) :
    List (Step × Sink.Refusals τ) → List (Outcome (NativeState ρ τ) (Option EntryPoint))
  | [] => []
  | turn :: rest =>
    let outcome := runStep (Bridge.native routine (sink.refusing turn.2)) turn.1 s
    outcome :: runRefusing outcome.state rest

/-- Step by step, a run compares with one in which breakdowns were replaced. -/
theorem runRefusing_spared (turns : List (Step × Sink.Refusals τ)) (s t : NativeState ρ τ)
    (hst : s.Alike t) :
    List.Forall₂ (fun turn pair => Outcome.Spared turn.2 NativeState.Alike pair.1 pair.2) turns
      ((run (Bridge.native routine sink) s (turns.map Prod.fst)).zip
        (runRefusing routine sink t turns)) := by
  induction turns generalizing s t with
  | nil => exact .nil
  | cons turn rest ih =>
      have hstep := (Bridge.native_spared routine sink turn.2).runStep turn.1 s t hst
      exact .cons hstep (ih _ _ ((Comparison.sparing turn.2 NativeState.Alike).states hstep))

/-- Runs from states that are alike are alike. -/
theorem run_alike (steps : List Step) (s t : NativeState ρ τ) (hst : s.Alike t) :
    List.Forall₂ Outcome.Alike (run (Bridge.native routine sink) s steps)
      (run (Bridge.native routine sink) t steps) := by
  have hnative := Bridge.native_spared routine sink .never
  rw [Sink.refusing_none] at hnative
  refine (hnative.run steps s t hst).1.imp fun o p h => ?_
  rcases Outcome.Spared.of_never h with ⟨hresult, htrace, hstate⟩
  exact ⟨hresult, htrace, hstate⟩

/-- A sink that keeps its bytes has, behind a run, what it had and what it took,
    whatever broke down on the way. -/
theorem run_kept {content : τ → Bytes} (hkeeps : sink.Keeps content) (steps : List Step)
    (s : NativeState ρ τ) :
    content (finalState s (run (Bridge.native routine sink) s steps)).sink.content =
      content s.sink.content ++
        Trace.accepted ((run (Bridge.native routine sink) s steps).flatMap Outcome.trace) := by
  have hadded := run_accumulates (Bridge.native routine sink) (fun s => content s.sink.content) _
    (fun r => r.kept_of_outcome routine sink hkeeps) steps s
  rw [run_trace, hadded]
  exact congrArg _ List.flatMap_assoc.symm

end Stream

/-- Breakdowns do not outlive the steps that they cut short. Replace any of them
    by refusals: every step comes to the same, but that a step which had no result
    has failed where its breakdown was replaced, and the sink and the routine are
    in the same states behind it. So whatever comes after a step is alike, whether
    the sink broke down in it or refused. What a sink took before it broke down
    stays in it. The mark that a breakdown leaves is seen by no later step and by
    nobody else who asks for the sink or takes it away. -/
theorem run_outlives_breakdowns (routine : Routine ρ) (sink : Sink τ) (s : NativeState ρ τ) :
    (∀ turns : List (Step × Sink.Refusals τ),
      List.Forall₂ (fun turn pair => Outcome.Spared turn.2 NativeState.Alike pair.1 pair.2) turns
        ((Stream.run (Bridge.native routine sink) s (turns.map Prod.fst)).zip
          (Stream.runRefusing routine sink s turns))) ∧
      (∀ step r later, List.Forall₂ Outcome.Alike
        (Stream.run (Bridge.native routine sink)
          (Stream.runStep (Bridge.native routine sink) step s).state later)
        (Stream.run (Bridge.native routine sink)
          (Stream.runStep (Bridge.native routine (sink.refusing r)) step s).state later)) ∧
      (∀ content : τ → Bytes, sink.Keeps content → ∀ steps,
        content (Stream.finalState s
            (Stream.run (Bridge.native routine sink) s steps)).sink.content =
          content s.sink.content ++ Trace.accepted
            ((Stream.run (Bridge.native routine sink) s steps).flatMap Outcome.trace)) ∧
      (∀ mark steps, List.Forall₂ Outcome.Alike
        (Stream.run (Bridge.native routine sink) s steps)
        (Stream.run (Bridge.native routine sink) (s.remarked mark) steps)) ∧
      (∀ mark (x : Action τ α),
        (NativeState.onSink x (s.remarked mark)).result = (x s.sink.content).result ∧
          (NativeState.onSink x (s.remarked mark)).state.sink.content = (x s.sink.content).state ∧
          (NativeState.onSink x (s.remarked mark)).trace = (x s.sink.content).trace) ∧
      ∀ mark, (s.remarked mark).intoSink = s.sink.content := by
  refine ⟨fun turns => Stream.runRefusing_spared routine sink turns s s s.alike_refl,
    fun step r later => ?_, fun content hkeeps steps => Stream.run_kept routine sink hkeeps steps s,
    fun mark steps => Stream.run_alike routine sink steps s _ (s.alike_remarked mark),
    fun mark x => ?_, fun mark => (s.remarked mark).intoSink_eq⟩
  · have hstep := (Bridge.native_spared routine sink r).runStep step s s s.alike_refl
    exact Stream.run_alike routine sink later _ _
      ((Comparison.sparing r NativeState.Alike).states hstep)
  · have henter : (s.remarked mark).sink.enter.content = s.sink.content :=
      (s.remarked mark).sink.enter_content
    simp only [NativeState.onSink, Action.within, Guarded.locked, henter, and_self]

end PrintBridge
