import Mathlib.Data.List.Forall2
import Mathlib.Data.List.Induction
import PrintBridge.Proofs.Bridge.Output
import PrintBridge.Proofs.Threads.Interleaving

/-!
# Serial Equivalence

Interleaved calls come to the same as calls made one after the other.

The order is the one in which calls end. For calls that pass the guard this is
the order in which they passed it, since the guard is given back before it is
passed again. The others leave the sink alone, so it does not matter where they
stand.

`Accounts` relates a machine at any time to the run of the calls that are over.
While nobody has the guard, the sink is what that run has left. While a thread
has it, the sink is on the way from there to what its call will leave: some
events have happened, and what is still to do does the others. This is `Held`,
and it is where the single writes of a delivery are put together again. Every
turn keeps the accounts, so every schedule does.

## Main definitions

* `serialSteps`: Calls that are over, as a program without threads.
* `serialState`, `serialLog`, `serialTaken`: What a run of it comes to.
* `Stage.Fits`: What is known of a call that has not passed the guard.
* `Machine.Free`, `Machine.Held`: The sink, while nobody or somebody has it.
* `Machine.Accounts`: How a machine stands to the run of its finished calls.

## Theorems

* `turn_accounts`: Every turn keeps the accounts.
* `run_accounts`: So does every schedule.
* `run_serializes`: A quiet machine is where a run of its calls ends.
-/

namespace PrintBridge

namespace Stream

variable {σ : Type}

/-- A single call in a run is the call. -/
theorem runStep_print (b : Bridge σ) (p : Print) (s : σ) :
    runStep b p.step s =
      ⟨((⟨p, s⟩ : Reached σ).outcome b).result.map fun _ => none,
        ((⟨p, s⟩ : Reached σ).outcome b).state, ((⟨p, s⟩ : Reached σ).outcome b).trace⟩ := by
  change ((b.dispatch p.format p.args >>= fun _ => return ()) >>= fun _ => return none) s = _
  rw [Action.bind_return, Action.bind_return]
  rw [Reached.outcome]
  cases (b.dispatch p.format p.args s).result <;> rfl

theorem run_concat (b : Bridge σ) (s : σ) (steps : List Step) (p : Print) :
    run b s (steps ++ [p.step]) =
      run b s steps ++ [runStep b p.step (finalState s (run b s steps))] := by
  rw [run_append]
  rfl

theorem finalState_concat (b : Bridge σ) (s : σ) (steps : List Step) (p : Print) :
    finalState s (run b s (steps ++ [p.step])) =
      ((⟨p, finalState s (run b s steps)⟩ : Reached σ).outcome b).state := by
  rw [run_concat, finalState, List.getLast?_concat, runStep_print]
  rfl

theorem reached_print (b : Bridge σ) (s : σ) (p : Print) : reached b s [p.step] = [⟨p, s⟩] := by
  simp only [reached, reachedEach, Print.step, Step.prints, Link.prints, reachedOf]
  cases ((⟨p, s⟩ : Reached σ).outcome b).result <;> rfl

theorem reached_concat (b : Bridge σ) (s : σ) (steps : List Step) (p : Print) :
    reached b s (steps ++ [p.step]) =
      reached b s steps ++ [⟨p, finalState s (run b s steps)⟩] := by
  induction steps generalizing s with
  | nil => exact reached_print b s p
  | cons step rest ih =>
      have hcons : ∀ later, reached b s (step :: later) =
          reachedOf b s step.prints ++ reached b (runStep b step s).state later := fun later => by
        simp only [reached, reachedEach, List.flatten_cons]
      rw [List.cons_append, hcons, hcons, ih, finalState_run_cons, List.append_assoc]

end Stream

theorem reached_prints {σ : Type} (b : Bridge σ) (s : σ) (ps : List Print) :
    (Stream.reached b s (ps.map Print.step)).map Reached.print = ps := by
  rw [Stream.reached, List.map_flatten, Stream.reachedEach_prints_map]
  exact List.flatMap_singleton' ps

variable {ρ τ ι : Type}

/-- Calls that are over, as a program without threads. -/
def serialSteps (done : List (Finished ι)) : List Step := done.map fun f => f.print.step

/-- The finished calls that have something to write. -/
def served (routine : Routine ρ) (r : ρ) (done : List (Finished ι)) : List (Finished ι) :=
  done.filter fun f => (f.print.rendering routine r).result.toBool

theorem served_of_error {routine : Routine ρ} {r : ρ} {f : Finished ι} {stop : Stop}
    (done : List (Finished ι)) (h : (f.print.rendering routine r).result = .error stop) :
    served routine r (done ++ [f]) = served routine r done := by
  rw [served, List.filter_append, List.filter_singleton, h]
  exact List.append_nil _

theorem served_of_ok {routine : Routine ρ} {r : ρ} {f : Finished ι} {bytes : Bytes}
    (done : List (Finished ι)) (h : (f.print.rendering routine r).result = .ok bytes) :
    served routine r (done ++ [f]) = served routine r done ++ [f] := by
  rw [served, List.filter_append, List.filter_singleton, h]
  rfl

section Serial

variable (routine : Routine ρ) (sink : Sink τ) (s : NativeState ρ τ)

/-- The state after a run of calls. -/
def serialState (done : List (Finished ι)) : NativeState ρ τ :=
  Stream.finalState s (Stream.run (Bridge.native routine sink) s (serialSteps done))

/-- What a run of calls writes and flushes, with the threads that the calls are
    of. -/
def serialLog (done : List (Finished ι)) : List (ι × Event) :=
  ((done.map Finished.thread).zip
    (Stream.reached (Bridge.native routine sink) s (serialSteps done))).flatMap fun c =>
      (Trace.outputs (c.2.outcome (Bridge.native routine sink)).trace).map fun e => (c.1, e)

/-- The calls that have something to write. -/
def serialTaken (done : List (Finished ι)) : List (ι × Print) :=
  (served routine s.routine done).map fun f => (f.thread, f.print)

/-- How a call comes out that is made after others. -/
def outcomeAfter (done : List (Finished ι)) (p : Print) : Outcome (NativeState ρ τ) EntryPoint :=
  (⟨p, serialState routine sink s done⟩ : Reached (NativeState ρ τ)).outcome
    (Bridge.native routine sink)

theorem serialState_concat (done : List (Finished ι)) (f : Finished ι) :
    serialState routine sink s (done ++ [f]) =
      (outcomeAfter routine sink s done f.print).state := by
  rw [serialState, serialSteps, List.map_append]
  exact Stream.finalState_concat _ s _ f.print

theorem serialLog_concat (done : List (Finished ι)) (f : Finished ι) :
    serialLog routine sink s (done ++ [f]) =
      serialLog routine sink s done ++
        (Trace.outputs (outcomeAfter routine sink s done f.print).trace).map fun e =>
          (f.thread, e) := by
  have hreached := Stream.reached_concat (Bridge.native routine sink) s (serialSteps done) f.print
  have hlength : (done.map Finished.thread).length =
      (Stream.reached (Bridge.native routine sink) s (serialSteps done)).length := by
    have hprints := reached_prints (Bridge.native routine sink) s (done.map Finished.print)
    rw [List.map_map] at hprints
    have hsame := congrArg List.length hprints
    rw [List.length_map, List.length_map] at hsame
    rw [List.length_map]
    exact hsame.symm
  have hsteps : serialSteps (done ++ [f]) = serialSteps done ++ [f.print.step] :=
    List.map_append
  rw [serialLog, hsteps, hreached, List.map_append, List.zip_append hlength, List.flatMap_append]
  exact congrArg (_ ++ ·) (List.append_nil _)

/-- How the calls of a run end. -/
def serialResults (done : List (Finished ι)) : List (Except Stop (Option EntryPoint)) :=
  (Stream.run (Bridge.native routine sink) s (serialSteps done)).map Outcome.result

theorem serialResults_concat (done : List (Finished ι)) (f : Finished ι) :
    serialResults routine sink s (done ++ [f]) =
      serialResults routine sink s done ++
        [(outcomeAfter routine sink s done f.print).result.map fun _ => none] := by
  rw [serialResults, serialSteps, List.map_append]
  have hrun := Stream.run_concat (Bridge.native routine sink) s (serialSteps done) f.print
  rw [Stream.runStep_print] at hrun
  exact (congrArg (List.map Outcome.result) hrun).trans List.map_append

end Serial

/-- What is known of a call that has not passed the guard: what it still has to
    do is its rendering. -/
def Stage.Fits (routine : Routine ρ) (p : Print) : Stage → Prop
  | .preparing st => ∀ r, (p.rendering routine r).result = (st.rest routine p r).result
  | .rendered bytes => ∀ r, (p.rendering routine r).result = .ok bytes
  | .delivering _ => True

/-- How the threads stand to their programs: what is over and what is still to do
    make up the program, and the first call of what is still to do fits its
    stage. -/
structure Threaded [DecidableEq ι] (routine : Routine ρ) (programs : ι → List Print)
    (finished : List (Finished ι)) (threads : ι → Thread) : Prop where
  order : ∀ i, (finished.filter fun f => f.thread = i).map Finished.print ++ (threads i).todo =
    programs i
  fresh : ∀ i, (threads i).todo = [] → (threads i).stage = .fresh
  fits : ∀ i p rest, (threads i).todo = p :: rest → (threads i).stage.Fits routine p

namespace Threaded

variable [DecidableEq ι] {routine : Routine ρ} {programs : ι → List Print}
  {finished : List (Finished ι)} {threads : ι → Thread} {i : ι} {p : Print} {rest : List Print}

/-- A call comes to another stage that fits it. -/
theorem moves (h : Threaded routine programs finished threads)
    (htodo : (threads i).todo = p :: rest) {stage : Stage} (hfits : stage.Fits routine p) :
    Threaded routine programs finished
      (Function.update threads i ⟨(threads i).todo, stage⟩) := by
  refine ⟨fun j => ?_, fun j hnil => ?_, fun j q later hj => ?_⟩
  · rcases eq_or_ne j i with rfl | hne
    · rw [Function.update_self]
      exact h.order j
    · rw [Function.update_of_ne hne]
      exact h.order j
  · rcases eq_or_ne j i with rfl | hne
    · rw [Function.update_self] at hnil
      exact absurd (htodo.symm.trans hnil) (List.cons_ne_nil _ _)
    · rw [Function.update_of_ne hne] at hnil ⊢
      exact h.fresh j hnil
  · rcases eq_or_ne j i with rfl | hne
    · rw [Function.update_self] at hj ⊢
      rw [htodo] at hj
      exact (List.cons.inj hj).1 ▸ hfits
    · rw [Function.update_of_ne hne] at hj ⊢
      exact h.fits j q later hj

/-- A call is over, and the thread goes on with its next call. -/
theorem ends (h : Threaded routine programs finished threads) (htodo : (threads i).todo = p :: rest)
    (result : Except Stop Unit) :
    Threaded routine programs (finished ++ [⟨i, p, result⟩])
      (Function.update threads i ⟨(threads i).todo.tail, .fresh⟩) := by
  refine ⟨fun j => ?_, fun j hnil => ?_, fun j q later hj => ?_⟩
  · rw [← h.order j, List.filter_append, List.map_append]
    rcases eq_or_ne j i with rfl | hne
    · rw [Function.update_self, htodo, List.tail_cons, List.append_assoc,
        List.filter_singleton, decide_eq_true rfl]
      rfl
    · rw [Function.update_of_ne hne, List.filter_singleton, decide_eq_false hne.symm]
      exact congrArg (· ++ _) (List.append_nil _)
  · rcases eq_or_ne j i with rfl | hne
    · rw [Function.update_self]
    · rw [Function.update_of_ne hne] at hnil ⊢
      exact h.fresh j hnil
  · rcases eq_or_ne j i with rfl | hne
    · rw [Function.update_self]
      exact fun _ => rfl
    · rw [Function.update_of_ne hne] at hj ⊢
      exact h.fits j q later hj

end Threaded

namespace Machine

section Accounts

variable (routine : Routine ρ) (sink : Sink τ) (s : NativeState ρ τ)

/-- While nobody has the guard, the sink is what the finished calls have left. -/
structure Free (m : Machine ι ρ τ) : Prop where
  holder : m.holder = none
  nobody : ∀ i st, (m.threads i).stage ≠ .delivering st
  same : m.shared.sink = (serialState routine sink s m.finished).sink
  log : m.log = serialLog routine sink s m.finished
  taken : m.taken = serialTaken routine s m.finished

/-- While a thread has it, the delivery of its call has come some way: `done` has
    happened, and what is still to do does the others. -/
structure Held (m : Machine ι ρ τ) (i : ι) (p : Print) (st : Delivering) (bytes : Bytes)
    (done : Trace) : Prop where
  holder : m.holder = some i
  first : ∃ rest, (m.threads i).todo = p :: rest
  stage : (m.threads i).stage = .delivering st
  nobody : ∀ j st, j ≠ i → (m.threads j).stage ≠ .delivering st
  rendering : ∀ r, (p.rendering routine r).result = .ok bytes
  marked : m.shared.sink.marked = (serialState routine sink s m.finished).sink.marked
  deliver : Bridge.deliver sink bytes (serialState routine sink s m.finished).sink.content =
    ⟨(st.rest sink m.shared.sink.content).result, (st.rest sink m.shared.sink.content).state,
      done ++ (st.rest sink m.shared.sink.content).trace⟩
  log : m.log = serialLog routine sink s m.finished ++ done.map fun e => (i, e)
  taken : m.taken = serialTaken routine s m.finished ++ [(i, p)]

/-- How a machine stands to the run of its finished calls. -/
structure Accounts [DecidableEq ι] (programs : ι → List Print) (m : Machine ι ρ τ) : Prop where
  threaded : Threaded routine programs m.finished m.threads
  same : m.shared.routine = s.routine
  serial : (serialState routine sink s m.finished).routine = s.routine
  results : serialResults routine sink s m.finished =
    m.finished.map fun f => f.result.map fun _ => none
  guard : m.Free routine sink s ∨ ∃ i p st bytes done, m.Held routine sink s i p st bytes done

end Accounts

variable [DecidableEq ι] {routine : Routine ρ} {sink : Sink τ} {s : NativeState ρ τ}
  {programs : ι → List Print} {m : Machine ι ρ τ} {i : ι} {p : Print} {rest : List Print}

/-- At the start nothing is finished. -/
theorem start_accounts : (start s programs).Accounts routine sink s programs where
  threaded := ⟨fun _ => rfl, fun _ _ => rfl, fun _ _ _ _ _ => rfl⟩
  same := rfl
  serial := rfl
  results := rfl
  guard := .inl ⟨rfl, fun _ _ h => (nomatch h), rfl, rfl, rfl⟩

theorem fresh_ne (st : Delivering) : Stage.fresh ≠ .delivering st := by
  simp only [Stage.fresh, ne_eq, reduceCtorEq, not_false_eq_true]

/-- Of the threads that are looked at, none is behind the guard, also after one
    of them came to another stage. -/
theorem nobody_update {threads : ι → Thread} {t : Thread} {P : ι → Prop}
    (h : ∀ j st, j ≠ i → P j → (threads j).stage ≠ .delivering st)
    (ht : P i → ∀ st, t.stage ≠ .delivering st) (j : ι) (st : Delivering) (hj : P j) :
    (Function.update threads i t j).stage ≠ .delivering st := by
  rcases eq_or_ne j i with rfl | hne
  · rw [Function.update_self]
    exact ht hj st
  · rw [Function.update_of_ne hne]
    exact h j st hne hj

/-- What a thread does before it has the guard leaves the guard as it is. -/
theorem guard_update {finished : List (Finished ι)} {t : Thread}
    (hguard : m.Free routine sink s ∨ ∃ i p st bytes done, m.Held routine sink s i p st bytes done)
    (hold : ∀ st, (m.threads i).stage ≠ .delivering st) (hnew : ∀ st, t.stage ≠ .delivering st)
    (hstate : serialState routine sink s finished = serialState routine sink s m.finished)
    (hlog : serialLog routine sink s finished = serialLog routine sink s m.finished)
    (htaken : serialTaken routine s finished = serialTaken routine s m.finished) :
    let after := { m with threads := Function.update m.threads i t, finished := finished }
    after.Free routine sink s ∨
      ∃ i p st bytes done, after.Held routine sink s i p st bytes done := by
  -- Either nobody has the guard, before and after, or another thread has it, and
  -- nothing of what is known of that one has changed.
  rcases hguard with hfree | ⟨j, q, st, bytes, done, hheld⟩
  · left
    refine ⟨hfree.holder, fun j st => ?_, ?_, ?_, ?_⟩
    · exact nobody_update (P := fun _ => True) (fun j st _ _ => hfree.nobody j st)
        (fun _ => hnew) j st trivial
    · rw [hstate]
      exact hfree.same
    · rw [hlog]
      exact hfree.log
    · rw [htaken]
      exact hfree.taken
  · right
    have hne : j ≠ i := fun heq => hold st (heq ▸ hheld.stage)
    have hsame : Function.update m.threads i t j = m.threads j := Function.update_of_ne hne _ _
    refine ⟨j, q, st, bytes, done, ⟨hheld.holder, ?_, ?_, fun k st' hk => ?_, hheld.rendering,
      ?_, ?_, ?_, ?_⟩⟩
    · simp only [hsame]
      exact hheld.first
    · simp only [hsame]
      exact hheld.stage
    · exact nobody_update (fun k st _ => hheld.nobody k st) (fun _ => hnew) k st' hk
    · rw [hstate]
      exact hheld.marked
    · rw [hstate]
      exact hheld.deliver
    · rw [hlog]
      exact hheld.log
    · rw [htaken]
      exact hheld.taken

/-- A call that does not come to the guard and is not over changes nothing but
    its stage. -/
theorem moves_accounts (h : m.Accounts routine sink s programs)
    (htodo : (m.threads i).todo = p :: rest) (hold : ∀ st, (m.threads i).stage ≠ .delivering st)
    {stage : Stage} (hnew : ∀ st, stage ≠ .delivering st) (hfits : stage.Fits routine p) :
    (m.moves i stage).Accounts routine sink s programs where
  threaded := h.threaded.moves htodo hfits
  same := h.same
  serial := h.serial
  results := h.results
  guard := guard_update h.guard hold hnew rfl rfl rfl

/-- A call without a rendering is over before it comes to the guard. -/
theorem refused_accounts (hpure : routine.Pure) (h : m.Accounts routine sink s programs)
    (htodo : (m.threads i).todo = p :: rest) (hold : ∀ st, (m.threads i).stage ≠ .delivering st)
    {stop : Stop} (hstop : ∀ r, (p.rendering routine r).result = .error stop) :
    (m.ends i p (.error stop)).Accounts routine sink s programs := by
  rcases Reached.outcome_of_unrendered routine sink
    ⟨p, serialState routine sink s m.finished⟩ stop (hstop _) with ⟨hresult, hstate, -, houtputs⟩
  have hserial : serialState routine sink s (m.finished ++ [⟨i, p, .error stop⟩]) =
      serialState routine sink s m.finished := by
    rw [serialState_concat]
    refine hstate.trans ?_
    rw [Reached.rendering, (p.rendering_pure hpure _).1]
  refine ⟨h.threaded.ends htodo _, h.same, ?_, ?_, ?_⟩
  · exact (congrArg NativeState.routine hserial).trans h.serial
  · change serialResults routine sink s (m.finished ++ [⟨i, p, .error stop⟩]) = _
    rw [serialResults_concat, h.results, outcomeAfter, hresult, ends, List.map_append]
    rfl
  · refine guard_update h.guard hold fresh_ne hserial ?_ ?_
    · rw [serialLog_concat, outcomeAfter, houtputs]
      exact List.append_nil _
    · rw [serialTaken, served_of_error m.finished (hstop _), serialTaken]

/-- Passing the guard, a call has all of its delivery still to do. -/
theorem pass_accounts (h : m.Accounts routine sink s programs)
    (htodo : (m.threads i).todo = p :: rest) {bytes : Bytes}
    (hstage : (m.threads i).stage = .rendered bytes) :
    (m.pass i p bytes).Accounts routine sink s programs := by
  have hrendering : ∀ r, (p.rendering routine r).result = .ok bytes := by
    have hfits := h.threaded.fits i p rest htodo
    rwa [hstage] at hfits
  rcases h.guard with hfree | ⟨j, q, st, bytes', done, hheld⟩
  · unfold pass
    rw [hfree.holder]
    refine ⟨h.threaded.moves htodo trivial, h.same, h.serial, h.results, .inr
      ⟨i, p, .writing bytes, bytes, [], rfl, ?_, ?_, ?_, hrendering, ?_, ?_, ?_, ?_⟩⟩
    · simp only [moves, Function.update_self]
      exact ⟨rest, htodo⟩
    · simp only [moves, Function.update_self]
    · exact nobody_update (fun k st _ _ => hfree.nobody k st) (fun hi => absurd rfl hi)
    · exact congrArg Guarded.marked hfree.same
    · change Bridge.deliver sink bytes (serialState routine sink s m.finished).sink.content = _
      rw [← hfree.same]
      rfl
    · exact hfree.log.trans (List.append_nil _).symm
    · exact congrArg (· ++ [(i, p)]) hfree.taken
  · -- Another thread has the guard, so the turn is lost.
    unfold pass
    rw [hheld.holder]
    exact h

/-- The thread whose call is behind the guard is the one that has it. -/
theorem held_of_delivering (h : m.Accounts routine sink s programs)
    (htodo : (m.threads i).todo = p :: rest) {st : Delivering}
    (hstage : (m.threads i).stage = .delivering st) :
    ∃ bytes done, m.Held routine sink s i p st bytes done := by
  rcases h.guard with hfree | ⟨j, q, st', bytes, done, hheld⟩
  · exact absurd hstage (hfree.nobody i st)
  · rcases eq_or_ne j i with rfl | hne
    · have hst : st' = st := by
        rw [hheld.stage] at hstage
        exact Stage.delivering.inj hstage
      rcases hheld.first with ⟨later, hfirst⟩
      rw [htodo] at hfirst
      rw [hst, ← (List.cons.inj hfirst).1] at hheld
      exact ⟨bytes, done, hheld⟩
    · exact absurd hstage (hheld.nobody i st hne.symm)

/-- A write or a flush brings the delivery on by one event. -/
theorem write_accounts (h : m.Accounts routine sink s programs)
    (htodo : (m.threads i).todo = p :: rest) {left : Bytes}
    (hstage : (m.threads i).stage = .delivering (.writing left)) :
    (m.write sink i left).Accounts routine sink s programs := by
  rcases held_of_delivering h htodo hstage with ⟨bytes, done, hheld⟩
  let step := sink.advance left m.shared.sink.content
  refine ⟨h.threaded.moves htodo trivial, h.same, h.serial, h.results, .inr
    ⟨i, p, step.stage, bytes, done ++ [step.event], hheld.holder, ?_, ?_, ?_, hheld.rendering,
      hheld.marked, ?_, ?_, hheld.taken⟩⟩
  · simp only [write, moves, Function.update_self]
    exact ⟨rest, htodo⟩
  · simp only [write, moves, Function.update_self]
    rfl
  · exact nobody_update (fun k st hk _ => hheld.nobody k st hk) (fun hi => absurd rfl hi)
  -- One event more has happened, and one is taken off what is still to do.
  · have hstep := Sink.deliver_eq sink left m.shared.sink.content
    refine hheld.deliver.trans ?_
    rw [Delivering.rest, hstep, List.append_assoc]
    rfl
  · change m.log ++ [(i, step.event)] = _
    rw [hheld.log, List.map_append, List.append_assoc]
    rfl

/-- With the guard given back, the call has done what it does without others. -/
theorem close_accounts (hpure : routine.Pure) (h : m.Accounts routine sink s programs)
    (htodo : (m.threads i).todo = p :: rest) {result : Except Stop Unit}
    (hstage : (m.threads i).stage = .delivering (.closing result)) :
    (m.close i p result).Accounts routine sink s programs := by
  rcases held_of_delivering h htodo hstage with ⟨bytes, done, hheld⟩
  let r : Reached (NativeState ρ τ) := ⟨p, serialState routine sink s m.finished⟩
  have hrendered : (r.rendering routine).result = .ok bytes := hheld.rendering _
  rcases Reached.outcome_of_rendered routine sink r bytes hrendered with
    ⟨⟨entry, hresult⟩, hstate, -, -⟩
  have houtputs := Reached.outputs_of_rendered routine sink r bytes hrendered
  -- Nothing is still to do, so what has happened is all of the delivery.
  have hdeliver : Bridge.deliver sink bytes r.state.sink.content =
      ⟨result, m.shared.sink.content, done⟩ := by
    rw [hheld.deliver, Delivering.rest, List.append_nil]
  rw [hdeliver] at hresult houtputs
  -- A run without threads leaves the same sink behind, marked in the same case.
  have hserial : serialState routine sink s (m.finished ++ [⟨i, p, result⟩]) =
      ⟨s.routine, ⟨m.shared.sink.content, m.shared.sink.marked || broke result⟩⟩ := by
    rw [serialState_concat]
    refine hstate.trans ?_
    rw [Guarded.locked_state, hdeliver, Reached.rendering, (p.rendering_pure hpure _).1, h.serial,
      hheld.marked]
  refine ⟨h.threaded.ends htodo _, h.same, ?_, ?_, .inl ⟨rfl, ?_, ?_, ?_, ?_⟩⟩
  · change (serialState routine sink s (m.finished ++ [⟨i, p, result⟩])).routine = s.routine
    rw [hserial]
  · change serialResults routine sink s (m.finished ++ [⟨i, p, result⟩]) =
      List.map _ (m.finished ++ [⟨i, p, result⟩])
    rw [serialResults_concat, h.results, outcomeAfter, hresult, List.map_append]
    cases result <;> rfl
  · exact fun j st => nobody_update (P := fun _ => True)
      (fun k st hk _ => hheld.nobody k st hk) (fun _ => fresh_ne) j st trivial
  · change _ = (serialState routine sink s (m.finished ++ [⟨i, p, result⟩])).sink
    rw [hserial]
    rfl
  · change m.log = serialLog routine sink s (m.finished ++ [⟨i, p, result⟩])
    rw [serialLog_concat, outcomeAfter, houtputs, hheld.log]
  · change m.taken = serialTaken routine s (m.finished ++ [⟨i, p, result⟩])
    have hserved : served routine s.routine (m.finished ++ [⟨i, p, result⟩]) =
        served routine s.routine m.finished ++ [⟨i, p, result⟩] :=
      served_of_ok m.finished (hheld.rendering _)
    rw [hheld.taken, serialTaken, serialTaken, hserved, List.map_append]
    rfl

/-- A step on the way to a rendering: the call is refused, or goes on. -/
theorem prepare_accounts (hpure : routine.Pure) (h : m.Accounts routine sink s programs)
    (htodo : (m.threads i).todo = p :: rest) {st : Preparing}
    (hstage : (m.threads i).stage = .preparing st) :
    (m.prepare routine i p st).Accounts routine sink s programs := by
  have hfits : ∀ r, (p.rendering routine r).result = (st.rest routine p r).result := by
    have hfits := h.threaded.fits i p rest htodo
    rwa [hstage] at hfits
  have hold : ∀ st, (m.threads i).stage ≠ .delivering st := by
    intro st'
    rw [hstage]
    simp only [ne_eq, reduceCtorEq, not_false_eq_true]
  -- A pure routine is where it was.
  simp only [prepare, (st.next_pure hpure p m.shared.routine).1]
  rcases hnext : (st.next routine p m.shared.routine).result with stop | st' | bytes
  · exact refused_accounts hpure h htodo hold fun r =>
      (hfits r).trans (Preparing.rest_of_next_error hpure hnext r)
  · refine moves_accounts h htodo hold (fun st => ?_) fun r =>
      (hfits r).trans (Preparing.rest_of_next_ok hpure hnext r)
    simp only [ne_eq, reduceCtorEq, not_false_eq_true]
  · refine moves_accounts h htodo hold (fun st => ?_) fun r =>
      (hfits r).trans (Preparing.rest_of_next_ok hpure hnext r)
    simp only [ne_eq, reduceCtorEq, not_false_eq_true]

/-- Every turn keeps the accounts. -/
theorem turn_accounts (hpure : routine.Pure) (h : m.Accounts routine sink s programs) (i : ι) :
    (m.turn routine sink i).Accounts routine sink s programs := by
  unfold turn
  rcases htodo : (m.threads i).todo with _ | ⟨p, rest⟩
  · exact h
  · rcases hstage : (m.threads i).stage with st | bytes | (left | result)
    · exact prepare_accounts hpure h htodo hstage
    · exact pass_accounts h htodo hstage
    · exact write_accounts h htodo hstage
    · exact close_accounts hpure h htodo hstage

/-- Every schedule keeps the accounts. -/
theorem run_accounts (hpure : routine.Pure) (h : m.Accounts routine sink s programs)
    (schedule : List ι) : (m.run routine sink schedule).Accounts routine sink s programs := by
  induction schedule generalizing m with
  | nil => exact h
  | cons i later ih => exact ih (turn_accounts hpure h i)

end Machine

namespace Reached

variable (routine : Routine ρ) (sink : Sink τ) (r : Reached (NativeState ρ τ)) (bytes : Bytes)

theorem contribution_front (h : (r.rendering routine).result = .ok bytes) :
    r.contribution (Bridge.native routine sink) <+: bytes := by
  have hwritten := r.written_of_reached routine sink
  rcases hdeliver : (sink.deliver bytes r.state.sink.content).result with stop | _
  · exact (hwritten.cut bytes stop h hdeliver).1
  · have hall := (hwritten.whole bytes h hdeliver).1
    exact ⟨[], by rw [hall, List.append_nil]⟩

theorem contribution_of_ok (h : (r.rendering routine).result = .ok bytes)
    (hok : (r.outcome (Bridge.native routine sink)).result.map
      (fun _ => (none : Option EntryPoint)) = .ok none) :
    r.contribution (Bridge.native routine sink) = bytes := by
  rcases hresult : (r.outcome (Bridge.native routine sink)).result with stop | entry
  · rw [hresult] at hok
    exact absurd hok (by simp only [Except.map, reduceCtorEq, not_false_eq_true])
  · rcases (r.written_of_reached routine sink).succeeds.1 ⟨entry, hresult⟩ with
      ⟨bytes', h', hall, -⟩
    rw [h, Except.ok.injEq] at h'
    rw [hall, h']

end Reached

/-- The part of a finished call: some of its rendering from the front, and all of
    it if the call succeeded. -/
def Finished.Contributes (routine : Routine ρ) (r : ρ) (f : Finished ι) (part : Bytes) : Prop :=
  ∃ bytes, (f.print.rendering routine r).result = .ok bytes ∧ part <+: bytes ∧
    (f.result = .ok () → part = bytes)

/-- What a run of calls writes and flushes is in segments, one for each call that
    has something to write, and each has the part of its call. -/
theorem serial_segments {routine : Routine ρ} {sink : Sink τ} {s : NativeState ρ τ}
    (hpure : routine.Pure) (done : List (Finished ι))
    (hresults : serialResults routine sink s done = done.map fun f => f.result.map fun _ => none) :
    ∃ segments : List Trace,
      serialLog routine sink s done =
          (List.zipWith (fun f segment => segment.map fun e => (f.thread, e))
            (served routine s.routine done) segments).flatten ∧
        List.Forall₂ (fun f segment => f.Contributes routine s.routine (Trace.accepted segment))
          (served routine s.routine done) segments ∧
        ∀ content : τ → Bytes, sink.Keeps content →
          content (serialState routine sink s done).sink.content =
            content s.sink.content ++ segments.flatMap Trace.accepted := by
  -- By induction from the end: the last call adds the last segment, if any.
  induction done using List.reverseRecOn with
  | nil => exact ⟨[], rfl, .nil, fun content _ => (List.append_nil _).symm⟩
  | append_singleton done f ih =>
      rw [serialResults_concat, List.map_append] at hresults
      rcases List.append_inj' hresults rfl with ⟨hbefore, hlast⟩
      rcases ih hbefore with ⟨segments, hlog, hparts, hcontent⟩
      let r : Reached (NativeState ρ τ) := ⟨f.print, serialState routine sink s done⟩
      have hsame : (r.rendering routine).result =
          (f.print.rendering routine s.routine).result :=
        (f.print.rendering_pure hpure _).2 _
      rw [serialLog_concat, serialState_concat]
      rcases hrendering : (f.print.rendering routine s.routine).result with stop | bytes
      · -- A call without a rendering leaves nothing behind.
        rcases Reached.outcome_of_unrendered routine sink r stop (hsame.trans hrendering) with
          ⟨-, hstate, -, houtputs⟩
        rw [served_of_error done hrendering, outcomeAfter, houtputs, hstate]
        exact ⟨segments, (List.append_nil _).trans hlog, hparts, hcontent⟩
      · -- Any other call has a segment of its own, behind the others.
        rw [served_of_ok done hrendering]
        have hcontributes : f.Contributes routine s.routine
            (Trace.accepted (Trace.outputs (outcomeAfter routine sink s done f.print).trace)) := by
          rw [Trace.accepted_outputs]
          refine ⟨bytes, hrendering, r.contribution_front routine sink bytes
            (hsame.trans hrendering), fun hok => ?_⟩
          have hended : (r.outcome (Bridge.native routine sink)).result.map (fun _ => none) =
              f.result.map fun _ => none := (List.cons.inj hlast).1
          rw [hok] at hended
          exact r.contribution_of_ok routine sink bytes (hsame.trans hrendering) hended
        refine ⟨segments ++ [Trace.outputs (outcomeAfter routine sink s done f.print).trace],
          ?_, ?_, fun content hkeeps => ?_⟩
        · rw [hlog, List.zipWith_append hparts.length_eq, List.flatten_append]
          exact congrArg (_ ++ ·) (List.append_nil _).symm
        · exact List.rel_append hparts (.cons hcontributes .nil)
        · rw [List.flatMap_append, ← List.append_assoc, ← hcontent content hkeeps]
          refine (r.kept_of_outcome routine sink hkeeps).trans ?_
          rw [Reached.contribution, ← Trace.accepted_outputs]
          exact congrArg (_ ++ ·) (List.append_nil _).symm

namespace Machine

variable [DecidableEq ι]

/-- No call is under way when none is left. -/
theorem quiet_of_done {routine : Routine ρ} (sink : Sink τ) (hpure : routine.Pure)
    (s : NativeState ρ τ) (programs : ι → List Print) (schedule : List ι)
    (hdone : ∀ i, (((start s programs).run routine sink schedule).threads i).todo = []) :
    ((start s programs).run routine sink schedule).Quiet := fun i =>
  (run_accounts hpure start_accounts schedule).threaded.fresh i (hdone i)

/-- Whatever the schedule, when no call is under way, the threads have come to the
    same as their finished calls made one after the other: calls of a thread in
    its order, calls that passed the guard in the order in which they did, with
    the same results, and with the same routine and sink in the end. What was
    written is in segments, one for each call that passed the guard and in that
    order. Each has a part of the rendering of its call, and all of it if the call
    succeeded, and these parts are what the sink has gained. -/
theorem run_serializes {routine : Routine ρ} (sink : Sink τ) (hpure : routine.Pure)
    (s : NativeState ρ τ) (programs : ι → List Print) (schedule : List ι)
    (hquiet : ((start s programs).run routine sink schedule).Quiet) :
    let m := (start s programs).run routine sink schedule
    let serial := Stream.run (Bridge.native routine sink) s (m.finished.map fun f => f.print.step)
    (∀ i, (m.finished.filter fun f => f.thread = i).map Finished.print ++ (m.threads i).todo =
        programs i) ∧
      m.taken = (served routine s.routine m.finished).map (fun f => (f.thread, f.print)) ∧
      serial.map Outcome.result = m.finished.map (fun f => f.result.map fun _ => none) ∧
      Stream.finalState s serial = m.shared ∧
      ∃ segments : List Trace,
        m.log = (List.zipWith (fun f segment => segment.map fun e => (f.thread, e))
            (served routine s.routine m.finished) segments).flatten ∧
          List.Forall₂ (fun f segment => f.Contributes routine s.routine (Trace.accepted segment))
            (served routine s.routine m.finished) segments ∧
          ∀ content : τ → Bytes, sink.Keeps content →
            content m.shared.sink.content =
              content s.sink.content ++ segments.flatMap Trace.accepted := by
  intro m serial
  have h : m.Accounts routine sink s programs := run_accounts hpure start_accounts schedule
  rcases h.guard with hfree | ⟨i, p, st, bytes, done, hheld⟩
  -- With the guard free, the sink is what the serial run has left.
  · have hstate : serialState routine sink s m.finished = m.shared := by
      rw [show m.shared = ⟨m.shared.routine, m.shared.sink⟩ from rfl, h.same, hfree.same,
        ← h.serial]
    rcases serial_segments hpure m.finished h.results with ⟨segments, hlog, hparts, hcontent⟩
    rw [hstate] at hcontent
    exact ⟨h.threaded.order, hfree.taken, h.results, hstate, segments, hfree.log.trans hlog,
      hparts, hcontent⟩
  · -- Nobody has the guard where no call is under way.
    exact absurd (hheld.stage.symm.trans (hquiet i)) (fresh_ne st).symm

/-- Two threads, one of them with two calls. -/
def crossingPrograms : Bool → List Print
  | true => [⟨"ab", []⟩, ⟨"c", []⟩]
  | false => [⟨"%%", []⟩]

/-- Turns that cross: either thread waits for the other. -/
def crossingTurns : List Bool := (List.replicate 6 [true, false, false, true, true]).flatten

/-- The threads of the example at the end, over a sink that takes one byte at a
    time. -/
def crossed : Machine Bool Unit PlanState :=
  (start ⟨(), Guarded.fresh SinkPlan.start⟩ crossingPrograms).run Routine.formatting
    (SinkPlan.sink { chunk := some 1 }) crossingTurns

theorem crossed_quiet : crossed.Quiet := by
  refine quiet_of_done _ Routine.formatting_pure _ _ _ (Bool.forall_bool.2 ⟨?_, ?_⟩)
  · exact List.isEmpty_iff.1 (by decide +kernel)
  · exact List.isEmpty_iff.1 (by decide +kernel)

/-- What was written by two threads is what their calls write one by one. -/
theorem run_serializes_crossing :
    crossed.Quiet ∧ crossed.shared.sink.content.out = Utf8.encode "ab%c" ∧
      Stream.finalState ⟨(), Guarded.fresh SinkPlan.start⟩
        (Stream.run (Bridge.native Routine.formatting (SinkPlan.sink { chunk := some 1 }))
          ⟨(), Guarded.fresh SinkPlan.start⟩ (crossed.finished.map fun f => f.print.step)) =
        crossed.shared := by
  rcases run_serializes (SinkPlan.sink { chunk := some 1 }) Routine.formatting_pure
    ⟨(), Guarded.fresh SinkPlan.start⟩ crossingPrograms crossingTurns crossed_quiet with
    ⟨-, -, -, hstate, -⟩
  exact ⟨crossed_quiet, by decide +kernel, hstate⟩

end Machine

end PrintBridge
