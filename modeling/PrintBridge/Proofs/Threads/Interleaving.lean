import Mathlib.Logic.Function.Basic
import PrintBridge.Proofs.Bridge.Stages
import PrintBridge.Proofs.Sink.Writing

/-!
# Interleaved Calls

A native bridge that several threads print over at the same time.

A call is taken apart into the steps between which others can come in: it is
lowered, the routine measures, the routine fills, the guard of the sink is
passed, bytes are written, one write after the other, the sink is flushed, and
the guard is given back. Each thread makes its calls one after the other. Which
thread has the next turn is not known, so a run goes by a schedule, and a turn
that cannot be used is lost: a thread that waits for the guard stays where it
is.

Before it has the guard, a call works in an arena of its own and on the routine
alone, and `Preparing.rest` is what it still has to do. Behind the guard it works
on the sink alone, and `Delivering.rest` is what it still has to do. A step and
the rest behind it are the rest before it. So the steps of a call, without others
between them, are the call.

A call that breaks down marks the guard when it gives it back. It does not
return, and neither does its thread if it takes no turn any more.

## Main definitions

* `Action.Pure`: An action that leaves the state alone.
* `Routine.Pure`: A routine whose answers depend on what it is handed alone.
* `Preparing`, `Delivering`, `Stage`: Where a call stands.
* `Preparing.next`, `Sink.advance`: Single steps of a call.
* `Machine`: Threads over one bridge.
* `Machine.turn`, `Machine.run`: Turns of threads, by a schedule.

## Theorems

* `Preparing.rest_eq`: A step and then the rest, before the guard.
* `Sink.deliver_eq`: A step and then the rest, behind it.
* `Preparing.next_pure`: Over a pure routine a step does not depend on others.
* `Preparing.rest_of_next_ok`, `Preparing.rest_of_next_error`: What a step says about the
  rendering.
-/

namespace PrintBridge

variable {ρ τ α β : Type}

/-- An action that leaves the state alone and does not depend on it. -/
def Action.Pure (x : Action ρ α) : Prop :=
  ∀ s, (x s).state = s ∧ ∀ t, (x s).result = (x t).result

namespace Action.Pure

theorem ret (a : α) : (pure a : Action ρ α).Pure := fun _ => ⟨rfl, fun _ => rfl⟩

theorem fail (e : PrintError) : (Action.fail e : Action ρ α).Pure := fun _ => ⟨rfl, fun _ => rfl⟩

theorem bind {x : Action ρ α} {f : α → Action ρ β} (hx : x.Pure) (hf : ∀ a, (f a).Pure) :
    (x >>= f).Pure := by
  intro s
  rcases hres : (x s).result with stop | a
  · have hall : ∀ t, (x t).result = .error stop := fun t => ((hx t).2 s).trans hres
    rw [Action.bind_of_error x f s stop hres]
    refine ⟨(hx s).1, fun t => ?_⟩
    rw [Action.bind_of_error x f t stop (hall t)]
  · have hall : ∀ t, (x t).result = .ok a := fun t => ((hx t).2 s).trans hres
    rw [Action.bind_of_ok x f s a hres, (hx s).1]
    refine ⟨(hf a s).1, fun t => ?_⟩
    rw [Action.bind_of_ok x f t a (hall t), (hx t).1]
    exact (hf a s).2 t

end Action.Pure

/-- A routine whose answers depend on what it is handed alone. -/
def Routine.Pure (r : Routine ρ) : Prop :=
  ∀ q s, (r.answer q s).2 = s ∧ ∀ t, (r.answer q s).1 = (r.answer q t).1

theorem Routine.Pure.request {r : Routine ρ} (h : r.Pure) (q : Request) : (r.request q).Pure :=
  fun s => ⟨(h q s).1, fun t => congrArg Except.ok ((h q s).2 t)⟩

/-- The formatting routine is pure. -/
theorem Routine.formatting_pure : (Routine.formatting : Routine ρ).Pure := by
  intro q s
  simp only [formatting]
  split
  · exact ⟨rfl, fun _ => rfl⟩
  · exact ⟨rfl, fun _ => rfl⟩

/-- The second pass of a rendering, for as many bytes as were measured. -/
def Routine.fill (r : Routine ρ) (call : LoweredCall) (arena : Arena) (length : Nat) :
    Action ρ Bytes := do
  let written ← r.request ⟨some (length + 1), call.format, call.words, arena⟩
  if written.code < 0 then
    Action.fail (failed (.failed written.code))
  else if written.code.toInt.toNat ≠ length then
    Action.fail (failed (.lengthChanged length written.code.toInt.toNat))
  else
    return (filled (length + 1) written.stored).take length

theorem Routine.Pure.fill {r : Routine ρ} (h : r.Pure) (call : LoweredCall) (arena : Arena)
    (length : Nat) : (r.fill call arena length).Pure := by
  refine .bind (h.request _) fun written => ?_
  split
  · exact .fail _
  · split
    · exact .fail _
    · exact .ret _

/-- Where a call stands that has no rendering yet. -/
inductive Preparing where
  | started
  | lowered (call : LoweredCall) (arena : Arena)
  | measured (call : LoweredCall) (arena : Arena) (length : Nat)

/-- Where a call stands that has the sink. -/
inductive Delivering where
  | writing (left : Bytes)
  | closing (result : Except Stop Unit)

/-- Where a call stands. -/
inductive Stage where
  | preparing (st : Preparing)
  | rendered (bytes : Bytes)
  | delivering (st : Delivering)

namespace Preparing

/-- The next step of a call, to a rendering in the end. -/
def next (routine : Routine ρ) (p : Print) : Preparing → Action ρ (Preparing ⊕ Bytes)
  | .started =>
    match p.call? with
    | none => Action.fail (.unsupportedArity p.args.length maxArity)
    | some call =>
      match (Lowering.call call.format call.values).run.run Arena.empty with
      | (.error e, _) => Action.fail (.marshalling e)
      | (.ok ready, arena) => pure (.inl (.lowered ready arena))
  | .lowered call arena => do
    let measured ← routine.request ⟨none, call.format, call.words, arena⟩
    if measured.code < 0 then
      Action.fail (Routine.failed (.failed measured.code))
    else
      return .inl (.measured call arena measured.code.toInt.toNat)
  | .measured call arena length => do
    let bytes ← routine.fill call arena length
    return .inr bytes

/-- What a call still has to do for its rendering. -/
def rest (routine : Routine ρ) (p : Print) : Preparing → Action ρ Bytes
  | .started => p.rendering routine
  | .lowered call arena => routine.render call.format call.words arena
  | .measured call arena length => routine.fill call arena length

/-- What a call has to do after a step. -/
def restAfter (routine : Routine ρ) (p : Print) : Preparing ⊕ Bytes → Action ρ Bytes
  | .inl st => st.rest routine p
  | .inr bytes => pure bytes

/-- A step and then the rest. -/
theorem rest_eq (routine : Routine ρ) (p : Print) (st : Preparing) :
    st.rest routine p = st.next routine p >>= restAfter routine p := by
  cases st with
  | started =>
      simp only [rest, next, Print.rendering, Bridge.rendering]
      cases p.call? with
      | none => rfl
      | some call =>
          simp only
          rcases (Lowering.call call.format call.values).run.run Arena.empty with
            ⟨e | ready, arena⟩
          · rfl
          · rfl
  | lowered call arena =>
      simp only [rest, next, Routine.render]
      change Action.bind _ _ = Action.bind (Action.bind _ _) _
      rw [Action.bind_assoc]
      refine congrArg (Action.bind _) (funext fun measured => ?_)
      split
      · rfl
      · rfl
  | measured call arena length =>
      change _ = Action.bind (Action.bind _ _) _
      rw [Action.bind_assoc]
      exact (Action.bind_pure _).symm

variable {routine : Routine ρ}

theorem next_pure (h : routine.Pure) (p : Print) (st : Preparing) : (st.next routine p).Pure := by
  cases st with
  | started =>
      simp only [next]
      split
      · exact .fail _
      · split
        · exact .fail _
        · exact .ret _
  | lowered call arena =>
      refine .bind (h.request _) fun measured => ?_
      split
      · exact .fail _
      · exact .ret _
  | measured call arena length =>
      exact .bind (h.fill call arena length) fun _ => .ret _

/-- A step that fails is the failure of what was still to do. -/
theorem rest_of_next_error (h : routine.Pure) {p : Print} {st : Preparing} {s : ρ} {stop : Stop}
    (hnext : (st.next routine p s).result = .error stop) (t : ρ) :
    (st.rest routine p t).result = .error stop := by
  rw [rest_eq, Action.bind_of_error _ _ t stop (((next_pure h p st t).2 s).trans hnext)]

/-- After any other step there is as much still to do as before it. -/
theorem rest_of_next_ok (h : routine.Pure) {p : Print} {st : Preparing} {s : ρ}
    {after : Preparing ⊕ Bytes} (hnext : (st.next routine p s).result = .ok after) (t : ρ) :
    (st.rest routine p t).result = (restAfter routine p after t).result := by
  rw [rest_eq, Action.bind_of_ok _ _ t after (((next_pure h p st t).2 s).trans hnext),
    (next_pure h p st t).1]

end Preparing

/-- A rendering by a pure routine is the same at any time. -/
theorem Print.rendering_pure {routine : Routine ρ} (h : routine.Pure) (p : Print) :
    (p.rendering routine).Pure := by
  by_cases hlowers : p.Lowers
  · rcases p.rendering_of_lowers routine hlowers with ⟨format, words, arena, hrender, -⟩
    rw [hrender]
    refine .bind (h.request _) fun measured => ?_
    split
    · exact .fail _
    · exact h.fill ⟨format, words⟩ arena _
  · rcases p.rendering_of_not_lowers routine hlowers with ⟨e, hfail⟩
    rw [hfail]
    exact .fail e

/-- What one step on the sink comes to. -/
structure Advanced (τ : Type) where
  stage : Delivering
  state : τ
  event : Event

/-- The next step of a call that has the sink: one write as long as bytes are
    left, and then the flush. -/
def Sink.advance (sink : Sink τ) (left : Bytes) (t : τ) : Advanced τ :=
  if left = [] then
    ⟨.closing (sink.flushed t).result, (sink.flush t).2, .flushed (sink.flush t).1⟩
  else
    let step := sink.write t left
    let stage : Delivering := match step.1 with
      | .accepted count =>
        if count = 0 then .closing (.error (refused tookNothing)) else .writing (left.drop count)
      | .interrupted => .writing left
      | .failed reason => .closing (.error (refused reason))
      | .panicked => .closing (.error .panic)
    ⟨stage, step.2, .wrote left step.1⟩

/-- What a call that has the sink still has to do. -/
def Delivering.rest (sink : Sink τ) : Delivering → Action τ Unit
  | .writing left => Bridge.deliver sink left
  | .closing result => fun t => ⟨result, t, []⟩

/-- What follows an action that starts with an event follows the rest of it. -/
theorem Action.bind_of_event {x : Action τ α} {y : Action τ α} (f : α → Action τ β) {s t : τ}
    {e : Event} (h : x s = ⟨(y t).result, (y t).state, e :: (y t).trace⟩) :
    (x >>= f) s = ⟨((y >>= f) t).result, ((y >>= f) t).state, e :: ((y >>= f) t).trace⟩ := by
  rcases hy : (y t).result with stop | a
  · rw [hy] at h
    rw [bind_of_error x f s stop (by rw [h]), bind_of_error y f t stop hy, h]
  · rw [hy] at h
    rw [bind_of_ok x f s a (by rw [h]), bind_of_ok y f t a hy, h]
    rfl

/-- A step and then the rest. -/
theorem Sink.deliver_eq (sink : Sink τ) (left : Bytes) (t : τ) :
    Bridge.deliver sink left t =
      let advanced := sink.advance left t
      let rest := advanced.stage.rest sink advanced.state
      ⟨rest.result, rest.state, advanced.event :: rest.trace⟩ := by
  -- With nothing to write, the one step is the flush. Else the replies are those
  -- of `Sink.deliver`, one case for each.
  by_cases hleft : left = []
  · subst hleft
    rw [Bridge.deliver_of_completed sink [] t (by rw [deliver_nil]), deliver_nil, advance]
    rfl
  · -- The first write, and what comes after its reply.
    have hwrites : ∃ y : Action τ Unit,
        (y >>= fun _ => sink.flushed) (sink.advance left t).state =
            (sink.advance left t).stage.rest sink (sink.advance left t).state ∧
          sink.deliver left t =
            ⟨(y (sink.advance left t).state).result, (y (sink.advance left t).state).state,
              (sink.advance left t).event :: (y (sink.advance left t).state).trace⟩ := by
      simp only [advance, if_neg hleft]
      fun_cases sink.deliver left t with
      | case1 hnil => exact absurd hnil hleft
      | case2 _ step h =>
          rw [show (sink.write t left).1 = .accepted 0 from h]
          exact ⟨Delivering.rest sink (.closing (.error (refused tookNothing))), rfl, rfl⟩
      | case3 _ step count h hcount hlt rest =>
          simp only [show (sink.write t left).1 = .accepted count from h, if_neg hcount]
          exact ⟨sink.deliver (left.drop count), rfl, rfl⟩
      | case4 _ step h hlt rest =>
          rw [show (sink.write t left).1 = .interrupted from h]
          exact ⟨sink.deliver left, rfl, rfl⟩
      | case5 _ step reason h =>
          rw [show (sink.write t left).1 = .failed reason from h]
          exact ⟨Delivering.rest sink (.closing (.error (refused reason))), rfl, rfl⟩
      | case6 _ step h =>
          rw [show (sink.write t left).1 = .panicked from h]
          exact ⟨Delivering.rest sink (.closing (.error .panic)), rfl, rfl⟩
    rcases hwrites with ⟨y, hrest, hfirst⟩
    have hdeliver := Action.bind_of_event (fun _ => sink.flushed) hfirst
    rw [hrest] at hdeliver
    exact hdeliver

/-- Whether a call broke down. -/
def broke : Except Stop Unit → Bool
  | .error .panic => true
  | _ => false

theorem Guarded.locked_state (x : Action τ Unit) (g : Guarded τ) :
    (Guarded.locked x g).state =
      ⟨(x g.content).state, g.marked || broke (x g.content).result⟩ := by
  simp only [Guarded.locked, Guarded.enter_content, Guarded.mk.injEq, true_and]
  rcases (x g.content).result with (_ | _) | _ <;> rfl

/-- A thread: the calls that it has not finished, and where the first of them
    stands. -/
structure Thread where
  todo : List Print
  stage : Stage

/-- The stage of a thread between two calls. -/
def Stage.fresh : Stage := .preparing .started

/-- A call that is over, and how it ended. -/
structure Finished (ι : Type) where
  thread : ι
  print : Print
  result : Except Stop Unit

/-- Threads over one bridge. -/
structure Machine (ι ρ τ : Type) where
  /-- What the threads share: the routine, and the sink with its guard. -/
  shared : NativeState ρ τ
  /-- The thread that has passed the guard and not given it back. -/
  holder : Option ι
  threads : ι → Thread
  /-- The calls that are over, in the order in which they ended. -/
  finished : List (Finished ι)
  /-- The calls that have passed the guard, in the order in which they did. -/
  taken : List (ι × Print)
  /-- What was written and flushed, and by whom. -/
  log : List (ι × Event)

namespace Machine

variable {ι : Type} [DecidableEq ι]

/-- Threads that have their calls still to make. -/
def start (s : NativeState ρ τ) (programs : ι → List Print) : Machine ι ρ τ :=
  ⟨s, none, fun i => ⟨programs i, .fresh⟩, [], [], []⟩

/-- The first call of a thread comes to another stage. -/
def moves (m : Machine ι ρ τ) (i : ι) (stage : Stage) : Machine ι ρ τ :=
  { m with threads := Function.update m.threads i ⟨(m.threads i).todo, stage⟩ }

/-- The first call of a thread is over. -/
def ends (m : Machine ι ρ τ) (i : ι) (p : Print) (result : Except Stop Unit) : Machine ι ρ τ :=
  { m with
    threads := Function.update m.threads i ⟨(m.threads i).todo.tail, .fresh⟩
    finished := m.finished ++ [⟨i, p, result⟩] }

/-- A turn of a thread that prepares its call. -/
def prepare (routine : Routine ρ) (m : Machine ι ρ τ) (i : ι) (p : Print) (st : Preparing) :
    Machine ι ρ τ :=
  let step := st.next routine p m.shared.routine
  let after := { m with shared := { m.shared with routine := step.state } }
  match step.result with
  | .error stop => after.ends i p (.error stop)
  | .ok (.inl st) => after.moves i (.preparing st)
  | .ok (.inr bytes) => after.moves i (.rendered bytes)

/-- A turn of a thread that has a rendering: it passes the guard, unless another
    thread has it. -/
def pass (m : Machine ι ρ τ) (i : ι) (p : Print) (bytes : Bytes) : Machine ι ρ τ :=
  match m.holder with
  | some _ => m
  | none =>
    { m with holder := some i, taken := m.taken ++ [(i, p)] }.moves i (.delivering (.writing bytes))

/-- A turn of a thread that writes or flushes. -/
def write (sink : Sink τ) (m : Machine ι ρ τ) (i : ι) (left : Bytes) : Machine ι ρ τ :=
  let step := sink.advance left m.shared.sink.content
  { m with
    shared := { m.shared with sink := { m.shared.sink with content := step.state } }
    log := m.log ++ [(i, step.event)] }.moves i (.delivering step.stage)

/-- A turn of a thread that gives the guard back. -/
def close (m : Machine ι ρ τ) (i : ι) (p : Print) (result : Except Stop Unit) : Machine ι ρ τ :=
  { m with
    holder := none
    shared :=
      { m.shared with
        sink := { m.shared.sink with marked := m.shared.sink.marked || broke result } } }.ends
    i p result

/-- A turn of a thread. One that has no call left does nothing. -/
def turn (routine : Routine ρ) (sink : Sink τ) (m : Machine ι ρ τ) (i : ι) : Machine ι ρ τ :=
  match (m.threads i).todo with
  | [] => m
  | p :: _ =>
    match (m.threads i).stage with
    | .preparing st => m.prepare routine i p st
    | .rendered bytes => m.pass i p bytes
    | .delivering (.writing left) => m.write sink i left
    | .delivering (.closing result) => m.close i p result

/-- Turns of threads, by a schedule. -/
def run (routine : Routine ρ) (sink : Sink τ) (m : Machine ι ρ τ) (schedule : List ι) :
    Machine ι ρ τ :=
  schedule.foldl (turn routine sink) m

/-- No call is under way. -/
def Quiet (m : Machine ι ρ τ) : Prop := ∀ i, (m.threads i).stage = .fresh

end Machine

end PrintBridge
