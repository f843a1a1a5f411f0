import Mathlib.Algebra.Order.BigOperators.Group.Finset
import Mathlib.Data.Prod.Lex
import PrintBridge.Proofs.Threads.Serial

/-!
# Progress of Interleaved Calls

No call waits for ever: where every thread has a turn again and again, all calls
are over at some time.

A turn is lost where a thread has nothing to do, and where it waits for the
guard. Any other turn brings a call on. It comes to a later stage, or it stays
behind the guard with fewer bytes left to write, or the sink has interrupted it
and has less patience left. `Machine.ahead` puts these in lexicographic order, so
it goes down with every turn that is not lost.

A thread that has the guard does not wait for it, so as long as a call is left,
some thread has a turn that would not be lost. Turns of others leave it at that,
or are not lost themselves.

## Main definitions

* `Stage.ahead`, `Stage.left`: What a call has before it.
* `Machine.ahead`: What all threads have before them.

## Theorems

* `turn_advances`: A turn is lost or brings a call on.
* `exists_turn_lt`: As long as a call is left, some turn brings a call on.
* `fair_run_finishes`: With turns for every thread again and again, all calls end.
-/

namespace PrintBridge

variable {ρ τ ι : Type}

/-- How many stages a call has before it. -/
def Stage.ahead : Stage → Nat
  | .preparing .started => 5
  | .preparing (.lowered _ _) => 4
  | .preparing (.measured _ _ _) => 3
  | .rendered _ => 2
  | .delivering (.writing _) => 1
  | .delivering (.closing _) => 0

/-- How many bytes a call behind the guard has left to write. -/
def Stage.left : Stage → Nat
  | .delivering (.writing left) => left.length
  | _ => 0

/-- How many stages a thread has before it. -/
def Thread.ahead (t : Thread) : Nat := 6 * t.todo.length + t.stage.ahead

theorem Preparing.ahead_of_rendered (st : Preparing) (bytes : Bytes) :
    (Stage.rendered bytes).ahead < (Stage.preparing st).ahead := by
  cases st with
  | started => simp only [Stage.ahead, Nat.reduceLT]
  | lowered call arena => simp only [Stage.ahead, Nat.reduceLT]
  | measured call arena length => simp only [Stage.ahead, Nat.reduceLT]

/-- A step on the way to a rendering leads to a later stage. -/
theorem Preparing.ahead_of_next {routine : Routine ρ} {p : Print} {st after : Preparing} {s : ρ}
    (h : (st.next routine p s).result = .ok (.inl after)) :
    (Stage.preparing after).ahead < (Stage.preparing st).ahead := by
  cases st with
  | started =>
      revert h
      simp only [next]
      cases p.call? with
      | none =>
          intro h
          cases h
      | some call =>
          simp only
          rcases (Lowering.call call.format call.values).run.run Arena.empty with
            ⟨e | ready, arena⟩
          · intro h
            cases h
          · intro h
            cases h
            exact Nat.lt_succ_self 4
  | lowered call arena =>
      rw [next, Action.bind_of_ok _ _ s _ rfl] at h
      simp only at h
      split at h
      · cases h
      · cases h
        exact Nat.lt_succ_self 3
  | measured call arena length =>
      -- The second pass gives the rendering or fails.
      rw [next, Action.bind_return] at h
      rcases hfill : (routine.fill call arena length s).result with stop | bytes
      · rw [hfill] at h
        cases h
      · rw [hfill] at h
        cases h

/-- A write or a flush closes the delivery, or leaves fewer bytes or less
    patience. -/
theorem Sink.advance_writing {sink : Sink τ} {left later : Bytes} {t : τ}
    (h : (sink.advance left t).stage = .writing later) :
    later.length < left.length ∨
      later.length = left.length ∧ sink.patience (sink.advance left t).state < sink.patience t := by
  by_cases hleft : left = []
  · rw [advance, if_pos hleft] at h
    cases h
  · simp only [advance, if_neg hleft] at h ⊢
    rcases hreply : (sink.write t left).1 with count | _ | reason | _
    · rw [hreply] at h
      simp only at h
      split at h
      · cases h
      · next hcount =>
          cases h
          exact .inl (drop_length_lt hleft hcount)
    · rw [hreply] at h
      cases h
      exact .inr ⟨rfl, sink.patience_lt t left hreply⟩
    · rw [hreply] at h
      cases h
    · rw [hreply] at h
      cases h

theorem sum_update_lt [Fintype ι] [DecidableEq ι] {threads : ι → Thread} {i : ι} {t : Thread}
    (f : Thread → Nat) (h : f t < f (threads i)) :
    ∑ j, f (Function.update threads i t j) < ∑ j, f (threads j) := by
  refine Finset.sum_lt_sum (fun j _ => ?_) ⟨i, Finset.mem_univ i, ?_⟩
  · rcases eq_or_ne j i with rfl | hne
    · rw [Function.update_self]
      exact h.le
    · rw [Function.update_of_ne hne]
  · rw [Function.update_self]
    exact h

theorem sum_update_eq [Fintype ι] [DecidableEq ι] {threads : ι → Thread} {i : ι} {t : Thread}
    (f : Thread → Nat) (h : f t = f (threads i)) :
    ∑ j, f (Function.update threads i t j) = ∑ j, f (threads j) := by
  refine Finset.sum_congr rfl fun j _ => ?_
  rcases eq_or_ne j i with rfl | hne
  · rw [Function.update_self, h]
  · rw [Function.update_of_ne hne]

namespace Machine

/-- A machine after so many turns of an endless schedule. -/
def runFor [DecidableEq ι] (routine : Routine ρ) (sink : Sink τ) (m : Machine ι ρ τ)
    (turns : Nat → ι) (n : Nat) : Machine ι ρ τ :=
  m.run routine sink ((List.range n).map turns)

theorem runFor_succ [DecidableEq ι] (routine : Routine ρ) (sink : Sink τ) (m : Machine ι ρ τ)
    (turns : Nat → ι) (n : Nat) :
    m.runFor routine sink turns (n + 1) =
      (m.runFor routine sink turns n).turn routine sink (turns n) := by
  rw [runFor, run, List.range_succ, List.map_append, List.foldl_append]
  rfl

variable [Fintype ι]

/-- What all threads have before them: stages, then bytes, then patience. -/
def ahead (sink : Sink τ) (m : Machine ι ρ τ) : Nat ×ₗ Nat ×ₗ Nat :=
  toLex (∑ i, (m.threads i).ahead,
    toLex (∑ i, (m.threads i).stage.left, sink.patience m.shared.sink.content))

variable [DecidableEq ι] {routine : Routine ρ} {sink : Sink τ} {s : NativeState ρ τ}
  {programs : ι → List Print} {m after : Machine ι ρ τ} {i : ι} {p : Print} {rest : List Print}

/-- A thread that has fewer stages before it is further on, whatever it did to
    the sink. -/
theorem ahead_lt {t : Thread} (hthreads : after.threads = Function.update m.threads i t)
    (h : t.ahead < (m.threads i).ahead) : after.ahead sink < m.ahead sink := by
  refine Prod.Lex.left _ _ ?_
  rw [hthreads]
  exact sum_update_lt Thread.ahead h

/-- So is one that comes to a later stage of its call. -/
theorem ahead_lt_of_stage {stage : Stage}
    (hthreads : after.threads = Function.update m.threads i ⟨(m.threads i).todo, stage⟩)
    (h : stage.ahead < (m.threads i).stage.ahead) : after.ahead sink < m.ahead sink :=
  ahead_lt hthreads (Nat.add_lt_add_left h _)

/-- And one whose call is over. -/
theorem ahead_lt_of_ends (htodo : (m.threads i).todo = p :: rest)
    (hthreads : after.threads = Function.update m.threads i ⟨(m.threads i).todo.tail, .fresh⟩) :
    after.ahead sink < m.ahead sink := by
  refine ahead_lt hthreads ?_
  rw [Thread.ahead, Thread.ahead, htodo, List.tail_cons, List.length_cons]
  change 6 * rest.length + 5 < _
  omega

theorem prepare_advances (htodo : (m.threads i).todo = p :: rest) {st : Preparing}
    (hstage : (m.threads i).stage = .preparing st) :
    (m.prepare routine i p st).ahead sink < m.ahead sink := by
  simp only [prepare]
  rcases hnext : (st.next routine p m.shared.routine).result with stop | later | bytes
  · exact ahead_lt_of_ends htodo rfl
  · refine ahead_lt_of_stage rfl ?_
    rw [hstage]
    exact Preparing.ahead_of_next hnext
  · refine ahead_lt_of_stage rfl ?_
    rw [hstage]
    exact st.ahead_of_rendered bytes

theorem pass_advances (hfree : m.holder = none) {bytes : Bytes}
    (hstage : (m.threads i).stage = .rendered bytes) :
    (m.pass i p bytes).ahead sink < m.ahead sink := by
  rw [pass, hfree]
  refine ahead_lt_of_stage rfl ?_
  rw [hstage]
  exact Nat.lt_succ_self 1

theorem write_advances {left : Bytes}
    (hstage : (m.threads i).stage = .delivering (.writing left)) :
    (m.write sink i left).ahead sink < m.ahead sink := by
  rcases hadvance : (sink.advance left m.shared.sink.content).stage with later | result
  · -- Still behind the guard: what decides is what is left, and then the patience.
    have hsame : ∑ j, ((m.write sink i left).threads j).ahead = ∑ j, (m.threads j).ahead := by
      refine sum_update_eq Thread.ahead ?_
      rw [Thread.ahead, Thread.ahead, hstage, hadvance]
      rfl
    have hleft : (m.threads i).stage.left = left.length := by
      rw [hstage]
      rfl
    rcases Sink.advance_writing hadvance with hless | ⟨hequal, hpatience⟩
    · refine Prod.Lex.toLex_lt_toLex.2 (.inr ⟨hsame, Prod.Lex.left _ _
        (sum_update_lt (fun t => t.stage.left) ?_)⟩)
      rw [hleft, hadvance]
      exact hless
    · refine Prod.Lex.toLex_lt_toLex.2 (.inr ⟨hsame, Prod.Lex.toLex_lt_toLex.2
        (.inr ⟨sum_update_eq (fun t => t.stage.left) ?_, hpatience⟩)⟩)
      rw [hleft, hadvance]
      exact hequal
  · refine ahead_lt_of_stage rfl ?_
    rw [hstage, hadvance]
    exact Nat.zero_lt_one

/-- A thread with a call left that does not wait for the guard brings it on. -/
theorem turn_lt (htodo : (m.threads i).todo = p :: rest)
    (hopen : (∃ bytes, (m.threads i).stage = .rendered bytes) → m.holder = none) :
    (m.turn routine sink i).ahead sink < m.ahead sink := by
  simp only [turn, htodo]
  rcases hstage : (m.threads i).stage with st | bytes | (left | result)
  · exact prepare_advances htodo hstage
  · exact pass_advances (hopen ⟨bytes, hstage⟩) hstage
  · exact write_advances hstage
  · exact ahead_lt_of_ends htodo rfl

/-- A turn is lost or brings a call on. -/
theorem turn_advances (routine : Routine ρ) (sink : Sink τ) (m : Machine ι ρ τ) (i : ι) :
    m.turn routine sink i = m ∨ (m.turn routine sink i).ahead sink < m.ahead sink := by
  rcases htodo : (m.threads i).todo with _ | ⟨p, rest⟩
  · left
    simp only [turn, htodo]
  · by_cases hopen : (∃ bytes, (m.threads i).stage = .rendered bytes) → m.holder = none
    · exact .inr (turn_lt htodo hopen)
    · rcases Classical.not_imp.1 hopen with ⟨⟨bytes, hstage⟩, hheld⟩
      rcases Option.ne_none_iff_exists'.1 hheld with ⟨j, hj⟩
      left
      simp only [turn, htodo, hstage, pass, hj]

/-- As long as a call is left, some turn brings a call on. -/
theorem exists_turn_lt (h : m.Accounts routine sink s programs)
    (hleft : ∃ i, (m.threads i).todo ≠ []) :
    ∃ i, (m.turn routine sink i).ahead sink < m.ahead sink := by
  rcases h.guard with hfree | ⟨j, q, st, bytes, done, hheld⟩
  · rcases hleft with ⟨i, hi⟩
    rcases List.exists_cons_of_ne_nil hi with ⟨p, rest, htodo⟩
    exact ⟨i, turn_lt htodo fun _ => hfree.holder⟩
  · -- The thread that has the guard is behind it, so it does not wait for it.
    rcases hheld.first with ⟨rest, htodo⟩
    refine ⟨j, turn_lt htodo fun ⟨bytes, hstage⟩ => ?_⟩
    cases hheld.stage.symm.trans hstage

/-- Either all turns in a stretch are lost, or one of them brings a call on. -/
theorem stretch_advances (routine : Routine ρ) (sink : Sink τ) (m : Machine ι ρ τ)
    (turns : Nat → ι) (n length : Nat) :
    m.runFor routine sink turns (n + length) = m.runFor routine sink turns n ∨
      ∃ k, (m.runFor routine sink turns k).ahead sink <
        (m.runFor routine sink turns n).ahead sink := by
  induction length with
  | zero => exact .inl rfl
  | succ length ih =>
      rcases ih with hsame | hadvances
      · have hnext := runFor_succ routine sink m turns (n + length)
        rw [hsame] at hnext
        rcases turn_advances routine sink (m.runFor routine sink turns n) (turns (n + length)) with
          hlost | hlt
        · exact .inl (hnext.trans hlost)
        · exact .inr ⟨n + length + 1, hnext.symm ▸ hlt⟩
      · exact .inr hadvances

/-- With a turn for every thread still to come, a call that is left is not left
    as it is. -/
theorem runFor_advances {turns : Nat → ι} (hfair : ∀ i n, ∃ k, n ≤ k ∧ turns k = i) {n : Nat}
    (h : (m.runFor routine sink turns n).Accounts routine sink s programs)
    (hleft : ∃ i, ((m.runFor routine sink turns n).threads i).todo ≠ []) :
    ∃ k, (m.runFor routine sink turns k).ahead sink <
      (m.runFor routine sink turns n).ahead sink := by
  rcases exists_turn_lt h hleft with ⟨i, hlt⟩
  rcases hfair i n with ⟨k, hk, rfl⟩
  -- Up to the turn of that thread all turns are lost, or one was not.
  rcases stretch_advances routine sink m turns n (k - n) with hsame | hadvances
  · rw [Nat.add_sub_cancel' hk] at hsame
    refine ⟨k + 1, ?_⟩
    rw [runFor_succ, hsame]
    exact hlt
  · exact hadvances

/-- Where every thread has a turn again and again, there is a time at which all
    calls of all threads are over, and from which on nothing changes any more. -/
theorem fair_run_finishes {routine : Routine ρ} (sink : Sink τ) (hpure : routine.Pure)
    (s : NativeState ρ τ) (programs : ι → List Print) (turns : Nat → ι)
    (hfair : ∀ i n, ∃ k, n ≤ k ∧ turns k = i) :
    ∃ n, let m := (start s programs).runFor routine sink turns n
      m.Quiet ∧
        (∀ i, (m.finished.filter fun f => f.thread = i).map Finished.print = programs i) ∧
        ∀ later, (start s programs).runFor routine sink turns (n + later) = m := by
  let along := fun n => (start s programs).runFor routine sink turns n
  have haccounts : ∀ n, (along n).Accounts routine sink s programs := fun n =>
    run_accounts hpure start_accounts _
  -- The time from which on no turn brings a call on any more.
  let n := Function.argmin fun n => (along n).ahead sink
  have hlast : ¬ ∃ k, (along k).ahead sink < (along n).ahead sink := fun ⟨k, hk⟩ =>
    Function.not_lt_argmin (fun n => (along n).ahead sink) k hk
  have hdone : ∀ i, ((along n).threads i).todo = [] := fun i =>
    by_contra fun hi => hlast (runFor_advances hfair (haccounts n) ⟨i, hi⟩)
  refine ⟨n, fun i => (haccounts n).threaded.fresh i (hdone i), fun i => ?_, fun later => ?_⟩
  · have horder := (haccounts n).threaded.order i
    rwa [hdone i, List.append_nil] at horder
  · exact (stretch_advances routine sink _ turns n later).resolve_right hlast

end Machine

end PrintBridge
