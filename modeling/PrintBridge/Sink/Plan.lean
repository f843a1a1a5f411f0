import PrintBridge.Sink.Basic

/-!
# Memory and Planned Sinks

Two sinks that keep what they take. The memory sink takes everything it is
offered. A planned sink misbehaves by a plan fixed beforehand, which says at
which of its writes it breaks down or interrupts, how much it takes at once
and in all, and which of its flushes fail. Writes and flushes are counted
from zero, and every attempt counts.

A plan names finitely many interruptions, so those still to come bound the
patience that the sink asks for.

## Main definitions

* `Sink.memory`: The sink that takes everything.
* `SinkPlan`, `PlanState`: A plan, and what a planned sink keeps.
* `SinkPlan.sink`: The sink that follows a plan.

## Theorems

* `remaining_lt`: An interruption uses up one of those that are planned.
-/

namespace PrintBridge

/-- The sink that takes everything it is offered. -/
def Sink.memory : Sink Bytes where
  write t bytes := (.accepted bytes.length, t ++ bytes)
  flush t := (.done, t)
  patience _ := 0
  patience_lt _ _ h := absurd h (by simp only [reduceCtorEq, not_false_eq_true])

/-- How a planned sink misbehaves. -/
structure SinkPlan where
  /-- The writes at which the sink breaks down. -/
  panicAt : List Nat := []
  /-- The writes that the sink asks to have repeated. -/
  interruptAt : List Nat := []
  /-- How much the sink takes at once. -/
  chunk : Option Nat := none
  /-- How much the sink takes in all before it refuses. -/
  limit : Option Nat := none
  /-- How much the sink takes in all before it takes nothing more. -/
  zeroAfter : Option Nat := none
  /-- The flushes that fail. -/
  failFlush : List Nat := []

/-- What a planned sink keeps. -/
structure PlanState where
  writes : Nat
  flushes : Nat
  out : Bytes

namespace SinkPlan

/-- A planned sink that nothing has happened to. -/
def start : PlanState := ⟨0, 0, []⟩

/-- How many more bytes fit under a bound on all of them. -/
def room (bound : Option Nat) (taken wanted : Nat) : Nat :=
  match bound with
  | none => wanted
  | some most => min wanted (most - taken)

/-- The answer to a write of so many bytes. -/
def reply (p : SinkPlan) (t : PlanState) (offered : Nat) : WriteReply :=
  if t.writes ∈ p.panicAt then .panicked
  else if t.writes ∈ p.interruptAt then .interrupted
  else
    let atOnce := room p.chunk 0 offered
    let allowed := room p.limit t.out.length atOnce
    if p.limit.isSome ∧ allowed = 0 then .failed "sink full"
    else .accepted (room p.zeroAfter t.out.length allowed)

/-- The interruptions still to come. -/
def remaining (p : SinkPlan) (t : PlanState) : Nat :=
  p.interruptAt.countP (t.writes ≤ ·)

theorem remaining_lt (p : SinkPlan) (t t' : PlanState) (ht : t'.writes = t.writes + 1)
    (h : t.writes ∈ p.interruptAt) : p.remaining t' < p.remaining t := by
  simp only [remaining, ht]
  generalize p.interruptAt = planned at h
  induction planned with
  | nil => exact absurd h List.not_mem_nil
  | cons k rest ih =>
    have hle : rest.countP (t.writes + 1 ≤ ·) ≤ rest.countP (t.writes ≤ ·) :=
      List.countP_mono_left fun x _ hx => by
        simp only [decide_eq_true_eq] at hx ⊢
        omega
    simp only [List.countP_cons, decide_eq_true_eq]
    rcases List.mem_cons.1 h with rfl | hrest
    · simp only [Nat.le_refl, if_true]
      split <;> omega
    · have := ih hrest
      split <;> split <;> omega

theorem mem_of_interrupted (p : SinkPlan) (t : PlanState) (offered : Nat)
    (h : p.reply t offered = .interrupted) : t.writes ∈ p.interruptAt := by
  simp only [reply] at h
  split at h
  · exact absurd h (by simp only [reduceCtorEq, not_false_eq_true])
  · split at h
    · assumption
    · split at h <;> exact absurd h (by simp only [reduceCtorEq, not_false_eq_true])

/-- The sink that follows a plan. -/
def sink (p : SinkPlan) : Sink PlanState where
  write t bytes :=
    let answer := p.reply t bytes.length
    let taken := match answer with
      | .accepted count => bytes.take count
      | _ => []
    (answer, ⟨t.writes + 1, t.flushes, t.out ++ taken⟩)
  flush t :=
    (if t.flushes ∈ p.failFlush then .failed "flush failed" else .done,
      ⟨t.writes, t.flushes + 1, t.out⟩)
  patience t := p.remaining t
  patience_lt t bytes h :=
    p.remaining_lt t _ rfl (p.mem_of_interrupted t bytes.length h)

end SinkPlan

end PrintBridge
