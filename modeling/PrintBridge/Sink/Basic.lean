import PrintBridge.Action

/-!
# Sinks

Where rendered bytes go. A sink may take fewer bytes than it is offered, it
may ask for the same write again, it may refuse, and it may break down.
Writing goes on until everything is taken: what was not taken is offered
again, an interrupted write is repeated, and a sink that takes nothing at all
is treated as one that refuses, since it would be offered the same bytes for
ever. Nothing is written where there is nothing to write.

A sink interrupts only so many times in a row. Its `patience` bounds how
often, and together with the bytes still to be taken it bounds the writes.

A sink that breaks down leaves its guard marked. The mark says that an
operation was cut short, and nothing more: the sink is what it was at that
moment, and the next call finds it in that state.

## Main definitions

* `Sink`: How a sink answers.
* `Sink.deliver`: Writing until everything is taken.
* `Sink.flushed`: Flushing.
* `Guarded`: A sink behind its guard.
* `Guarded.locked`: Working on a guarded sink.

## Theorems

* `deliver_nil`: Nothing is written where there is nothing to write.
* `enter_content`, `locked_content`: A guard hides nothing.
-/

namespace PrintBridge

/-- How a sink with states in `τ` answers. -/
structure Sink (τ : Type) where
  write : τ → Bytes → WriteReply × τ
  flush : τ → FlushReply × τ
  /-- A bound on the interruptions that can follow each other from a state. -/
  patience : τ → Nat
  patience_lt : ∀ t bytes, (write t bytes).1 = .interrupted →
    patience (write t bytes).2 < patience t

namespace Sink

variable {τ : Type}

/-- The failure of a write or a flush. -/
def refused (reason : String) : Stop := .failure (.native (.output reason))

/-- What a sink that takes nothing is reported as. -/
def tookNothing : String := "failed to write whole buffer"

theorem drop_length_lt {bytes : Bytes} {count : Nat} (hb : bytes ≠ []) (hc : count ≠ 0) :
    (bytes.drop count).length < bytes.length := by
  have : 0 < bytes.length := List.length_pos_iff.2 hb
  rw [List.length_drop]
  omega

/-- Writes until all bytes are taken. -/
def deliver (s : Sink τ) (bytes : Bytes) (t : τ) : Outcome τ Unit :=
  if hb : bytes = [] then ⟨.ok (), t, []⟩
  else
    let step := s.write t bytes
    match h : step.1 with
    | .accepted count =>
      if hc : count = 0 then
        ⟨.error (refused tookNothing), step.2, [.wrote bytes (.accepted count)]⟩
      else
        have : (bytes.drop count).length < bytes.length := drop_length_lt hb hc
        let rest := deliver s (bytes.drop count) step.2
        ⟨rest.result, rest.state, .wrote bytes (.accepted count) :: rest.trace⟩
    | .interrupted =>
      have := s.patience_lt t bytes h
      let rest := deliver s bytes step.2
      ⟨rest.result, rest.state, .wrote bytes .interrupted :: rest.trace⟩
    | .failed reason => ⟨.error (refused reason), step.2, [.wrote bytes (.failed reason)]⟩
    | .panicked => ⟨.error .panic, step.2, [.wrote bytes .panicked]⟩
termination_by (bytes.length, s.patience t)
decreasing_by
  · exact Prod.Lex.left _ _ this
  · exact Prod.Lex.right _ this

/-- Flushes once. -/
def flushed (s : Sink τ) : Action τ Unit := fun t =>
  let step := s.flush t
  let result : Except Stop Unit := match step.1 with
    | .done => .ok ()
    | .failed reason => .error (refused reason)
    | .panicked => .error .panic
  ⟨result, step.2, [.flushed step.1]⟩

/-- Nothing is written where there is nothing to write. -/
theorem deliver_nil (s : Sink τ) (t : τ) : s.deliver [] t = ⟨.ok (), t, []⟩ := by
  rw [deliver, dif_pos rfl]

end Sink

/-- A sink behind its guard. -/
structure Guarded (τ : Type) where
  content : τ
  /-- Whether an operation on the sink was cut short. -/
  marked : Bool

/-- What a guard gives to those who pass it. -/
inductive Entered (τ : Type) where
  | clean (content : τ)
  | marked (content : τ)

namespace Entered

/-- The sink, whether or not its guard is marked. -/
def content {τ : Type} : Entered τ → τ
  | clean t => t
  | marked t => t

end Entered

namespace Guarded

variable {τ α : Type}

/-- A sink that nothing has happened to. -/
def fresh (t : τ) : Guarded τ := ⟨t, false⟩

/-- Passing the guard. -/
def enter (g : Guarded τ) : Entered τ :=
  if g.marked then .marked g.content else .clean g.content

/-- Works on a guarded sink. A mark is no obstacle, and a breakdown leaves
    one. -/
def locked (x : Action τ α) : Action (Guarded τ) α := fun g =>
  let inner := x g.enter.content
  let broke := match inner.result with
    | .error .panic => true
    | _ => false
  ⟨inner.result, ⟨inner.state, g.marked || broke⟩, inner.trace⟩

theorem enter_content (g : Guarded τ) : g.enter.content = g.content := by
  simp only [enter]
  split <;> rfl

/-- Behind a guard the sink moves as it would without one. -/
theorem locked_content (x : Action τ α) (g : Guarded τ) :
    (locked x g).state.content = (x g.content).state := by
  simp only [locked, enter_content]

end Guarded

end PrintBridge
