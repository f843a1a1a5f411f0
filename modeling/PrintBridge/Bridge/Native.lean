import PrintBridge.Bridge.Basic
import PrintBridge.Routine.Basic
import PrintBridge.Sink.Basic
import PrintBridge.Slot.Marshal

/-!
# The Native Bridge

The bridge that prints. It lowers format and arguments into an arena made for
the call, has the routine render them in two passes, writes what was rendered
and flushes. The stages follow each other, so the output is not touched
unless the whole call was lowered and rendered, and the arena lives through
both passes.

The format goes to the routine as it is. Nothing checks that its directives
fit the arguments.

## Main definitions

* `NativeState`: The states of routine and sink.
* `NativeState.onSink`, `NativeState.intoSink`: Working on the sink, and taking
  it away.
* `Bridge.native`: The bridge over a routine and a sink.

## Theorems

* `intoSink_eq`: A sink is handed out as it is.
-/

namespace PrintBridge

/-- The state of a native bridge. -/
structure NativeState (ρ : Type) (τ : Type) where
  routine : ρ
  sink : Guarded τ

namespace NativeState

variable {ρ τ α : Type}

/-- An action on the routine. -/
def onRoutine (x : Action ρ α) : Action (NativeState ρ τ) α :=
  Action.within NativeState.routine (fun r s => { s with routine := r }) x

/-- An action on the sink, behind its guard. -/
def onSink (x : Action τ α) : Action (NativeState ρ τ) α :=
  Action.within NativeState.sink (fun g s => { s with sink := g }) (Guarded.locked x)

/-- The sink of a bridge that is given up. As for those who pass the guard, a
    mark is no obstacle. -/
def intoSink (s : NativeState ρ τ) : τ := s.sink.enter.content

/-- What is handed out is the sink as it is. -/
theorem intoSink_eq (s : NativeState ρ τ) : s.intoSink = s.sink.content := s.sink.enter_content

end NativeState

namespace Bridge

variable {ρ τ : Type}

/-- Writes rendered bytes and flushes. -/
def deliver (sink : Sink τ) (bytes : Bytes) : Action τ Unit := do
  sink.deliver bytes
  sink.flushed

/-- The bridge over a routine and a sink. -/
def native (routine : Routine ρ) (sink : Sink τ) : Bridge (NativeState ρ τ) := fun call =>
  match (Lowering.call call.format call.values).run.run Arena.empty with
  | (.error e, _) => Action.fail (.marshalling e)
  | (.ok lowered, arena) => do
    let bytes ← NativeState.onRoutine (routine.render lowered.format lowered.words arena)
    Action.log .trace "jmate_io::native"
      (call.entry.name ++ " rendered " ++ bytes.length.repr ++ " bytes ("
        ++ arena.size.repr ++ " C strings)")
    NativeState.onSink (deliver sink bytes)

end Bridge

end PrintBridge
