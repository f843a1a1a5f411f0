import PrintBridge.Action

/-!
# Native Routines

The routine that renders. It is handed a buffer and answers with a code: a
negative one is a failure, and any other is the length of the whole
rendering, whether or not it fitted. Without a buffer the routine only
measures.

Rendering therefore takes two passes. The first one measures, and the second
one fills a buffer with room for exactly the measured bytes and the NUL that
the routine puts behind them. A routine whose answers differ between the
passes has changed its mind, and what it stored is not used.

## Main definitions

* `RoutineReply`: What a routine answers.
* `Routine`: How a routine answers.
* `Routine.render`: Rendering in two passes.
* `RoutineReply.fitted`: What fits into a buffer.
-/

namespace PrintBridge

/-- What a routine answers: its code, and what it has put at the front of the
    buffer. -/
structure RoutineReply where
  code : Int32
  stored : Bytes
deriving DecidableEq

namespace RoutineReply

/-- As many of the bytes as fit into a buffer with a NUL behind them. -/
def fitted (capacity : Option Nat) (bytes : Bytes) : Bytes :=
  match capacity with
  | none => []
  | some 0 => []
  | some (room + 1) => bytes.take room ++ [0]

end RoutineReply

/-- How a routine with states in `ρ` answers. -/
structure Routine (ρ : Type) where
  answer : Request → ρ → RoutineReply × ρ

namespace Routine

variable {ρ : Type}

/-- A buffer of zeros after something was put at its front. -/
def filled (capacity : Nat) (stored : Bytes) : Bytes :=
  stored.take capacity ++ List.replicate (capacity - stored.length) 0

/-- Hands a request to the routine. -/
def request (r : Routine ρ) (q : Request) : Action ρ RoutineReply := fun s =>
  let step := r.answer q s
  ⟨.ok step.1, step.2, [.requested q]⟩

/-- The failure of a rendering. -/
def failed (e : RenderError) : PrintError := .native (.render e)

/-- Renders in two passes. -/
def render (r : Routine ρ) (format : Word) (words : List Word) (arena : Arena) :
    Action ρ Bytes := do
  let measured ← r.request ⟨none, format, words, arena⟩
  if measured.code < 0 then
    Action.fail (failed (.failed measured.code))
  else
    let length := measured.code.toInt.toNat
    let written ← r.request ⟨some (length + 1), format, words, arena⟩
    if written.code < 0 then
      Action.fail (failed (.failed written.code))
    else if written.code.toInt.toNat ≠ length then
      Action.fail (failed (.lengthChanged length written.code.toInt.toNat))
    else
      return (filled (length + 1) written.stored).take length

end Routine

end PrintBridge
