import PrintBridge.Routine.Basic

/-!
# Scripted Routines

A routine that ignores what it is asked to render and answers by a script:
the codes to answer with, one after the other and zero when they have run
out, and the bytes to put into every buffer. It obeys no contract beyond the
size of the buffer, which makes it the routine to try a bridge with.

## Main definitions

* `Script`: The codes still to come, and the bytes.
* `Script.routine`: The routine that follows a script.
-/

namespace PrintBridge

/-- What a scripted routine has still to answer. -/
structure Script where
  returns : List Int32 := []
  fill : Bytes := []

namespace Script

/-- The routine that follows a script. -/
def routine : Routine Script where
  answer q s :=
    (⟨s.returns.headD 0, RoutineReply.fitted q.capacity s.fill⟩, ⟨s.returns.tail, s.fill⟩)

end Script

end PrintBridge
