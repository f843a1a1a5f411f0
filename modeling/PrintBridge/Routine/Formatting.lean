import PrintBridge.Format.Render
import PrintBridge.Routine.Basic

/-!
# The Formatting Routine

The routine that renders a format as the standard library of C does, in the
plain locale. It keeps no state, so its two passes cannot disagree, and it
answers `-1` to a format that has no rendering.

## Main definitions

* `Routine.formatting`: The routine.
-/

namespace PrintBridge

namespace Routine

/-- The rendering of a request. -/
def rendering? (q : Request) : Option (List Format.Segment) :=
  Format.renderAll? q.arena q.words ((q.arena.read? q.format).getD [])

/-- The routine that renders formats. A request that only measures writes
    nothing out. -/
def formatting {ρ : Type} : Routine ρ where
  answer q s :=
    match rendering? q with
    | none => (⟨-1, []⟩, s)
    | some segments =>
      let stored := match q.capacity with
        | none => []
        | some _ => RoutineReply.fitted q.capacity (segments.flatMap Format.Segment.toBytes)
      (⟨Int32.ofNat (Format.Segment.totalLength segments), stored⟩, s)

end Routine

end PrintBridge
