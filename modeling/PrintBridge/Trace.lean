import PrintBridge.Entry
import PrintBridge.Log
import PrintBridge.Path
import PrintBridge.Slot.Arena

/-!
# Traces

What a call does besides returning. A trace lists it in the order in which it
happens: records that are logged, libraries that are opened, entry points that
are invoked, requests to the native routine, and writes and flushes of the
output with the replies that they got.

A trace is complete, so each view of a run is a filter of it: the records
that a gate lets through, the calls that a bridge saw, the bytes that the
output has accepted. Order between views, such as a log line before the bytes
that it announces, is the order in the trace.

## Main definitions

* `Request`: What the routine is handed.
* `WriteReply`, `FlushReply`: What the output answers.
* `Event`: One thing that happens.
* `Trace.heard`, `opened`, `calls`, `requests`, `outputs`, `accepted`: Views of
  a trace.

## Theorems

* `requests_append`, `outputs_append`, `accepted_append`: A view lists what it
  shows in the order of the trace.
* `accepted_outputs`: Bytes are accepted by nothing but writes.
-/

namespace PrintBridge

/-- What the native routine is handed: a buffer or none, the addresses and
    words of a call, and the strings that the addresses read as. -/
structure Request where
  /-- The capacity of the buffer; without a buffer the routine only measures. -/
  capacity : Option Nat
  format : Word
  words : List Word
  arena : Arena
deriving DecidableEq

/-- What the output answers to a write. -/
inductive WriteReply where
  /-- So many of the bytes were taken, from the front. -/
  | accepted (count : Nat)
  /-- Nothing happened, and the same write may be tried again. -/
  | interrupted
  | failed (reason : String)
  /-- The output broke down. -/
  | panicked
deriving DecidableEq

/-- What the output answers to a flush. -/
inductive FlushReply where
  | done
  | failed (reason : String)
  /-- The output broke down. -/
  | panicked
deriving DecidableEq

/-- One thing that happens during a call. -/
inductive Event where
  | logged (record : Log.Record)
  | opened (library : Path)
  | called (call : Call)
  | requested (request : Request)
  | wrote (offered : Bytes) (reply : WriteReply)
  | flushed (reply : FlushReply)
deriving DecidableEq

namespace Event

/-- The bytes that the output has taken by this event. -/
def accepted : Event → Bytes
  | wrote offered (.accepted count) => offered.take count
  | _ => []

/-- Whether something is written by this event. -/
def isWrite : Event → Bool
  | wrote _ _ => true
  | _ => false

/-- Whether this event touches the output. -/
def isOutput : Event → Bool
  | wrote _ _ => true
  | flushed _ => true
  | _ => false

end Event

/-- What happens during a call, in order. -/
abbrev Trace := List Event

namespace Trace

/-- The records that a gate lets through. -/
def heard (gate : Log.Gate) (t : Trace) : List Log.Record :=
  t.filterMap fun
    | .logged record => if gate.hears record then some record else none
    | _ => none

/-- The libraries that were opened. -/
def opened (t : Trace) : List Path :=
  t.filterMap fun
    | .opened library => some library
    | _ => none

/-- The entry-point calls that a bridge saw. -/
def calls (t : Trace) : List Call :=
  t.filterMap fun
    | .called call => some call
    | _ => none

/-- The requests that the routine was handed. -/
def requests (t : Trace) : List Request :=
  t.filterMap fun
    | .requested request => some request
    | _ => none

/-- What touches the output: writes and flushes. -/
def outputs (t : Trace) : Trace := t.filter Event.isOutput

/-- The bytes that the output has accepted. -/
def accepted (t : Trace) : Bytes := t.flatMap Event.accepted

theorem requests_append (s t : Trace) : requests (s ++ t) = requests s ++ requests t :=
  List.filterMap_append

theorem outputs_append (s t : Trace) : outputs (s ++ t) = outputs s ++ outputs t :=
  List.filter_append s t

theorem accepted_append (s t : Trace) : accepted (s ++ t) = accepted s ++ accepted t :=
  List.flatMap_append

/-- Whatever else happens, bytes are accepted by writes only. -/
theorem accepted_outputs (t : Trace) : accepted (outputs t) = accepted t := by
  induction t with
  | nil => rfl
  | cons e rest ih =>
      cases e with
      | wrote offered reply => exact congrArg (_ ++ ·) ih
      | _ => exact ih

end Trace

end PrintBridge
