import PrintBridge.Action

/-!
# Bridges

A bridge carries out entry-point calls. Any action on calls is one: what it
keeps between calls is its state, and what it does shows in the trace.

Wrapping a bridge gives a bridge again. Some wrappers only pass calls on, and
one logs every call before passing it on. No wrapper touches the call or what
comes back.

A call with any number of arguments reaches a bridge through `dispatch`,
which selects the entry point by that number. The arguments are then taken
apart once more, one by one, to hand them over, and that decides on an entry
point a second time. Both decisions come to the same, so the entry point that
is logged and told is the one that is called, and the refusal at the end of
the second is never seen. Whatever the bridge fails with is what the caller
sees.

## Main definitions

* `Bridge`: Carries out calls.
* `Bridge.observed`: A bridge whose calls show in the trace.
* `Bridge.recorder`: A bridge that does nothing, and fails when told to.
* `Wrapper`: The ways to wrap a bridge.
* `Bridge.invoke`: The entry point for just the given arguments.
* `Bridge.dispatch`: Routing of a call.

## Theorems

* `invoke_of_select`: The entry point that is called is the selected one.
* `invoke_of_lt`: There is none for too many arguments.
* `dispatch_of_lt`: Too many arguments never reach the bridge.
* `dispatch_call`: Any other number reaches it as one call.
-/

namespace PrintBridge

/-- Carries out entry-point calls, with a state in `σ`. -/
abbrev Bridge (σ : Type) := Call → Action σ Unit

namespace Bridge

variable {σ : Type}

/-- A bridge whose calls show in the trace. -/
def observed (inner : Bridge σ) : Bridge σ := fun call => do
  Action.emit (.called call)
  inner call

/-- A bridge that only counts its calls. The calls with the given numbers
    fail, each with a code of its own. -/
def counting (failAt : List Nat) : Bridge Nat := fun _ seen =>
  let result : Except Stop Unit :=
    if seen ∈ failAt then
      .error (.failure (.native (.render (.failed (Int32.ofInt (-(seen : Int) - 1))))))
    else .ok ()
  ⟨result, seen + 1, []⟩

/-- A bridge that records its calls and does nothing else. -/
def recorder (failAt : List Nat) : Bridge Nat := observed (counting failAt)

/-- What is logged about a call. -/
def traceText (call : Call) : String :=
  EntryPoint.nameFor call.args.length ++ "(" ++ Text.quote call.format ++ "; "
    ++ ", ".intercalate (call.values.map fun v => v.kind.name) ++ ")"

/-- A bridge that logs every call before it carries it out. -/
def traced (inner : Bridge σ) : Bridge σ := fun call => do
  Action.log .debug "jmate_io::bridge" (traceText call)
  inner call

/-- A bridge that passes every call on to another. -/
def forwarded (inner : Bridge σ) : Bridge σ := fun call => inner call

end Bridge

/-- The ways to wrap a bridge: with a log of its calls, or behind an owned, a
    shared or a borrowed reference. -/
inductive Wrapper where
  | traced
  | owned
  | shared
  | borrowed
deriving DecidableEq

namespace Wrapper

variable {σ : Type}

/-- The wrapped bridge. -/
def wrap : Wrapper → Bridge σ → Bridge σ
  | traced, inner => inner.traced
  | owned, inner => inner.forwarded
  | shared, inner => inner.forwarded
  | borrowed, inner => inner.forwarded

/-- A bridge in several wrappers, the first of them innermost. -/
def wrapAll (ws : List Wrapper) (inner : Bridge σ) : Bridge σ :=
  ws.foldl (fun bridge w => w.wrap bridge) inner

end Wrapper

namespace Bridge

variable {σ : Type}

/-- Calls the entry point that takes just the given arguments, each of them
    in its place. -/
def invoke (b : Bridge σ) (format : String) (args : List Box) : Action σ Unit :=
  match args with
  | [] => b ⟨⟨0, by decide⟩, format, [], rfl⟩
  | [x] => b ⟨⟨1, by decide⟩, format, [x], rfl⟩
  | [x, y] => b ⟨⟨2, by decide⟩, format, [x, y], rfl⟩
  | [x, y, z] => b ⟨⟨3, by decide⟩, format, [x, y, z], rfl⟩
  | [x, y, z, u] => b ⟨⟨4, by decide⟩, format, [x, y, z, u], rfl⟩
  | [x, y, z, u, v] => b ⟨⟨5, by decide⟩, format, [x, y, z, u, v], rfl⟩
  | _ => Action.fail (.unsupportedArity args.length maxArity)

/-- Routes a call to the entry point for its number of arguments, and tells
    which one that was. -/
def dispatch (b : Bridge σ) (format : String) (args : List Box) : Action σ EntryPoint :=
  match EntryPoint.select args.length with
  | .error e => Action.fail e
  | .ok entry => do
    Action.log .trace "jmate_io::dispatch"
      (args.length.repr ++ " argument(s) -> " ++ entry.name)
    b.invoke format args
    return entry

/-- A call of an entry point is what its format and arguments are invoked as. -/
theorem invoke_call (b : Bridge σ) (call : Call) :
    b.invoke call.format call.args = b call := by
  rcases call with ⟨⟨arity, harity⟩, format, args, hlength⟩
  change args.length = arity at hlength
  subst hlength
  have hle : args.length ≤ 5 := harity
  -- One case for each entry point, and one for more arguments than any of them takes.
  rcases args with _ | ⟨x, _ | ⟨y, _ | ⟨z, _ | ⟨u, _ | ⟨v, _ | ⟨w, rest⟩⟩⟩⟩⟩⟩
  · rfl
  · rfl
  · rfl
  · rfl
  · rfl
  · rfl
  · simp only [List.length_cons] at hle
    omega

/-- The entry point that is called is the one that is selected. -/
theorem invoke_of_select (b : Bridge σ) (format : String) {args : List Box} {entry : EntryPoint}
    (h : EntryPoint.select args.length = .ok entry) :
    b.invoke format args =
      b ⟨entry, format, args, ((EntryPoint.select_eq_ok_iff _ _).1 h).symm⟩ :=
  invoke_call b ⟨entry, format, args, _⟩

/-- Where none is selected, none is called, and the refusal is the same. -/
theorem invoke_of_lt (b : Bridge σ) (format : String) {args : List Box}
    (h : maxArity < args.length) :
    b.invoke format args = Action.fail (.unsupportedArity args.length maxArity) := by
  unfold invoke
  split
  -- In the last case there is nothing to show, and the others have few arguments.
  case h_7 => rfl
  all_goals exact absurd h (Nat.not_lt.2 (Nat.le_of_ble_eq_true rfl))

/-- Too many arguments never reach the bridge. -/
theorem dispatch_of_lt (b : Bridge σ) (format : String) (args : List Box)
    (h : maxArity < args.length) :
    b.dispatch format args = Action.fail (.unsupportedArity args.length maxArity) := by
  rw [dispatch, (EntryPoint.select_eq_error_iff args.length _).2 ⟨h, rfl⟩]

/-- What is logged about the routing of a call. -/
def routed (call : Call) : Log.Record :=
  ⟨.trace, "jmate_io::dispatch",
    call.args.length.repr ++ " argument(s) -> " ++ call.entry.name⟩

/-- Any other number reaches it as one call of the entry point for it, and
    what the call fails with is passed on. -/
theorem dispatch_call (b : Bridge σ) (call : Call) (s : σ) :
    b.dispatch call.format call.args s =
      ⟨(b call s).result.map fun _ => call.entry, (b call s).state,
        .logged (routed call) :: (b call s).trace⟩ := by
  have hselect : EntryPoint.select call.args.length = .ok call.entry :=
    (EntryPoint.select_eq_ok_iff _ _).2 call.args_length.symm
  have hdispatch : b.dispatch call.format call.args = (do
      Action.log .trace "jmate_io::dispatch"
        (call.args.length.repr ++ " argument(s) -> " ++ call.entry.name)
      b call
      return call.entry) := by
    rw [dispatch, hselect]
    simp only [invoke_of_select b call.format hselect]
  rw [hdispatch, Action.bind_of_ok _ _ _ () rfl, Action.bind_return]
  rfl

end Bridge

end PrintBridge
