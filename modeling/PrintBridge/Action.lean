import PrintBridge.Trace

/-!
# Actions

A step of the library: it starts in a state, does what its trace lists, ends
in a state and either gives a result or stops. It stops with a failure, which
the caller is told about, or because the output broke down, which no step of
the library turns into a failure.

Actions follow each other as long as they give results. State and trace are
kept when one stops, so that the state after a failed call is the state in
which the failure left it.

## Main definitions

* `Stop`: Why an action gives no result.
* `Outcome`: What an action comes to.
* `Action`: A step of the library.
* `Action.within`: An action on a part of the state.

## Theorems

* `pure_bind`, `bind_pure`, `bind_assoc`: Actions compose as they should.
* `bind_of_ok`, `bind_of_error`: What follows an action, by how it ended.
* `bind_return`: An action whose result is only looked at.
-/

namespace PrintBridge

/-- Why an action gives no result. -/
inductive Stop where
  | failure (error : PrintError)
  | panic
deriving DecidableEq

/-- What an action comes to. -/
structure Outcome (σ : Type) (α : Type) where
  result : Except Stop α
  state : σ
  trace : Trace

/-- A step of the library that works on a state. -/
def Action (σ : Type) (α : Type) : Type := σ → Outcome σ α

namespace Action

variable {σ τ α β γ : Type}

/-- Runs one action and then, on its result, another. -/
protected def bind (x : Action σ α) (f : α → Action σ β) : Action σ β := fun s =>
  let first := x s
  match first.result with
  | .error stop => ⟨.error stop, first.state, first.trace⟩
  | .ok a =>
    let second := f a first.state
    ⟨second.result, second.state, first.trace ++ second.trace⟩

instance : Monad (Action σ) where
  pure a := fun s => ⟨.ok a, s, []⟩
  bind := Action.bind

/-- Stops with a failure. -/
def fail (e : PrintError) : Action σ α := fun s => ⟨.error (.failure e), s, []⟩

/-- Lets something happen. -/
def emit (e : Event) : Action σ Unit := fun s => ⟨.ok (), s, [e]⟩

/-- Logs a record. -/
def log (level : Log.Level) (target text : String) : Action σ Unit :=
  emit (.logged ⟨level, target, text⟩)

/-- Goes on with a result, or fails with its error. -/
def ofExcept : Except PrintError α → Action σ α
  | .ok a => pure a
  | .error e => fail e

/-- An action on a part of the state. -/
def within (part : σ → τ) (put : τ → σ → σ) (x : Action τ α) : Action σ α := fun s =>
  let inner := x (part s)
  ⟨inner.result, put inner.state s, inner.trace⟩

theorem pure_bind (a : α) (f : α → Action σ β) : Action.bind (pure a) f = f a := rfl

theorem bind_pure (x : Action σ α) : Action.bind x pure = x := by
  funext s
  simp only [Action.bind]
  rcases x s with ⟨_ | a, t, trace⟩
  · rfl
  · simp only [pure, List.append_nil]

theorem bind_assoc (x : Action σ α) (f : α → Action σ β) (g : β → Action σ γ) :
    Action.bind (Action.bind x f) g = Action.bind x fun a => Action.bind (f a) g := by
  funext s
  simp only [Action.bind]
  rcases x s with ⟨_ | a, t, trace⟩
  · rfl
  · simp only
    rcases f a t with ⟨_ | b, u, rest⟩
    · rfl
    · simp only [List.append_assoc]

/-- After a result the next action starts in the state that the first left. -/
theorem bind_of_ok (x : Action σ α) (f : α → Action σ β) (s : σ) (a : α)
    (h : (x s).result = .ok a) :
    (x >>= f) s = ⟨(f a (x s).state).result, (f a (x s).state).state,
      (x s).trace ++ (f a (x s).state).trace⟩ := by
  change Action.bind x f s = _
  simp only [Action.bind, h]

/-- Nothing follows an action that stopped. -/
theorem bind_of_error (x : Action σ α) (f : α → Action σ β) (s : σ) (stop : Stop)
    (h : (x s).result = .error stop) :
    (x >>= f) s = ⟨.error stop, (x s).state, (x s).trace⟩ := by
  change Action.bind x f s = _
  simp only [Action.bind, h]

/-- To look at the result of an action changes nothing else. -/
theorem bind_return (x : Action σ α) (f : α → β) (s : σ) :
    (x >>= fun a => return f a) s = ⟨(x s).result.map f, (x s).state, (x s).trace⟩ := by
  rcases h : (x s).result with stop | a
  · rw [bind_of_error x _ s stop h]
    rfl
  · rw [bind_of_ok x _ s a h]
    simp only [pure, List.append_nil, Except.map]

end Action

end PrintBridge
