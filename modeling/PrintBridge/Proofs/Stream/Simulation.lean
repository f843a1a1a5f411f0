import PrintBridge.Proofs.Stream.Comparison

/-!
# Simulation of Bridges

When one bridge does what another does, seen through a view of its state.

A bridge that carries more state than another, or says more in the log, is
still the same bridge to its callers if it gives the same results and its
state, looked at through the view, moves in the same way. `Follows` says
that of single actions. It is a comparison of outcomes, so it needs to be
shown of the calls of a bridge only.

Traces are left out on purpose. A wrapper that logs differs from its inner
bridge in nothing but the trace.

## Main definitions

* `Action.Follows`: An action does what another does, through a view.
* `Bridge.Follows`: The same of every call.
* `Comparison.through`: The comparison that it makes.

## Theorems

* `run_follows`: Runs over bridges in the relation agree.
-/

namespace PrintBridge

variable {σ τ α : Type}

/-- The first action gives the results of the second, and moves the view of
    its state as the second moves the state. -/
def Action.Follows (view : σ → τ) (x : Action σ α) (y : Action τ α) : Prop :=
  ∀ s, (x s).result = (y (view s)).result ∧ view (x s).state = (y (view s)).state

/-- The first bridge follows the second at every call. -/
def Bridge.Follows (view : σ → τ) (b : Bridge σ) (c : Bridge τ) : Prop :=
  ∀ call, Action.Follows view (b call) (c call)

/-- Outcomes with one result, in states that the view relates. -/
def Comparison.through (view : σ → τ) : Comparison σ τ where
  States s t := view s = t
  Agree o p := o.result = p.result ∧ view o.state = p.state
  states h := h.2
  same _ _ _ _ h := ⟨rfl, h⟩
  bind x y f g s t h hf := by
    rcases h with ⟨hresult, hstate⟩
    rcases hy : (y t).result with stop | a
    · rw [hy] at hresult
      rw [Action.bind_of_error x f s stop hresult, Action.bind_of_error y g t stop hy]
      exact ⟨rfl, hstate⟩
    · rw [hy] at hresult
      rw [Action.bind_of_ok x f s a hresult, Action.bind_of_ok y g t a hy]
      exact hf a _ _ hstate

theorem Bridge.Follows.compares {view : σ → τ} {b : Bridge σ} {c : Bridge τ}
    (h : b.Follows view c) : (Comparison.through view).Bridges b c := by
  rintro call s t rfl
  exact h call s

/-- Runs over bridges of which one follows the other have the same results,
    and states that the view relates. -/
theorem Stream.run_follows {view : σ → τ} {b : Bridge σ} {c : Bridge τ} (h : b.Follows view c)
    (steps : List Step) (s : σ) :
    (run b s steps).map (fun o => (o.result, view o.state)) =
      (run c (view s) steps).map fun o => (o.result, o.state) :=
  h.compares.run_map _ _ (fun _ _ hagree => Prod.ext hagree.1 hagree.2) steps s (view s) rfl

end PrintBridge
