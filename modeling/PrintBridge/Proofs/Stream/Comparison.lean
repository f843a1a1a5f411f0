import Mathlib.Data.List.Forall2
import PrintBridge.Proofs.Stream.Reached

/-!
# Comparison of Runs

Two bridges that are asked for the same things in the same order, and what can
be said of how they come out.

What two outcomes must have in common depends on the question. A bridge in a
wrapper gives the same results and says more in the log. A bridge whose output
refuses where another one breaks down fails differently, but in the same place
and in the same state. Each of these is a relation of outcomes, and each carries
over from the calls of a bridge to whole programs for the same two reasons: it
holds where both sides give the same result and do the same things, and it is
kept by doing one action after another. A `Comparison` is a relation with these
two laws. Everything that a stream does is made of calls and of doing one thing
after another, so runs compare as soon as calls do, and the induction over steps
and chains is made here once for every question.

The second law has to mention the states in between. An action that follows
starts in the states that the first two left, and these need not be equal, so
every comparison says from which states it is made.

## Main definitions

* `Comparison`: A relation of outcomes with both laws.
* `Comparison.Actions`, `Comparison.Bridges`: Actions and bridges in the
  relation.

## Theorems

* `Actions.bind`: Doing one action after another keeps the relation.
* `Bridges.dispatch`, `Bridges.makeAll`, `Bridges.runStep`: So does whatever is
  asked of a bridge.
* `Bridges.run`: Runs compare step by step.
* `Bridges.run_map`: What agreeing outcomes have in common, runs have in common.
-/

namespace PrintBridge

variable {σ τ α β γ : Type}

/-- A relation of outcomes that carries over from actions to programs. -/
structure Comparison (σ τ : Type) where
  /-- The states from which a comparison is made. -/
  States : σ → τ → Prop
  /-- When two outcomes agree. -/
  Agree : {α : Type} → Outcome σ α → Outcome τ α → Prop
  /-- What follows two outcomes that agree can be compared again. -/
  states : ∀ {α : Type} {o : Outcome σ α} {p : Outcome τ α}, Agree o p → States o.state p.state
  /-- Outcomes with one result and one trace agree. -/
  same : ∀ {α : Type} (result : Except Stop α) (trace : Trace) {s : σ} {t : τ}, States s t →
    Agree ⟨result, s, trace⟩ ⟨result, t, trace⟩
  /-- Doing one action after another keeps outcomes in agreement. -/
  bind : ∀ {α β : Type} (x : Action σ α) (y : Action τ α) (f : α → Action σ β)
    (g : α → Action τ β) {s : σ} {t : τ}, Agree (x s) (y t) →
      (∀ a u v, States u v → Agree (f a u) (g a v)) → Agree ((x >>= f) s) ((y >>= g) t)

namespace Comparison

/-- Actions that agree from all states from which they are compared. -/
def Actions (c : Comparison σ τ) (x : Action σ α) (y : Action τ α) : Prop :=
  ∀ s t, c.States s t → c.Agree (x s) (y t)

/-- Bridges that agree at every call. -/
def Bridges (c : Comparison σ τ) (b : Bridge σ) (d : Bridge τ) : Prop :=
  ∀ call, c.Actions (b call) (d call)

variable {c : Comparison σ τ}

namespace Actions

theorem pure (a : α) : c.Actions (pure a) (pure a) := fun _ _ h => c.same (.ok a) [] h

theorem fail (e : PrintError) : c.Actions (Action.fail e : Action σ α) (Action.fail e) :=
  fun _ _ h => c.same (.error (.failure e)) [] h

theorem emit (e : Event) : c.Actions (Action.emit e) (Action.emit e) :=
  fun _ _ h => c.same (.ok ()) [e] h

theorem bind {x : Action σ α} {y : Action τ α} {f : α → Action σ β} {g : α → Action τ β}
    (hx : c.Actions x y) (hf : ∀ a, c.Actions (f a) (g a)) : c.Actions (x >>= f) (y >>= g) :=
  fun s t h => c.bind x y f g (hx s t h) hf

end Actions

namespace Bridges

variable {b : Bridge σ} {d : Bridge τ}

theorem dispatch (h : c.Bridges b d) (format : String) (args : List Box) :
    c.Actions (b.dispatch format args) (d.dispatch format args) := by
  rcases hcall : Print.call? ⟨format, args⟩ with _ | call
  · -- A call with too many arguments is refused before either bridge is asked.
    intro s t hst
    have hb := Reached.outcome_of_call?_none b ⟨⟨format, args⟩, s⟩ hcall
    have hd := Reached.outcome_of_call?_none d ⟨⟨format, args⟩, t⟩ hcall
    unfold Reached.outcome at hb hd
    simp only at hb hd
    rw [hb, hd]
    exact c.same _ _ hst
  · rw [Reached.dispatch_of_call? b format args call hcall,
      Reached.dispatch_of_call? d format args call hcall]
    exact .bind (.emit _) fun _ => .bind (h call) fun _ => .pure call.entry

theorem makeAll (h : c.Bridges b d) (ps : List Print) :
    c.Actions (Stream.makeAll b ps) (Stream.makeAll d ps) := by
  induction ps with
  | nil => exact .pure ()
  | cons p rest ih => exact .bind (h.dispatch p.format p.args) fun _ => ih

theorem runStep (h : c.Bridges b d) (step : Step) :
    c.Actions (Stream.runStep b step) (Stream.runStep d step) := by
  -- A step is its calls, and an answer that is given when they succeed.
  have hmade : c.Actions (Stream.makeAll b step.prints >>= fun _ => return step.answer)
      (Stream.makeAll d step.prints >>= fun _ => return step.answer) :=
    .bind (h.makeAll step.prints) fun _ => .pure step.answer
  intro s t hst
  have hagree := hmade s t hst
  rw [Action.bind_return, Action.bind_return] at hagree
  rw [Stream.runStep_eq_makeAll, Stream.runStep_eq_makeAll]
  exact hagree

/-- Runs over bridges that compare agree at every step, and end in states that
    compare. -/
theorem run (h : c.Bridges b d) (steps : List Step) (s : σ) (t : τ) (hst : c.States s t) :
    List.Forall₂ c.Agree (Stream.run b s steps) (Stream.run d t steps) ∧
      c.States (Stream.finalState s (Stream.run b s steps))
        (Stream.finalState t (Stream.run d t steps)) := by
  induction steps generalizing s t with
  | nil => exact ⟨.nil, hst⟩
  | cons step rest ih =>
      have hstep := h.runStep step s t hst
      rcases ih _ _ (c.states hstep) with ⟨hrest, hfinal⟩
      rw [Stream.finalState_run_cons, Stream.finalState_run_cons]
      exact ⟨.cons hstep hrest, hfinal⟩

/-- What is seen in the same way of outcomes that agree is seen in the same way
    of runs. -/
theorem run_map (h : c.Bridges b d) (f : Outcome σ (Option EntryPoint) → γ)
    (g : Outcome τ (Option EntryPoint) → γ) (hfg : ∀ o p, c.Agree o p → f o = g p)
    (steps : List Step) (s : σ) (t : τ) (hst : c.States s t) :
    (Stream.run b s steps).map f = (Stream.run d t steps).map g := by
  rw [← List.forall₂_eq_eq_eq, List.forall₂_map_left_iff, List.forall₂_map_right_iff]
  exact (h.run steps s t hst).1.imp hfg

end Bridges

end Comparison

end PrintBridge
