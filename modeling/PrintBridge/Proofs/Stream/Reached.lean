import PrintBridge.Stream

/-!
# Reached Calls

What a caller's program comes to, call by call.

A step is a short program: a line is two calls, a chain is any number of
them, and each goes on only while its calls succeed. Written out, every step
is a list of calls that are made until one of them fails. Which of them are
reached depends on the bridge, and so does the state that a call finds.
`reached` lists both for a whole run. Everything that a run does is done by
one of these calls, so a law of runs is a law of calls and an induction that
is made here once.

The bridge is any bridge. Nothing below looks at what a call does, only at
whether it gave a result.

## Main definitions

* `Print`: A call with any number of arguments.
* `Print.call?`: The invocation that it stands for.
* `Link.prints`, `Step.prints`: The calls that a step is made of.
* `Reached`: A call with the state that it was reached in.
* `Stream.reachedOf`: The calls that are reached among some.
* `Stream.reachedEach`, `Stream.reached`: The calls that a run reaches, step
  by step and all together.
* `Stream.verdict`: How reached calls end.
* `Step.answer`: What a step tells when all its calls succeed.

## Theorems

* `outcome_of_call?`, `outcome_of_call?_none`: What a reached call comes to.
* `runLink_eq_makeAll`, `runChain_eq_makeAll`: Steps are lists of calls.
* `run_results`: Every step ends as the calls that it reaches.
* `run_trace`: A run does what its reached calls do.
* `reachedEach_prints_map`: A run of single calls reaches each of them.
* `run_accumulates`: What every call adds, a run adds up.
-/

namespace PrintBridge

/-- A call with any number of arguments, as a caller writes it. -/
structure Print where
  format : String
  args : List Box

namespace Print

/-- The arguments as values. -/
def values (p : Print) : List Value := p.args.map Box.value

/-- The invocation that a call stands for: of the entry point for as many
    arguments as it has, where there is one. -/
def call? (p : Print) : Option Call :=
  if h : p.args.length ≤ maxArity then some ⟨⟨p.args.length, h⟩, p.format, p.args, rfl⟩
  else none

/-- The step that makes one call. -/
def step (p : Print) : Step := .once (.printf p.format p.args)

end Print

/-- The calls of a link. -/
def Link.prints : Link → List Print
  | .printf format args => [⟨format, args⟩]
  | .println text => [⟨text, []⟩, ⟨"\n", []⟩]

/-- The calls of a step, made until one of them fails. -/
def Step.prints : Step → List Print
  | .once link => link.prints
  | .dispatch format args => [⟨format, args⟩]
  | .chain links => links.flatMap Link.prints

/-- What a step tells when all its calls succeed: the entry point for the
    number of arguments, if it was asked for. -/
def Step.answer : Step → Option EntryPoint
  | .dispatch format args => (Print.call? ⟨format, args⟩).map Call.entry
  | _ => none

/-- A call with the state that it was reached in. -/
structure Reached (σ : Type) where
  print : Print
  state : σ

/-- What a reached call comes to. -/
def Reached.outcome {σ : Type} (b : Bridge σ) (r : Reached σ) : Outcome σ EntryPoint :=
  b.dispatch r.print.format r.print.args r.state

theorem Print.call?_eq_none_iff (p : Print) : p.call? = none ↔ maxArity < p.args.length := by
  unfold Print.call?
  by_cases hle : p.args.length ≤ maxArity
  · simp only [dif_pos hle, reduceCtorEq, false_iff]
    omega
  · simp only [dif_neg hle, true_iff]
    omega

/-- The invocation has the format and the arguments of the call, as they are,
    and the entry point for their number. -/
theorem Print.call?_eq_some_iff (p : Print) (call : Call) :
    p.call? = some call ↔ call.format = p.format ∧ call.args = p.args := by
  unfold Print.call?
  rcases call with ⟨entry, format, args, hlength⟩
  constructor
  · intro h
    by_cases hle : p.args.length ≤ maxArity
    · rw [dif_pos hle] at h
      injection h with h
      injection h with _ hformat hargs
      exact ⟨hformat.symm, hargs.symm⟩
    · rw [dif_neg hle] at h
      exact absurd h (by simp only [reduceCtorEq, not_false_eq_true])
  · rintro ⟨rfl, rfl⟩
    have hle : p.args.length ≤ maxArity := hlength ▸ entry.arity_le
    have hentry : entry = ⟨p.args.length, hle⟩ := by
      rcases entry with ⟨arity, harity⟩
      simp only [EntryPoint.mk.injEq]
      exact hlength.symm
    subst hentry
    exact dif_pos hle

/-- The invocation has the values of the call. -/
theorem Print.values_of_call? (p : Print) (call : Call) (h : p.call? = some call) :
    call.values = p.values := by
  unfold Call.values Print.values
  rw [((Print.call?_eq_some_iff p call).1 h).2]

namespace Reached

variable {σ : Type}

/-- A call that has an entry point is one invocation of it. -/
theorem outcome_of_call? (b : Bridge σ) (r : Reached σ) (call : Call)
    (h : r.print.call? = some call) :
    r.outcome b = ⟨(b call r.state).result.map fun _ => call.entry, (b call r.state).state,
      .logged (Bridge.routed call) :: (b call r.state).trace⟩ := by
  rcases (Print.call?_eq_some_iff r.print call).1 h with ⟨hformat, hargs⟩
  unfold outcome
  rw [← hformat, ← hargs]
  exact Bridge.dispatch_call b call r.state

/-- A call that has none is refused, and nothing else happens. -/
theorem outcome_of_call?_none (b : Bridge σ) (r : Reached σ) (h : r.print.call? = none) :
    r.outcome b =
      ⟨.error (.failure (.unsupportedArity r.print.args.length maxArity)), r.state, []⟩ := by
  unfold outcome
  rw [Bridge.dispatch_of_lt b _ _ ((Print.call?_eq_none_iff r.print).1 h)]
  rfl

/-- To route a call that has an entry point is to log the routing, to carry out
    the invocation and to tell the entry point. -/
theorem dispatch_of_call? (b : Bridge σ) (format : String) (args : List Box) (call : Call)
    (h : Print.call? ⟨format, args⟩ = some call) :
    b.dispatch format args =
      (Action.emit (.logged (Bridge.routed call)) >>= fun _ =>
        b call >>= fun _ => return call.entry) := by
  funext s
  rw [Action.bind_of_ok _ _ s () rfl, Action.bind_return]
  exact outcome_of_call? b ⟨⟨format, args⟩, s⟩ call h

/-- A call that succeeds used the entry point for its arguments. -/
theorem call?_of_outcome_ok (b : Bridge σ) (r : Reached σ) (entry : EntryPoint)
    (h : (r.outcome b).result = .ok entry) : r.print.call?.map Call.entry = some entry := by
  rcases hc : r.print.call? with _ | call
  · rw [outcome_of_call?_none b r hc] at h
    exact absurd h (by simp only [reduceCtorEq, not_false_eq_true])
  · rw [outcome_of_call? b r call hc] at h
    rcases hcall : (b call r.state).result with stop | _
    · rw [hcall] at h
      exact absurd h (by simp only [Except.map, reduceCtorEq, not_false_eq_true])
    · rw [hcall] at h
      exact congrArg some (Except.ok.inj h)

end Reached

namespace Stream

variable {σ : Type}

/-- Which calls are reached when they are made until one of them fails. -/
def reachedOf (b : Bridge σ) (s : σ) : List Print → List (Reached σ)
  | [] => []
  | p :: rest =>
    let first : Reached σ := ⟨p, s⟩
    first :: match (first.outcome b).result with
      | .ok _ => reachedOf b (first.outcome b).state rest
      | .error _ => []

/-- Which calls each step of a run reaches. -/
def reachedEach (b : Bridge σ) (s : σ) : List Step → List (List (Reached σ))
  | [] => []
  | step :: rest => reachedOf b s step.prints :: reachedEach b (runStep b step s).state rest

/-- Which calls a run reaches, in order. -/
def reached (b : Bridge σ) (s : σ) (steps : List Step) : List (Reached σ) :=
  (reachedEach b s steps).flatten

/-- How reached calls end: with the first failure among them. -/
def verdict (b : Bridge σ) : List (Reached σ) → Except Stop Unit
  | [] => .ok ()
  | r :: rest => match (r.outcome b).result with
    | .ok _ => verdict b rest
    | .error stop => .error stop

/-- Makes calls until one of them fails. -/
def makeAll (b : Bridge σ) : List Print → Action σ Unit
  | [] => pure ()
  | p :: rest => do
    let _ ← b.dispatch p.format p.args
    makeAll b rest

theorem makeAll_append (b : Bridge σ) (ps qs : List Print) :
    makeAll b (ps ++ qs) = Action.bind (makeAll b ps) fun _ => makeAll b qs := by
  induction ps with
  | nil => rfl
  | cons p rest ih =>
      have h : makeAll b (p :: rest ++ qs) =
          Action.bind (b.dispatch p.format p.args) fun _ => makeAll b (rest ++ qs) := rfl
      rw [h, ih, ← Action.bind_assoc]
      rfl

theorem runLink_eq_makeAll (b : Bridge σ) (link : Link) :
    runLink b link = makeAll b link.prints := by
  cases link with
  | printf format args => rfl
  | println text =>
      have h : runLink b (.println text) =
          Action.bind (makeAll b [⟨text, []⟩]) fun _ => makeAll b [⟨"\n", []⟩] := rfl
      rw [h, ← makeAll_append]
      rfl

theorem runChain_eq_makeAll (b : Bridge σ) (links : List Link) :
    runChain b links = makeAll b (links.flatMap Link.prints) := by
  induction links with
  | nil => rfl
  | cons link rest ih =>
      have h : runChain b (link :: rest) =
          Action.bind (runLink b link) fun _ => runChain b rest := rfl
      rw [h, ih, runLink_eq_makeAll, ← makeAll_append]
      rfl

/-- Calls made one after the other do what the reached ones do, and end as
    they end. -/
theorem makeAll_of_reachedOf (b : Bridge σ) (ps : List Print) (s : σ) :
    (makeAll b ps s).result = verdict b (reachedOf b s ps) ∧
      (makeAll b ps s).trace = (reachedOf b s ps).flatMap fun r => (r.outcome b).trace := by
  induction ps generalizing s with
  | nil => exact ⟨rfl, rfl⟩
  | cons p rest ih =>
      have hmake : makeAll b (p :: rest) s =
          (b.dispatch p.format p.args >>= fun _ => makeAll b rest) s := rfl
      rw [hmake]
      rcases hres : (b.dispatch p.format p.args s).result with stop | entry
      · -- The first call failed, so it is the only one that is reached.
        rw [Action.bind_of_error _ _ _ stop hres]
        simp only [reachedOf, Reached.outcome, verdict, hres, List.flatMap_cons,
          List.flatMap_nil, List.append_nil, and_self]
      · -- It gave a result, so the rest is made in the state that it left.
        rw [Action.bind_of_ok _ _ _ entry hres]
        rcases ih (b.dispatch p.format p.args s).state with ⟨hresult, htrace⟩
        simp only [reachedOf, Reached.outcome, verdict, hres, List.flatMap_cons]
          at hresult htrace ⊢
        exact ⟨hresult, by rw [htrace]⟩

/-- A step is its calls, made until one of them fails. -/
theorem runStep_eq_makeAll (b : Bridge σ) (step : Step) (s : σ) :
    runStep b step s =
      ⟨(makeAll b step.prints s).result.map fun _ => step.answer,
        (makeAll b step.prints s).state, (makeAll b step.prints s).trace⟩ := by
  cases step with
  | once link =>
      change (runLink b link >>= fun _ => return none) s = _
      rw [Action.bind_return, runLink_eq_makeAll]
      rfl
  | chain links =>
      change (runChain b links >>= fun _ => return none) s = _
      rw [Action.bind_return, runChain_eq_makeAll]
      rfl
  | dispatch format args =>
      change (b.dispatch format args >>= fun entry => return some entry) s = _
      have hmake : makeAll b (Step.dispatch format args).prints s =
          (b.dispatch format args >>= fun _ => return ()) s := rfl
      rw [hmake, Action.bind_return, Action.bind_return]
      rcases hres : (b.dispatch format args s).result with stop | entry
      · rfl
      · -- The entry point that is told is the one that was used.
        have hentry := Reached.call?_of_outcome_ok b ⟨⟨format, args⟩, s⟩ entry hres
        simp only [Except.map, Step.answer, hentry]

theorem runStep_result (b : Bridge σ) (step : Step) (s : σ) :
    (runStep b step s).result =
      (verdict b (reachedOf b s step.prints)).map fun _ => step.answer := by
  rw [runStep_eq_makeAll, (makeAll_of_reachedOf b step.prints s).1]

theorem runStep_trace (b : Bridge σ) (step : Step) (s : σ) :
    (runStep b step s).trace =
      (reachedOf b s step.prints).flatMap fun r => (r.outcome b).trace := by
  rw [runStep_eq_makeAll, (makeAll_of_reachedOf b step.prints s).2]

/-- Every step of a run ends as the calls that it reaches. -/
theorem run_results (b : Bridge σ) (s : σ) (steps : List Step) :
    (run b s steps).map Outcome.result =
      List.zipWith (fun step calls => (verdict b calls).map fun _ => step.answer)
        steps (reachedEach b s steps) := by
  induction steps generalizing s with
  | nil => rfl
  | cons step rest ih =>
      simp only [run, reachedEach, List.map_cons, List.zipWith_cons_cons, runStep_result, ih]

/-- A run does what its reached calls do, in their order. -/
theorem run_trace (b : Bridge σ) (s : σ) (steps : List Step) :
    (run b s steps).flatMap Outcome.trace =
      (reached b s steps).flatMap fun r => (r.outcome b).trace := by
  unfold reached
  induction steps generalizing s with
  | nil => rfl
  | cons step rest ih =>
      simp only [run, reachedEach, List.flatMap_cons, List.flatten_cons, List.flatMap_append,
        runStep_trace, ih]

/-- A run of single calls reaches every one of them, whatever the others
    come to. -/
theorem reachedEach_prints_map (b : Bridge σ) (s : σ) (ps : List Print) :
    (reachedEach b s (ps.map Print.step)).map (List.map Reached.print) = ps.map fun p => [p] := by
  induction ps generalizing s with
  | nil => rfl
  | cons p rest ih =>
      have hone : (reachedOf b s p.step.prints).map Reached.print = [p] := by
        simp only [Print.step, Step.prints, Link.prints, reachedOf]
        split <;> rfl
      simp only [List.map_cons, reachedEach, hone, ih]

/-- What every call adds to a view of the state, calls one after the other
    add up. -/
theorem makeAll_accumulates {α : Type} (b : Bridge σ) (view : σ → List α)
    (added : Reached σ → List α)
    (hcall : ∀ r : Reached σ, view (r.outcome b).state = view r.state ++ added r)
    (ps : List Print) (s : σ) :
    view (makeAll b ps s).state = view s ++ (reachedOf b s ps).flatMap added := by
  induction ps generalizing s with
  | nil => exact (List.append_nil _).symm
  | cons p rest ih =>
      have hfirst := hcall ⟨p, s⟩
      have hmake : makeAll b (p :: rest) s =
          (b.dispatch p.format p.args >>= fun _ => makeAll b rest) s := rfl
      rw [hmake]
      rcases hres : (b.dispatch p.format p.args s).result with stop | entry
      · rw [Action.bind_of_error _ _ _ stop hres]
        simp only [reachedOf, Reached.outcome, hres, List.flatMap_cons, List.flatMap_nil,
          List.append_nil] at hfirst ⊢
        exact hfirst
      · rw [Action.bind_of_ok _ _ _ entry hres]
        simp only [reachedOf, Reached.outcome, hres, List.flatMap_cons] at hfirst ⊢
        rw [ih, hfirst, List.append_assoc]

/-- What every call adds to a view of the state, a run adds up over the calls
    that it reaches. -/
theorem run_accumulates {α : Type} (b : Bridge σ) (view : σ → List α)
    (added : Reached σ → List α)
    (hcall : ∀ r : Reached σ, view (r.outcome b).state = view r.state ++ added r)
    (steps : List Step) (s : σ) :
    view (finalState s (run b s steps)) = view s ++ (reached b s steps).flatMap added := by
  induction steps generalizing s with
  | nil => exact (List.append_nil _).symm
  | cons step rest ih =>
      have hstep := makeAll_accumulates b view added hcall step.prints s
      rw [finalState_run_cons, ih]
      simp only [reached, reachedEach, List.flatten_cons, List.flatMap_append,
        runStep_eq_makeAll, hstep, List.append_assoc]

end Stream

end PrintBridge
