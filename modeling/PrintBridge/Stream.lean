import PrintBridge.Bridge.Basic

/-!
# Print Streams

What callers see of a bridge: printing with any number of arguments, printing
a line, and chains of both. A line is its text and then a newline, as two
calls without arguments, so the text is a format too. A chain stops at its
first failure.

Callers' programs are data here, so that a run of any of them can be spoken
about as a whole.

## Main definitions

* `Link`: A link of a chain.
* `Step`: What a caller can do with a stream.
* `Stream.runLink`, `Stream.runChain`, `Stream.runStep`: Doing it.
* `Stream.run`: Doing one thing after the other, whatever fails.

## Theorems

* `runChain_append`: A chain of two parts goes on only if the first succeeds.
* `finalState_run_cons`: A run ends where the run of its later steps ends.
* `run_append`: Runs follow each other.
-/

namespace PrintBridge

/-- A link of a chain. -/
inductive Link where
  | printf (format : String) (args : List Box)
  | println (text : String)

/-- What a caller can do with a stream. -/
inductive Step where
  | once (link : Link)
  /-- Printing, and asking for the entry point that was used. -/
  | dispatch (format : String) (args : List Box)
  | chain (links : List Link)

namespace Stream

variable {σ : Type}

/-- Prints with any number of arguments. -/
def printf (b : Bridge σ) (format : String) (args : List Box) : Action σ Unit := do
  let _ ← b.dispatch format args
  return ()

/-- Prints a text and then a newline. -/
def println (b : Bridge σ) (text : String) : Action σ Unit := do
  printf b text []
  printf b "\n" []

/-- Does what a link says. -/
def runLink (b : Bridge σ) : Link → Action σ Unit
  | .printf format args => printf b format args
  | .println text => println b text

/-- Does what the links of a chain say, up to the first failure. -/
def runChain (b : Bridge σ) : List Link → Action σ Unit
  | [] => pure ()
  | link :: rest => do
    runLink b link
    runChain b rest

/-- Does what a step says. The entry point is known only to a step that asks
    for it. -/
def runStep (b : Bridge σ) : Step → Action σ (Option EntryPoint)
  | .once link => do
    runLink b link
    return none
  | .dispatch format args => do
    let entry ← b.dispatch format args
    return some entry
  | .chain links => do
    runChain b links
    return none

/-- Does one step after the other from a state on. A step that fails or
    breaks down does not keep the next from being tried. -/
def run (b : Bridge σ) (s : σ) : List Step → List (Outcome σ (Option EntryPoint))
  | [] => []
  | step :: rest =>
    let outcome := runStep b step s
    outcome :: run b outcome.state rest

/-- The state behind a list of outcomes that started in the given state. -/
def finalState (s : σ) (outcomes : List (Outcome σ (Option EntryPoint))) : σ :=
  (outcomes.getLast?.map Outcome.state).getD s

/-- A chain of two parts goes on only if the first succeeds. -/
theorem runChain_append (b : Bridge σ) (xs ys : List Link) :
    runChain b (xs ++ ys) = Action.bind (runChain b xs) fun _ => runChain b ys := by
  induction xs with
  | nil => rfl
  | cons x rest ih =>
    have h : runChain b (x :: rest ++ ys) =
        Action.bind (runLink b x) fun _ => runChain b (rest ++ ys) := rfl
    rw [h, ih, ← Action.bind_assoc]
    rfl

/-- A run ends where the run of its later steps ends. -/
theorem finalState_run_cons (b : Bridge σ) (s : σ) (step : Step) (rest : List Step) :
    finalState s (run b s (step :: rest)) =
      finalState (runStep b step s).state (run b (runStep b step s).state rest) := by
  simp only [run, finalState, List.getLast?_cons]
  cases (run b (runStep b step s).state rest).getLast? <;> rfl

theorem run_append (b : Bridge σ) (s : σ) (xs ys : List Step) :
    run b s (xs ++ ys) = run b s xs ++ run b (finalState s (run b s xs)) ys := by
  induction xs generalizing s with
  | nil => rfl
  | cons x rest ih =>
    rw [finalState_run_cons]
    simp only [List.cons_append, run, ih]

end Stream

end PrintBridge
