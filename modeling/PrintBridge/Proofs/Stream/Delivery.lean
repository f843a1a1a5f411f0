import Mathlib.Data.List.Forall2
import PrintBridge.Proofs.Stream.Simulation

/-!
# Delivery

What a bridge sees of its callers. Whatever the bridge is and whichever of
its calls fail, it sees every reached call exactly once and in order: at the
entry point for the number of arguments, with the format and the boxes that
the caller gave. A call with too many arguments is not seen at all.

To speak of what a bridge sees, `journaled` writes it down. The journal is
state beside the state of the bridge, so it tells the calls of any bridge,
also of one that leaves no trace of its own, and `journaled_follows` says
that the bridge does not notice it.

## Main definitions

* `Bridge.journaled`: A bridge with a journal of its calls.
* `Print.boxed`: A call whose arguments are boxed for it.
* `Reached.Delivered`: A call that was seen as it was made, or refused.

## Theorems

* `journaled_follows`: Keeping a journal changes nothing for the callers.
* `journal_of_outcome`: A call is written down once, or not at all.
* `delivered_of_reached`: Every call is seen as it was made, or refused.
* `run_delivers_once_in_order`: A run is seen call by call.
-/

namespace PrintBridge

variable {σ : Type}

/-- A bridge that writes down the calls that it sees before it carries them
    out. -/
def Bridge.journaled (inner : Bridge σ) : Bridge (List Call × σ) := fun call s =>
  let carried := inner call s.2
  ⟨carried.result, (s.1 ++ [call], carried.state), carried.trace⟩

/-- A call whose arguments are boxed for it, in cells of their own. -/
def Print.boxed (format : String) (cell : Nat) (data : List Value) : Print :=
  ⟨format, Box.allocate cell data⟩

/-- A reached call that was seen as it was made, or refused. -/
structure Reached.Delivered (b : Bridge σ) (r : Reached (List Call × σ)) : Prop where
  /-- Within the limit there is one invocation: of the entry point for the
      number of arguments, with the format and the boxes of the caller. Its
      failure is passed on as it is, and its success tells the entry point. -/
  invoked : r.print.args.length ≤ maxArity →
    ∃ call, r.print.call? = some call ∧
      call.entry.arity = r.print.args.length ∧ call.format = r.print.format ∧
      call.args = r.print.args ∧
      List.Forall₂ (fun seen given => seen.sameIdentity given = true)
        call.args r.print.args ∧
      (r.outcome b.journaled).result = (b call r.state.2).result.map fun _ => call.entry
  /-- Beyond the limit there is none, and nothing else happens either. -/
  refused : maxArity < r.print.args.length →
    r.print.call? = none ∧
      r.outcome b.journaled =
        ⟨.error (.failure (.unsupportedArity r.print.args.length maxArity)), r.state, []⟩

theorem journaled_follows (b : Bridge σ) : b.journaled.Follows Prod.snd b :=
  fun _ _ => ⟨rfl, rfl⟩

/-- A call is written down once if it is an invocation, and else not. -/
theorem journal_of_outcome (b : Bridge σ) (r : Reached (List Call × σ)) :
    (r.outcome b.journaled).state.1 = r.state.1 ++ r.print.call?.toList := by
  rcases hc : r.print.call? with _ | call
  · rw [Reached.outcome_of_call?_none _ r hc]
    exact (List.append_nil _).symm
  · rw [Reached.outcome_of_call? _ r call hc]
    rfl

theorem delivered_of_reached (b : Bridge σ) (r : Reached (List Call × σ)) :
    r.Delivered b := by
  constructor
  · intro hle
    rcases hc : r.print.call? with _ | call
    · have hlt := (Print.call?_eq_none_iff r.print).1 hc
      omega
    · rcases (Print.call?_eq_some_iff r.print call).1 hc with ⟨hformat, hargs⟩
      refine ⟨call, rfl, ?_, hformat, hargs, ?_, ?_⟩
      · rw [← call.args_length, hargs]
      · -- The boxes are the caller's own, so each is the same as itself.
        rw [hargs]
        exact List.forall₂_same.2 fun box _ => box.sameIdentity_self
      · rw [Reached.outcome_of_call? b.journaled r call hc]
        rfl
  · intro hlt
    have hnone := (Print.call?_eq_none_iff r.print).2 hlt
    exact ⟨hnone, Reached.outcome_of_call?_none b.journaled r hnone⟩

/-- Boxing arguments for a call keeps them as they are and in their order. -/
theorem boxed_call? (format : String) (cell : Nat) (data : List Value) (call : Call)
    (h : (Print.boxed format cell data).call? = some call) :
    call.format = format ∧ call.values = data := by
  refine ⟨((Print.call?_eq_some_iff _ call).1 h).1, ?_⟩
  rw [Print.values_of_call? _ call h]
  exact Box.allocate_values cell data

/-- Over any bridge, the journal of a run is the list of its reached calls
    that have an entry point, each of them once and in order. Every step ends
    as its reached calls end, which is how it ends without a journal too. A
    line is the call of its text and then, only if that succeeded, the call
    of a newline, and a chain goes on to its later part only if the earlier
    one succeeded. -/
theorem run_delivers_once_in_order (b : Bridge σ) (s : List Call × σ) (steps : List Step) :
    (Stream.finalState s (Stream.run b.journaled s steps)).1 =
        s.1 ++ (Stream.reached b.journaled s steps).filterMap (fun r => r.print.call?) ∧
      (∀ r ∈ Stream.reached b.journaled s steps, r.Delivered b) ∧
      (Stream.run b.journaled s steps).map Outcome.result =
        List.zipWith
          (fun step calls => (Stream.verdict b.journaled calls).map fun _ => step.answer)
          steps (Stream.reachedEach b.journaled s steps) ∧
      (Stream.run b.journaled s steps).map Outcome.result =
        (Stream.run b s.2 steps).map Outcome.result ∧
      (∀ text, Stream.println b.journaled text =
        Action.bind (Stream.printf b.journaled text []) fun _ =>
          Stream.printf b.journaled "\n" []) ∧
      (∀ xs ys, Stream.runChain b.journaled (xs ++ ys) =
        Action.bind (Stream.runChain b.journaled xs) fun _ =>
          Stream.runChain b.journaled ys) ∧
      (∀ format cell data call, (Print.boxed format cell data).call? = some call →
        call.format = format ∧ call.values = data) := by
  refine ⟨?_, fun r _ => delivered_of_reached b r, Stream.run_results _ s steps, ?_,
    fun _ => rfl, Stream.runChain_append _, boxed_call?⟩
  · have hjournal := Stream.run_accumulates b.journaled Prod.fst
      (fun r => r.print.call?.toList) (journal_of_outcome b) steps s
    rw [hjournal, List.filterMap_eq_flatMap_toList]
  · have hrun := congrArg (List.map Prod.fst)
      (Stream.run_follows (journaled_follows b) steps s)
    simpa only [List.map_map, Function.comp_def] using hrun

end PrintBridge
