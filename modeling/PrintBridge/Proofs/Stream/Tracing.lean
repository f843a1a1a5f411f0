import PrintBridge.Proofs.Stream.Wrapping

/-!
# The Log of Calls

What a logging wrapper leaves in the log, over whole runs.

For every invocation of the bridge inside there is one record, and there are no
others. It stands in front of all that the bridge does at this call, so it is there
too when the call fails or breaks down, and a call that is refused for its number
of arguments has none.

The wrapper is not told which entry point was invoked. It works out the name from
the number of arguments, with a fallback for numbers that have no entry point. A
call carries exactly as many arguments as its entry point takes, which is
`nameFor_args`, so the name is right and the fallback is dead.

The bridge inside may be any bridge, and may speak under the same target itself; a
second logging wrapper does. Its records are its own, and they come behind the
record of the call. So the law of the log has two forms: with what the bridge says
at each call in between, and for a bridge that says nothing of the kind, where the
log is the list of calls.

## Main definitions

* `Call.record`: The record of a call.
* `Trace.callRecords`: The records of this kind that are heard.
* `Reached.Logged`: What a reached call leaves in the log.

## Theorems

* `nameFor_args`: The name that is logged is that of the entry point.
* `announced_eq`: The wrapper writes the record of the call.
* `logged_of_reached`: Every call is logged before it is carried out, or refused.
* `callRecords_of_outcome`: What is heard of one call.
* `run_traced_recorded`: What is heard of a run.
-/

namespace PrintBridge

variable {σ : Type}

/-- The record of a call: the entry point, the format, and the kinds of the
    arguments in their order. -/
def Call.record (call : Call) : Log.Record :=
  ⟨.debug, "jmate_io::bridge",
    call.entry.name ++ "(" ++ Text.quote call.format ++ "; "
      ++ ", ".intercalate (call.values.map fun v => v.kind.name) ++ ")"⟩

namespace EntryPoint

theorem nameFor_arity (e : EntryPoint) : nameFor e.arity = e.name := by
  rw [nameFor, (select_eq_ok_iff e.arity e).2 rfl]

/-- No entry point is named like the fallback. -/
theorem name_ne_fallback (e : EntryPoint) : e.name ≠ "printf_?" := by
  rcases e with ⟨arity, harity⟩
  have hnames : ∀ i : Fin (maxArity + 1), "printf_" ++ i.val.repr ≠ "printf_?" := by decide
  exact hnames ⟨arity, Nat.lt_succ_of_le harity⟩

end EntryPoint

/-- The name that is worked out from the number of arguments is the name of the
    entry point, as a call has the arguments that its entry point takes. -/
theorem Call.nameFor_args (call : Call) :
    EntryPoint.nameFor call.args.length = call.entry.name := by
  rw [call.args_length, EntryPoint.nameFor_arity]

theorem Bridge.announced_eq (call : Call) : announced call = .logged call.record := by
  rw [announced, traceText, call.nameFor_args]
  rfl

namespace Trace

/-- The records of calls among those that a gate lets through. -/
def callRecords (gate : Log.Gate) (t : Trace) : List Log.Record :=
  (heard gate t).filter fun r => r.level = .debug ∧ r.target = "jmate_io::bridge"

theorem callRecords_append (gate : Log.Gate) (s t : Trace) :
    callRecords gate (s ++ t) = callRecords gate s ++ callRecords gate t := by
  rw [callRecords, heard, List.filterMap_append, List.filter_append]
  rfl

theorem callRecords_flatMap {α : Type} (gate : Log.Gate) (f : α → Trace) (xs : List α) :
    callRecords gate (xs.flatMap f) = xs.flatMap fun x => callRecords gate (f x) := by
  induction xs with
  | nil => rfl
  | cons x rest ih => rw [List.flatMap_cons, callRecords_append, ih, List.flatMap_cons]

/-- The record of a call is heard where the gate is open for it. -/
theorem callRecords_record {gate : Log.Gate}
    (hopen : gate.admits .debug "jmate_io::bridge" = true) (call : Call) :
    callRecords gate [.logged call.record] = [call.record] := by
  have hheard : heard gate [.logged call.record] = [call.record] := by
    simp only [heard, List.filterMap_cons, List.filterMap_nil, Log.Gate.hears, Call.record, hopen,
      if_true]
  rw [callRecords, hheard]
  rfl

/-- Whatever else is done, nothing of the kind is heard where it is closed. -/
theorem callRecords_closed {gate : Log.Gate}
    (hclosed : gate.admits .debug "jmate_io::bridge" = false) (t : Trace) :
    callRecords gate t = [] := by
  refine List.filter_eq_nil_iff.2 fun r hr => ?_
  rcases List.mem_filterMap.1 hr with ⟨e, -, he⟩
  cases e with
  | logged record =>
      by_cases hhears : gate.hears record = true
      · simp only [hhears, if_true, Option.some.injEq] at he
        rw [← he, decide_eq_true_eq]
        rintro ⟨hlevel, htarget⟩
        rw [Log.Gate.hears, hlevel, htarget, hclosed] at hhears
        exact Bool.false_ne_true hhears
      · simp only [hhears, Bool.false_eq_true, if_false, reduceCtorEq] at he
  | _ => exact absurd he (by simp only [reduceCtorEq, not_false_eq_true])

/-- The routing of a call is logged at another level. -/
theorem callRecords_routed (gate : Log.Gate) (call : Call) :
    callRecords gate [.logged (Bridge.routed call)] = [] := by
  refine List.filter_eq_nil_iff.2 fun r hr => ?_
  rcases List.mem_filterMap.1 hr with ⟨e, he, hshown⟩
  rw [List.mem_singleton.1 he] at hshown
  simp only [Option.ite_none_right_eq_some, Option.some.injEq] at hshown
  rw [← hshown.2, decide_eq_true_eq]
  exact fun h => absurd h.1 (by simp only [Bridge.routed, reduceCtorEq, not_false_eq_true])

end Trace

/-- What a reached call leaves in the log of a bridge that keeps a journal inside a
    logging wrapper. -/
structure Reached.Logged (b : Bridge σ) (r : Reached (List Call × σ)) : Prop where
  /-- Within the limit the routing is logged and then the call, once, and only then
      the bridge sees the call. What it comes to is passed on and changes nothing. -/
  recorded : r.print.args.length ≤ maxArity →
    ∃ call, r.print.call? = some call ∧ call.entry.arity = r.print.args.length ∧
      call.format = r.print.format ∧ call.args = r.print.args ∧
      r.outcome b.journaled.traced =
        ⟨(b call r.state.2).result.map fun _ => call.entry,
          (r.state.1 ++ [call], (b call r.state.2).state),
          [.logged (Bridge.routed call), .logged call.record] ++ (b call r.state.2).trace⟩
  /-- Beyond the limit nothing happens, in the log or elsewhere. -/
  refused : maxArity < r.print.args.length →
    r.print.call? = none ∧
      r.outcome b.journaled.traced =
        ⟨.error (.failure (.unsupportedArity r.print.args.length maxArity)), r.state, []⟩

/-- An invocation through the wrapper, with its record in front. -/
theorem Bridge.traced_apply (b : Bridge σ) (call : Call) (s : σ) :
    b.traced call s =
      ⟨(b call s).result, (b call s).state, .logged call.record :: (b call s).trace⟩ := by
  rw [← announced_eq]
  exact Wrapper.wrap_apply .traced b call s

theorem outcome_traced (b : Bridge σ) (r : Reached (List Call × σ)) (call : Call)
    (h : r.print.call? = some call) :
    r.outcome b.journaled.traced =
      ⟨(b call r.state.2).result.map fun _ => call.entry,
        (r.state.1 ++ [call], (b call r.state.2).state),
        [.logged (Bridge.routed call), .logged call.record] ++ (b call r.state.2).trace⟩ := by
  rw [Reached.outcome_of_call? _ r call h, Bridge.traced_apply]
  rfl

/-- Every call is logged before it is carried out, or refused. -/
theorem logged_of_reached (b : Bridge σ) (r : Reached (List Call × σ)) : r.Logged b := by
  constructor
  · intro hle
    rcases hcall : r.print.call? with _ | call
    · have hlt := (Print.call?_eq_none_iff r.print).1 hcall
      omega
    · rcases (Print.call?_eq_some_iff r.print call).1 hcall with ⟨hformat, hargs⟩
      refine ⟨call, rfl, ?_, hformat, hargs, outcome_traced b r call hcall⟩
      rw [← call.args_length, hargs]
  · intro hlt
    have hnone := (Print.call?_eq_none_iff r.print).2 hlt
    exact ⟨hnone, Reached.outcome_of_call?_none _ r hnone⟩

/-- Where the log is open, one record is heard of an invocation, and what the
    bridge itself says under the same target. -/
theorem callRecords_of_outcome {gate : Log.Gate}
    (hopen : gate.admits .debug "jmate_io::bridge" = true) (b : Bridge σ)
    (r : Reached (List Call × σ)) :
    Trace.callRecords gate (r.outcome b.journaled.traced).trace =
      r.print.call?.toList.flatMap fun call =>
        call.record :: Trace.callRecords gate (b call r.state.2).trace := by
  rcases hcall : r.print.call? with _ | call
  · rw [Reached.outcome_of_call?_none _ r hcall]
    rfl
  · have hsplit : [.logged (Bridge.routed call), .logged call.record] ++
        (b call r.state.2).trace =
        [.logged (Bridge.routed call)] ++ ([.logged call.record] ++ (b call r.state.2).trace) := rfl
    rw [outcome_traced b r call hcall, hsplit, Trace.callRecords_append,
      Trace.callRecords_append, Trace.callRecords_routed, Trace.callRecords_record hopen]
    simp only [List.nil_append, List.singleton_append, Option.toList_some, List.flatMap_cons,
      List.flatMap_nil, List.append_nil]

/-- The log of a run over any bridge in a logging wrapper, where the bridge keeps a
    journal of the calls that it sees.

    The journal lists the reached calls that have an entry point, in order. Each of
    them was logged before the bridge saw it, and the others left no trace. Where
    debug records are heard, there is the record of every call in the journal, in
    the order of the journal, with what the bridge itself says at each call behind
    it; and if it says nothing of the kind, these are all. Where they are not
    heard, there are none. A record names the entry point that was invoked, and
    never the fallback. -/
theorem run_traced_recorded (b : Bridge σ) (journal : List Call) (s : σ) (steps : List Step) :
    let reached := Stream.reached b.journaled.traced (journal, s) steps
    let outcomes := Stream.run b.journaled.traced (journal, s) steps
    let log := fun gate => Trace.callRecords gate (outcomes.flatMap Outcome.trace)
    let seen := reached.filterMap fun r => r.print.call?
    (Stream.finalState (journal, s) outcomes).1 = journal ++ seen ∧
      (∀ r ∈ reached, r.Logged b) ∧
      outcomes.flatMap Outcome.trace =
        reached.flatMap (fun r => (r.outcome b.journaled.traced).trace) ∧
      (∀ gate : Log.Gate, gate.admits .debug "jmate_io::bridge" = true →
        log gate = reached.flatMap (fun r => r.print.call?.toList.flatMap fun call =>
          call.record :: Trace.callRecords gate (b call r.state.2).trace)) ∧
      (∀ gate : Log.Gate, gate.admits .debug "jmate_io::bridge" = true →
        (∀ call t, Trace.callRecords gate (b call t).trace = []) →
          log gate = seen.map Call.record) ∧
      (∀ gate : Log.Gate, gate.admits .debug "jmate_io::bridge" = false → log gate = []) ∧
      ∀ call : Call, Bridge.announced call = .logged call.record ∧
        EntryPoint.nameFor call.args.length = call.entry.name ∧ call.entry.name ≠ "printf_?" := by
  intro reached outcomes log seen
  have htrace : outcomes.flatMap Outcome.trace =
      reached.flatMap fun r => (r.outcome b.journaled.traced).trace :=
    Stream.run_trace b.journaled.traced (journal, s) steps
  have hopened : ∀ gate : Log.Gate, gate.admits .debug "jmate_io::bridge" = true →
      log gate = reached.flatMap fun r => r.print.call?.toList.flatMap fun call =>
        call.record :: Trace.callRecords gate (b call r.state.2).trace := by
    intro gate hopen
    simp only [log, htrace, Trace.callRecords_flatMap, callRecords_of_outcome hopen]
  refine ⟨?_, fun r _ => logged_of_reached b r, htrace, hopened, fun gate hopen hsilent => ?_,
    fun gate hclosed => Trace.callRecords_closed hclosed _, fun call =>
      ⟨Bridge.announced_eq call, call.nameFor_args, call.entry.name_ne_fallback⟩⟩
  · -- The wrapper passes the state through, so the journal is kept as without it.
    have hjournal := Stream.run_accumulates b.journaled.traced Prod.fst
      (fun r => r.print.call?.toList) (fun r => ?_) steps (journal, s)
    · simp only [seen, List.filterMap_eq_flatMap_toList]
      exact hjournal
    · rcases hcall : r.print.call? with _ | call
      · rw [Reached.outcome_of_call?_none _ r hcall]
        exact (List.append_nil _).symm
      · rw [outcome_traced b r call hcall]
        rfl
  · rw [hopened gate hopen, List.map_filterMap, List.filterMap_eq_flatMap_toList]
    refine congrArg (fun f => reached.flatMap f) (funext fun r => ?_)
    cases r.print.call? with
    | none => rfl
    | some call =>
        simp only [Option.toList_some, List.flatMap_cons, List.flatMap_nil, hsilent,
          List.append_nil, Option.map_some]

end PrintBridge
