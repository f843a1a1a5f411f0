import PrintBridge.Proofs.Stream.Delivery

/-!
# Transparent Wrappers

A bridge in any number of wrappers is the bare bridge to its callers and to
itself. A run comes to the same results, the bridge goes through the same states
and sees the same calls, and all that is added is what the logging wrappers say.

What they say is known exactly: every logging wrapper puts one record in front
of what a call does, and the other wrappers add nothing. The records are the
same for every depth, since a wrapper passes the call on as it is. So a stack of
wrappers is told by one number, which is `wrapAll_apply`.

Take these records out of a trace, and nothing in it tells that there were
wrappers. All views of a trace but the one of a log at the level of the records
are such that the records cannot be seen in them.

## Main definitions

* `Bridge.announced`: What a logging wrapper says about a call.
* `Trace.unannounced`: A trace without such records.
* `Comparison.announcing`: Outcomes that differ in such records alone.

## Theorems

* `wrapAll_apply`: What a call comes to in a stack of wrappers.
* `filterMap_unannounced`: What does not look at the records does not miss them.
* `wrapAll_compares`: A stack of wrappers adds records and nothing else.
* `run_wrapAll_transparent`: Neither do runs over it.
-/

namespace PrintBridge

variable {σ α : Type}

/-- What a logging wrapper says about a call. -/
def Bridge.announced (call : Call) : Event :=
  .logged ⟨.debug, "jmate_io::bridge", traceText call⟩

/-- Whether an event is a record of the kind that logging wrappers add. -/
def Event.announces : Event → Bool
  | .logged record => record.level = .debug ∧ record.target = "jmate_io::bridge"
  | _ => false

namespace Trace

/-- The trace without the records that logging wrappers add. -/
def unannounced (t : Trace) : Trace := t.filter fun e => !e.announces

theorem unannounced_append (s t : Trace) :
    unannounced (s ++ t) = unannounced s ++ unannounced t :=
  List.filter_append s t

/-- Of records about one call nothing is left. -/
theorem unannounced_replicate (n : Nat) (call : Call) :
    unannounced (List.replicate n (Bridge.announced call)) = [] := by
  refine List.filter_eq_nil_iff.2 fun e he => ?_
  have hannounces : e.announces = true := by
    rw [List.eq_of_mem_replicate he]
    simp only [Bridge.announced, Event.announces, and_self, decide_true]
  rw [hannounces]
  exact Bool.false_ne_true

/-- A view that shows none of the records shows the same without them. -/
theorem filterMap_unannounced (view : Event → Option α)
    (hview : ∀ e, e.announces = true → view e = none) (t : Trace) :
    (unannounced t).filterMap view = t.filterMap view := by
  unfold unannounced
  induction t with
  | nil => rfl
  | cons e rest ih =>
      by_cases he : e.announces = true
      · rw [List.filter_cons_of_neg (by rw [he]; exact Bool.false_ne_true),
          List.filterMap_cons_none (hview e he), ih]
      · rw [List.filter_cons_of_pos (by rw [Bool.eq_false_iff.2 he]; rfl), List.filterMap_cons,
          List.filterMap_cons, ih]

theorem calls_unannounced (t : Trace) : calls (unannounced t) = calls t := by
  refine filterMap_unannounced _ (fun e he => ?_) t
  cases e with
  | called call => exact absurd he Bool.false_ne_true
  | _ => rfl

/-- A log that is closed at the level of the records does not show them. -/
theorem heard_unannounced (gate : Log.Gate)
    (hgate : gate.admits .debug "jmate_io::bridge" = false) (t : Trace) :
    heard gate (unannounced t) = heard gate t := by
  refine filterMap_unannounced _ (fun e he => ?_) t
  cases e with
  | logged record =>
      rcases of_decide_eq_true he with ⟨hlevel, htarget⟩
      simp only [Log.Gate.hears, hlevel, htarget, hgate, Bool.false_eq_true, if_false]
  | _ => rfl

end Trace

namespace Wrapper

/-- A logging wrapper puts one record in front of what a call does, and no other
    wrapper adds anything. -/
theorem wrap_apply (w : Wrapper) (b : Bridge σ) (call : Call) (s : σ) :
    w.wrap b call s =
      ⟨(b call s).result, (b call s).state,
        List.replicate ([w].count .traced) (Bridge.announced call) ++ (b call s).trace⟩ := by
  cases w with
  | traced =>
      change (Action.emit (Bridge.announced call) >>= fun _ => b call) s = _
      rw [Action.bind_of_ok _ _ s () rfl]
      rfl
  | _ => rfl

/-- A call in a stack of wrappers comes to what it comes to without them, behind
    one record for every logging wrapper. -/
theorem wrapAll_apply (ws : List Wrapper) (b : Bridge σ) (call : Call) (s : σ) :
    wrapAll ws b call s =
      ⟨(b call s).result, (b call s).state,
        List.replicate (ws.count .traced) (Bridge.announced call) ++ (b call s).trace⟩ := by
  induction ws generalizing b with
  | nil => rfl
  | cons w rest ih =>
      -- The first wrapper is the innermost, so its records come last.
      have hcount : (w :: rest).count .traced = rest.count .traced + [w].count .traced := by
        rw [← List.singleton_append, List.count_append, Nat.add_comm]
      have houter := ih (w.wrap b)
      rw [wrap_apply] at houter
      rw [hcount, List.replicate_add, List.append_assoc]
      exact houter

end Wrapper

/-- Outcomes that differ in the records of logging wrappers alone. -/
def Comparison.announcing : Comparison σ σ where
  States s t := s = t
  Agree o p := o.result = p.result ∧ o.state = p.state ∧
    Trace.unannounced o.trace = Trace.unannounced p.trace
  states h := h.2.1
  same _ _ _ _ h := ⟨rfl, h, rfl⟩
  bind x y f g s t h hf := by
    rcases h with ⟨hresult, hstate, htrace⟩
    rcases hy : (y t).result with stop | a
    · rw [hy] at hresult
      rw [Action.bind_of_error x f s stop hresult, Action.bind_of_error y g t stop hy]
      exact ⟨rfl, hstate, htrace⟩
    · rw [hy] at hresult
      rw [Action.bind_of_ok x f s a hresult, Action.bind_of_ok y g t a hy]
      rcases hf a _ _ hstate with ⟨hresult', hstate', htrace'⟩
      refine ⟨hresult', hstate', ?_⟩
      rw [Trace.unannounced_append, Trace.unannounced_append, htrace, htrace']

theorem wrapAll_compares (ws : List Wrapper) (b : Bridge σ) :
    Comparison.announcing.Bridges (Wrapper.wrapAll ws b) b := by
  rintro call s t rfl
  rw [Wrapper.wrapAll_apply]
  refine ⟨rfl, rfl, ?_⟩
  rw [Trace.unannounced_append, Trace.unannounced_replicate]
  rfl

/-- A run over a bridge in any wrappers has the results of the run over the bare
    bridge, and the bridge goes through the same states. Every step does the same
    but for the records of the logging wrappers, so the same calls are seen in it,
    and the same is heard where a log is closed to these records. A journal that
    the bridge keeps of its calls is the same after every step. -/
theorem run_wrapAll_transparent (ws : List Wrapper) (b : Bridge σ) (s : σ) (steps : List Step) :
    (Stream.run (Wrapper.wrapAll ws b) s steps).map Outcome.result =
        (Stream.run b s steps).map Outcome.result ∧
      (Stream.run (Wrapper.wrapAll ws b) s steps).map Outcome.state =
        (Stream.run b s steps).map Outcome.state ∧
      Stream.finalState s (Stream.run (Wrapper.wrapAll ws b) s steps) =
        Stream.finalState s (Stream.run b s steps) ∧
      (Stream.run (Wrapper.wrapAll ws b) s steps).map (fun o => Trace.unannounced o.trace) =
        (Stream.run b s steps).map (fun o => Trace.unannounced o.trace) ∧
      (Stream.run (Wrapper.wrapAll ws b) s steps).map (fun o => Trace.calls o.trace) =
        (Stream.run b s steps).map (fun o => Trace.calls o.trace) ∧
      (∀ gate : Log.Gate, gate.admits .debug "jmate_io::bridge" = false →
        (Stream.run (Wrapper.wrapAll ws b) s steps).map (fun o => Trace.heard gate o.trace) =
          (Stream.run b s steps).map (fun o => Trace.heard gate o.trace)) ∧
      (∀ journal : List Call,
        (Stream.run (Wrapper.wrapAll ws b.journaled) (journal, s) steps).map Outcome.state =
          (Stream.run b.journaled (journal, s) steps).map Outcome.state) := by
  have hcompares := wrapAll_compares ws b
  have htraces {γ : Type} (view : Trace → γ)
      (hview : ∀ t, view (Trace.unannounced t) = view t) :
      (Stream.run (Wrapper.wrapAll ws b) s steps).map (fun o => view o.trace) =
        (Stream.run b s steps).map (fun o => view o.trace) := by
    refine hcompares.run_map _ _ (fun o p hagree => ?_) steps s s rfl
    rw [← hview o.trace, hagree.2.2, hview]
  refine ⟨hcompares.run_map _ _ (fun o p hagree => hagree.1) steps s s rfl,
    hcompares.run_map _ _ (fun o p hagree => hagree.2.1) steps s s rfl,
    (hcompares.run steps s s rfl).2,
    hcompares.run_map _ _ (fun o p hagree => hagree.2.2) steps s s rfl,
    htraces Trace.calls Trace.calls_unannounced,
    fun gate hgate => htraces _ (Trace.heard_unannounced gate hgate),
    fun journal => ?_⟩
  exact (wrapAll_compares ws b.journaled).run_map _ _ (fun o p hagree => hagree.2.1) steps _ _ rfl

end PrintBridge
