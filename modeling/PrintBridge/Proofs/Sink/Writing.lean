import PrintBridge.Bridge.Native
import PrintBridge.Sink.Plan

/-!
# Writing

What writing does to a sink that may misbehave at any time.

`Writing` says how writing goes, one answer of the sink after the other: it
is over when nothing is left, it goes on with what was not taken, it repeats
an interrupted write, and it is given up at the first refusal. The patience
that makes writing come to an end is not seen in it, so what holds of every
writing is shown by induction on the answers.

The law that carries everything else is that nothing is lost and nothing is
repeated: at every write, the bytes taken so far and the bytes offered make
up what was to be written. Writing succeeds exactly when no byte is left, and
the flush is what follows then.

## Main definitions

* `WriteReply.refusal?`: The failure that an answer amounts to.
* `Sink.Writing`: How writing goes.
* `Sink.Keeps`: A sink that keeps what it takes.

## Theorems

* `deliver_writing`: Writing goes so.
* `Writing.splits`: What was taken and what is left.
* `Writing.refused`: Writing is given up at a refusal only.
* `Writing.offers`: What is offered is what was not taken.
* `Writing.kept`, `deliver_kept`: A sink that keeps its bytes has gained
  those that were taken.
* `memory_keeps`, `plan_keeps`: Two sinks that do.
* `deliver_of_completed`, `deliver_of_cut`: A flush follows a whole writing,
  and no other.
* `deliver_ok_iff`, `deliver_accepted_of_flushed`, `deliver_offers`: The same
  laws of writing and flushing together.
-/

namespace PrintBridge

variable {τ : Type}

/-- Writes belong to the output. -/
theorem Trace.outputs_of_writes (t : Trace) (h : ∀ e ∈ t, e.isWrite = true) :
    Trace.outputs t = t := by
  refine List.filter_eq_self.2 fun e he => ?_
  have hwrite := h e he
  cases e with
  | wrote offered reply => rfl
  | _ => exact absurd hwrite Bool.false_ne_true

/-- The failure that an answer to a write amounts to. -/
def WriteReply.refusal? : WriteReply → Option Stop
  | .accepted count => if count = 0 then some (Sink.refused Sink.tookNothing) else none
  | .interrupted => none
  | .failed reason => some (Sink.refused reason)
  | .panicked => some .panic

namespace Sink

/-- How writing goes from a state on. -/
inductive Writing (s : Sink τ) : Bytes → τ → Outcome τ Unit → Prop where
  /-- Nothing is left to write. -/
  | done (t : τ) : Writing s [] t ⟨.ok (), t, []⟩
  /-- Some bytes are taken, and the others are offered next. -/
  | took (bytes : Bytes) (t : τ) (count : Nat) (rest : Outcome τ Unit)
      (hbytes : bytes ≠ []) (hcount : count ≠ 0) (hreply : (s.write t bytes).1 = .accepted count)
      (hrest : Writing s (bytes.drop count) (s.write t bytes).2 rest) :
      Writing s bytes t
        ⟨rest.result, rest.state, .wrote bytes (.accepted count) :: rest.trace⟩
  /-- The same write is repeated. -/
  | again (bytes : Bytes) (t : τ) (rest : Outcome τ Unit)
      (hreply : (s.write t bytes).1 = .interrupted)
      (hrest : Writing s bytes (s.write t bytes).2 rest) :
      Writing s bytes t ⟨rest.result, rest.state, .wrote bytes .interrupted :: rest.trace⟩
  /-- The sink refuses, and writing is given up. -/
  | gaveUp (bytes : Bytes) (t : τ) (stop : Stop) (hbytes : bytes ≠ [])
      (hrefusal : (s.write t bytes).1.refusal? = some stop) :
      Writing s bytes t ⟨.error stop, (s.write t bytes).2, [.wrote bytes (s.write t bytes).1]⟩

theorem deliver_writing (s : Sink τ) (bytes : Bytes) (t : τ) :
    s.Writing bytes t (s.deliver bytes t) := by
  fun_induction s.deliver bytes t with
  | case1 t => exact .done t
  | case2 bytes t hbytes step hreply =>
      have hrefusal : (s.write t bytes).1.refusal? = some (refused tookNothing) := by
        rw [show (s.write t bytes).1 = .accepted 0 from hreply]
        rfl
      have hgaveUp := Writing.gaveUp bytes t _ hbytes hrefusal
      rwa [show (s.write t bytes).1 = .accepted 0 from hreply] at hgaveUp
  | case3 bytes t hbytes step count hreply hcount _ rest ih =>
      exact .took bytes t count _ hbytes hcount hreply ih
  | case4 bytes t hbytes step hreply _ rest ih => exact .again bytes t _ hreply ih
  | case5 bytes t hbytes step reason hreply =>
      have hrefusal : (s.write t bytes).1.refusal? = some (refused reason) := by
        rw [show (s.write t bytes).1 = .failed reason from hreply]
        rfl
      have hgaveUp := Writing.gaveUp bytes t _ hbytes hrefusal
      rwa [show (s.write t bytes).1 = .failed reason from hreply] at hgaveUp
  | case6 bytes t hbytes step hreply =>
      have hrefusal : (s.write t bytes).1.refusal? = some .panic := by
        rw [show (s.write t bytes).1 = .panicked from hreply]
        rfl
      have hgaveUp := Writing.gaveUp bytes t _ hbytes hrefusal
      rwa [show (s.write t bytes).1 = .panicked from hreply] at hgaveUp

/-- A refusal takes nothing. -/
theorem accepted_of_refusal (offered : Bytes) (reply : WriteReply) (stop : Stop)
    (h : reply.refusal? = some stop) : (Event.wrote offered reply).accepted = [] := by
  cases reply with
  | accepted count =>
      by_cases hcount : count = 0
      · rw [hcount]
        rfl
      · simp only [WriteReply.refusal?, if_neg hcount, reduceCtorEq] at h
  | _ => rfl

namespace Writing

variable {s : Sink τ} {bytes : Bytes} {t : τ} {o : Outcome τ Unit}

/-- Writing does nothing but write. -/
theorem writes (h : s.Writing bytes t o) : ∀ e ∈ o.trace, e.isWrite = true := by
  induction h with
  | done t => exact fun e he => absurd he List.not_mem_nil
  | took bytes t count rest _ _ _ _ ih => exact List.forall_mem_cons.2 ⟨rfl, ih⟩
  | again bytes t rest _ _ ih => exact List.forall_mem_cons.2 ⟨rfl, ih⟩
  | gaveUp bytes t stop _ _ =>
      exact List.forall_mem_cons.2 ⟨rfl, fun e he => absurd he List.not_mem_nil⟩

/-- What was taken, and then what is left, is what was to be written, and
    writing succeeds exactly when nothing is left. -/
theorem splits (h : s.Writing bytes t o) :
    ∃ left, Trace.accepted o.trace ++ left = bytes ∧ (o.result = .ok () ↔ left = []) := by
  induction h with
  | done t => exact ⟨[], rfl, fun _ => rfl, fun _ => rfl⟩
  | took bytes t count rest _ _ _ _ ih =>
      rcases ih with ⟨left, hsplit, hresult⟩
      refine ⟨left, ?_, hresult⟩
      -- The later writes split what was not taken by this one.
      change bytes.take count ++ Trace.accepted rest.trace ++ left = bytes
      rw [List.append_assoc, hsplit, List.take_append_drop]
  | again bytes t rest _ _ ih => exact ih
  | gaveUp bytes t stop hbytes hrefusal =>
      -- A refusal takes nothing, so all of it is left, and it is not empty.
      refine ⟨bytes, ?_, fun h => ?_, fun h => absurd h hbytes⟩
      · change (Event.wrote bytes (s.write t bytes).1).accepted ++ [] ++ bytes = bytes
        rw [accepted_of_refusal bytes _ stop hrefusal]
        rfl
      · exact absurd h (by simp only [reduceCtorEq, not_false_eq_true])

/-- Writing is given up only at a refusal, which is its last answer and its
    failure. -/
theorem refused (h : s.Writing bytes t o) (stop : Stop) (hstop : o.result = .error stop) :
    ∃ before offered reply, o.trace = before ++ [.wrote offered reply] ∧
      reply.refusal? = some stop := by
  induction h with
  | done t => exact absurd hstop (by simp only [reduceCtorEq, not_false_eq_true])
  | took bytes t count rest _ _ _ _ ih =>
      rcases ih hstop with ⟨before, offered, reply, htrace, hrefusal⟩
      exact ⟨_ :: before, offered, reply, congrArg (List.cons _) htrace, hrefusal⟩
  | again bytes t rest _ _ ih =>
      rcases ih hstop with ⟨before, offered, reply, htrace, hrefusal⟩
      exact ⟨_ :: before, offered, reply, congrArg (List.cons _) htrace, hrefusal⟩
  | gaveUp bytes t stop' _ hrefusal =>
      rw [← Except.error.inj hstop]
      exact ⟨[], bytes, _, rfl, hrefusal⟩

/-- Every write offers what the writes before it have not taken. -/
theorem offers (h : s.Writing bytes t o) (before : Trace) (offered : Bytes) (reply : WriteReply)
    (hwrote : before ++ [.wrote offered reply] <+: o.trace) :
    Trace.accepted before ++ offered = bytes := by
  induction h generalizing before with
  | done t => exact absurd (List.prefix_nil.1 hwrote) (List.concat_ne_nil _ _)
  | took bytes t count rest _ _ _ _ ih =>
      rcases before with _ | ⟨first, before⟩
      · exact (Event.wrote.inj (List.cons_prefix_cons.1 hwrote).1).1
      · rcases List.cons_prefix_cons.1 hwrote with ⟨rfl, hrest⟩
        change bytes.take count ++ Trace.accepted before ++ offered = bytes
        rw [List.append_assoc, ih before hrest, List.take_append_drop]
  | again bytes t rest _ _ ih =>
      rcases before with _ | ⟨first, before⟩
      · exact (Event.wrote.inj (List.cons_prefix_cons.1 hwrote).1).1
      · rcases List.cons_prefix_cons.1 hwrote with ⟨rfl, hrest⟩
        exact ih before hrest
  | gaveUp bytes t stop _ _ =>
      rcases before with _ | ⟨first, before⟩
      · exact (Event.wrote.inj (List.cons_prefix_cons.1 hwrote).1).1
      · exact absurd (List.prefix_nil.1 (List.cons_prefix_cons.1 hwrote).2)
          (List.concat_ne_nil _ _)

end Writing

/-- A sink that keeps what it takes, as a view of its state shows. -/
structure Keeps (s : Sink τ) (content : τ → Bytes) : Prop where
  write : ∀ t bytes, content (s.write t bytes).2 =
    content t ++ (Event.wrote bytes (s.write t bytes).1).accepted
  flush : ∀ t, content (s.flush t).2 = content t

/-- Writing adds to such a sink what was taken. -/
theorem Writing.kept {s : Sink τ} {content : τ → Bytes} {bytes : Bytes} {t : τ}
    {o : Outcome τ Unit} (hkeeps : s.Keeps content) (h : s.Writing bytes t o) :
    content o.state = content t ++ Trace.accepted o.trace := by
  induction h with
  | done t => exact (List.append_nil _).symm
  | took bytes t count rest _ _ hreply _ ih =>
      have hwrite := hkeeps.write t bytes
      rw [hreply] at hwrite
      rw [ih, hwrite, List.append_assoc]
      rfl
  | again bytes t rest hreply _ ih =>
      have hwrite := hkeeps.write t bytes
      rw [hreply] at hwrite
      rw [ih, hwrite, List.append_assoc]
      rfl
  | gaveUp bytes t stop _ _ =>
      change _ = content t ++ (_ ++ [])
      rw [List.append_nil]
      exact hkeeps.write t bytes

/-- The memory sink keeps what it takes. -/
theorem memory_keeps : memory.Keeps id where
  write t bytes := by
    change t ++ bytes = t ++ bytes.take bytes.length
    rw [List.take_length]
  flush _ := rfl

/-- A planned sink keeps what it takes, whatever its plan. -/
theorem plan_keeps (p : SinkPlan) : p.sink.Keeps PlanState.out where
  write t bytes := by
    simp only [SinkPlan.sink]
    cases p.reply t bytes.length with
    | _ => rfl
  flush _ := rfl

end Sink

namespace Bridge

variable (sink : Sink τ) (bytes : Bytes) (t : τ)

/-- A whole writing is followed by one flush, which decides how it ends. -/
theorem deliver_of_completed (h : (sink.deliver bytes t).result = .ok ()) :
    deliver sink bytes t =
      ⟨(sink.flushed (sink.deliver bytes t).state).result,
        (sink.flush (sink.deliver bytes t).state).2,
        (sink.deliver bytes t).trace ++
          [.flushed (sink.flush (sink.deliver bytes t).state).1]⟩ := by
  unfold deliver
  rw [Action.bind_of_ok _ _ t () h]
  rfl

/-- A writing that was given up is not followed by a flush. -/
theorem deliver_of_cut (stop : Stop) (h : (sink.deliver bytes t).result = .error stop) :
    deliver sink bytes t = sink.deliver bytes t := by
  unfold deliver
  rw [Action.bind_of_error _ _ t stop h]
  rw [← h]

/-- Delivering touches nothing but the output. -/
theorem deliver_outputs :
    Trace.outputs (deliver sink bytes t).trace = (deliver sink bytes t).trace := by
  have hwrites := Trace.outputs_of_writes _ (sink.deliver_writing bytes t).writes
  rcases h : (sink.deliver bytes t).result with stop | _
  · rw [deliver_of_cut sink bytes t stop h]
    exact hwrites
  · rw [deliver_of_completed sink bytes t h]
    simp only [Trace.outputs_append, hwrites]
    rfl

/-- Delivering succeeds exactly when a flush was done. -/
theorem deliver_ok_iff :
    (deliver sink bytes t).result = .ok () ↔ .flushed .done ∈ (deliver sink bytes t).trace := by
  have hwrites := (sink.deliver_writing bytes t).writes
  -- A flush is no write, so only the one behind a whole writing can be meant.
  have hnot : .flushed .done ∉ (sink.deliver bytes t).trace :=
    fun hmem => Bool.false_ne_true (hwrites _ hmem)
  rcases h : (sink.deliver bytes t).result with stop | _
  · rw [deliver_of_cut sink bytes t stop h, h]
    simp only [reduceCtorEq, hnot]
  · rw [deliver_of_completed sink bytes t h]
    simp only [Sink.flushed, List.mem_append, hnot, List.mem_singleton, false_or]
    rcases (sink.flush (sink.deliver bytes t).state).1 with _ | reason | _
    · simp only
    · simp only [reduceCtorEq, Event.flushed.injEq]
    · simp only [reduceCtorEq, Event.flushed.injEq]

/-- A flush is only reached when all bytes were taken. -/
theorem deliver_accepted_of_flushed (reply : FlushReply)
    (h : .flushed reply ∈ (deliver sink bytes t).trace) :
    Trace.accepted (deliver sink bytes t).trace = bytes := by
  have hwriting := sink.deliver_writing bytes t
  rcases hresult : (sink.deliver bytes t).result with stop | _
  · rw [deliver_of_cut sink bytes t stop hresult] at h
    exact absurd (hwriting.writes _ h) Bool.false_ne_true
  · rcases hwriting.splits with ⟨left, hsplit, hleft⟩
    rw [deliver_of_completed sink bytes t hresult]
    simp only [Trace.accepted_append]
    rw [hleft.1 hresult] at hsplit
    exact hsplit

/-- Every write of a delivery offers what the writes before it have not
    taken. -/
theorem deliver_offers (before : Trace) (offered : Bytes) (reply : WriteReply)
    (h : before ++ [.wrote offered reply] <+: (deliver sink bytes t).trace) :
    Trace.accepted before ++ offered = bytes := by
  have hwriting := sink.deliver_writing bytes t
  rcases hresult : (sink.deliver bytes t).result with stop | _
  · rw [deliver_of_cut sink bytes t stop hresult] at h
    exact hwriting.offers before offered reply h
  · rw [deliver_of_completed sink bytes t hresult] at h
    rcases List.prefix_concat_iff.1 h with hall | hprefix
    · -- The last event of a whole delivery is the flush, which is no write.
      have hlast := (List.append_inj' hall rfl).2
      exact absurd (List.cons.inj hlast).1 (by simp only [reduceCtorEq, not_false_eq_true])
    · exact hwriting.offers before offered reply hprefix

/-- Delivering adds to a sink that keeps its bytes those that were taken. -/
theorem deliver_kept {content : τ → Bytes} (hkeeps : sink.Keeps content) :
    content (deliver sink bytes t).state =
      content t ++ Trace.accepted (deliver sink bytes t).trace := by
  have hwriting := (sink.deliver_writing bytes t).kept hkeeps
  rcases h : (sink.deliver bytes t).result with stop | _
  · rw [deliver_of_cut sink bytes t stop h]
    exact hwriting
  · rw [deliver_of_completed sink bytes t h]
    simp only [hkeeps.flush, Trace.accepted_append]
    rw [hwriting]
    exact (congrArg _ (List.append_nil _)).symm

end Bridge

end PrintBridge
