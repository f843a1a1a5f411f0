import PrintBridge.Proofs.Sink.Writing
import PrintBridge.Proofs.Stream.Comparison

/-!
# Refusing Instead of Breaking Down

A sink that breaks down, beside the same sink that refuses in its place.

Nothing tells the library that a sink broke down: there is no failure to pass on,
and the call is cut short where it stands. A refusal is a failure like others. To
say that the one is no worse than the other for what comes later, the sink is
given a second life. `Sink.refusing` answers as the sink does, goes through the
same states, and where the sink would break down it refuses, with words that are
its own to choose. It may choose so at some breakdowns and leave others as they
are, since what it answers can depend on the state that it is asked in.

Up to a breakdown that was replaced both sinks are asked the same things. At that
point one call has no result and the other one has failed, both are over, and the
states are the same. This is `Outcome.Spared`, and it is a comparison, so it holds
of everything that is done over a sink as soon as it holds of writing and
flushing.

## Main definitions

* `Sink.Refusals`: Which breakdowns are replaced.
* `Sink.refusing`: The sink that refuses there.
* `Event.Replaced`: A breakdown, and the refusal in its place.
* `Outcome.Spared`: Outcomes that differ in the last event at most.
* `Comparison.sparing`: The comparison that this is.

## Theorems

* `refusing_none`: A sink that replaces nothing is the sink.
* `deliver_of_accepted`, `deliver_of_interrupted`, `deliver_of_refusal`: How
  writing goes, by the first answer.
* `deliver_spared`, `flushed_spared`: Writing and flushing compare.
* `Outcome.Spared.of_never`: Where nothing is replaced, nothing differs.
-/

namespace PrintBridge

variable {σ τ α : Type}

/-- Where a sink that would break down refuses instead, and with which words. -/
structure Sink.Refusals (τ : Type) where
  /-- What is said instead of breaking down at a write. -/
  write : τ → Bytes → Option String
  /-- What is said instead of breaking down at a flush. -/
  flush : τ → Option String

/-- Breaking down everywhere. -/
def Sink.Refusals.never : Sink.Refusals τ := ⟨fun _ _ => none, fun _ => none⟩

/-- The answer to a write, with a breakdown replaced if there are words for it. -/
def WriteReply.instead (words : Option String) : WriteReply → WriteReply
  | .panicked => (words.map .failed).getD .panicked
  | reply => reply

/-- The answer to a flush, with a breakdown replaced if there are words for it. -/
def FlushReply.instead (words : Option String) : FlushReply → FlushReply
  | .panicked => (words.map .failed).getD .panicked
  | reply => reply

/-- No answer becomes an interruption. -/
theorem WriteReply.interrupted_of_instead {words : Option String} {reply : WriteReply}
    (h : reply.instead words = .interrupted) : reply = .interrupted := by
  cases reply with
  | panicked =>
      cases words <;> exact absurd h (by simp only [instead, Option.map, Option.getD, reduceCtorEq,
        not_false_eq_true])
  | _ => exact h

theorem WriteReply.instead_none (reply : WriteReply) : reply.instead none = reply := by
  cases reply <;> rfl

theorem FlushReply.instead_none (reply : FlushReply) : reply.instead none = reply := by
  cases reply <;> rfl

namespace Sink

/-- The sink that refuses where it would break down, and is else the same. -/
def refusing (s : Sink τ) (r : Refusals τ) : Sink τ where
  write t bytes := ((s.write t bytes).1.instead (r.write t bytes), (s.write t bytes).2)
  flush t := ((s.flush t).1.instead (r.flush t), (s.flush t).2)
  patience := s.patience
  patience_lt t bytes h := s.patience_lt t bytes (WriteReply.interrupted_of_instead h)

/-- A sink that replaces no breakdown is the sink. -/
theorem refusing_none (s : Sink τ) : s.refusing .never = s := by
  rcases s with ⟨write, flush, patience, hpatience⟩
  simp only [refusing, Refusals.never, WriteReply.instead_none, FlushReply.instead_none]

/-- When some bytes are taken, writing goes on with the others. -/
theorem deliver_of_accepted (s : Sink τ) (bytes : Bytes) (t : τ) (count : Nat)
    (hbytes : bytes ≠ []) (hcount : count ≠ 0) (hreply : (s.write t bytes).1 = .accepted count) :
    s.deliver bytes t =
      ⟨(s.deliver (bytes.drop count) (s.write t bytes).2).result,
        (s.deliver (bytes.drop count) (s.write t bytes).2).state,
        .wrote bytes (.accepted count) ::
          (s.deliver (bytes.drop count) (s.write t bytes).2).trace⟩ := by
  rw [deliver, dif_neg hbytes]
  simp only
  split
  · rename_i count' h
    obtain rfl : count' = count := WriteReply.accepted.inj (h.symm.trans hreply)
    rw [dif_neg hcount]
  all_goals
    rename_i h
    exact absurd (h.symm.trans hreply) (by simp only [reduceCtorEq, not_false_eq_true])

/-- When it was interrupted, the same write is made again. -/
theorem deliver_of_interrupted (s : Sink τ) (bytes : Bytes) (t : τ) (hbytes : bytes ≠ [])
    (hreply : (s.write t bytes).1 = .interrupted) :
    s.deliver bytes t =
      ⟨(s.deliver bytes (s.write t bytes).2).result, (s.deliver bytes (s.write t bytes).2).state,
        .wrote bytes .interrupted :: (s.deliver bytes (s.write t bytes).2).trace⟩ := by
  rw [deliver, dif_neg hbytes]
  simp only
  split
  case h_2 => rfl
  all_goals
    rename_i h
    exact absurd (h.symm.trans hreply) (by simp only [reduceCtorEq, not_false_eq_true])

/-- At any other answer writing is given up. -/
theorem deliver_of_refusal (s : Sink τ) (bytes : Bytes) (t : τ) (stop : Stop) (hbytes : bytes ≠ [])
    (hrefusal : (s.write t bytes).1.refusal? = some stop) :
    s.deliver bytes t = ⟨.error stop, (s.write t bytes).2, [.wrote bytes (s.write t bytes).1]⟩ := by
  have hwriting := s.deliver_writing bytes t
  generalize s.deliver bytes t = o at hwriting
  cases hwriting with
  | done => exact absurd rfl hbytes
  | took _ _ count rest _ hcount hreply _ =>
      rw [hreply, WriteReply.refusal?, if_neg hcount] at hrefusal
      exact absurd hrefusal (by simp only [reduceCtorEq, not_false_eq_true])
  | again _ _ rest hreply _ =>
      rw [hreply] at hrefusal
      exact absurd hrefusal (by simp only [WriteReply.refusal?, reduceCtorEq, not_false_eq_true])
  | gaveUp _ _ stop' _ hrefusal' =>
      rw [Option.some.inj (hrefusal'.symm.trans hrefusal)]

end Sink

/-- A breakdown, and the refusal in its place. -/
inductive Event.Replaced (r : Sink.Refusals τ) (words : String) : Event → Event → Prop
  | write (t : τ) (offered : Bytes) (hwords : r.write t offered = some words) :
      Replaced r words (.wrote offered .panicked) (.wrote offered (.failed words))
  | flush (t : τ) (hwords : r.flush t = some words) :
      Replaced r words (.flushed .panicked) (.flushed (.failed words))

/-- The outcomes of one action, over a sink that breaks down and over one that
    refuses instead. -/
inductive Outcome.Spared (r : Sink.Refusals τ) (same : σ → σ → Prop) (o p : Outcome σ α) : Prop
  /-- No breakdown was replaced, and nothing differs. -/
  | unchanged (hresult : p.result = o.result) (htrace : p.trace = o.trace)
      (hstate : same o.state p.state)
  /-- The last event is a breakdown that was replaced. -/
  | replaced (before : Trace) (broken refused : Event) (words : String)
      (hevent : Event.Replaced r words broken refused)
      (hbroke : o.result = .error .panic) (htrace : o.trace = before ++ [broken])
      (hrefused : p.result = .error (Sink.refused words)) (htrace' : p.trace = before ++ [refused])
      (hstate : same o.state p.state)

/-- What was done before does not change the comparison. -/
theorem Outcome.Spared.after {same : σ → σ → Prop} {r : Sink.Refusals τ} {o p : Outcome σ α}
    (h : o.Spared r same p) (done : Trace) :
    Outcome.Spared r same ⟨o.result, o.state, done ++ o.trace⟩
      ⟨p.result, p.state, done ++ p.trace⟩ := by
  cases h with
  | unchanged hresult htrace hstate => exact .unchanged hresult (congrArg (done ++ ·) htrace) hstate
  | replaced before broken refused words hevent hbroke hlast hrefused hlast' hstate =>
      refine .replaced (done ++ before) broken refused words hevent hbroke ?_ hrefused ?_ hstate
      · simp only [hlast, List.append_assoc]
      · simp only [hlast', List.append_assoc]

/-- Where no breakdown is replaced, nothing differs. -/
theorem Outcome.Spared.of_never {same : σ → σ → Prop} {o p : Outcome σ α}
    (h : Outcome.Spared (.never : Sink.Refusals τ) same o p) :
    p.result = o.result ∧ p.trace = o.trace ∧ same o.state p.state := by
  cases h with
  | unchanged hresult htrace hstate => exact ⟨hresult, htrace, hstate⟩
  | replaced before broken refused words hevent _ _ _ _ _ =>
      -- There are no words for any breakdown.
      cases hevent with
      | write t offered hwords => exact absurd hwords (Option.some_ne_none words).symm
      | flush t hwords => exact absurd hwords (Option.some_ne_none words).symm

/-- What is done over both sinks, in states that count as the same. -/
def Comparison.sparing (r : Sink.Refusals τ) (same : σ → σ → Prop) : Comparison σ σ where
  States := same
  Agree o p := o.Spared r same p
  states h := by
    cases h with
    | unchanged _ _ hstate => exact hstate
    | replaced _ _ _ _ _ _ _ _ _ hstate => exact hstate
  same _ _ _ _ h := .unchanged rfl rfl h
  bind x y f g s t h hf := by
    cases h with
    | unchanged hresult htrace hstate =>
        rcases hx : (x s).result with stop | a
        · rw [Action.bind_of_error x f s stop hx,
            Action.bind_of_error y g t stop (hresult.trans hx)]
          exact .unchanged rfl htrace hstate
        · rw [Action.bind_of_ok x f s a hx, Action.bind_of_ok y g t a (hresult.trans hx)]
          -- What the first action did came before any breakdown of the second.
          rw [htrace]
          exact (hf a _ _ hstate).after (x s).trace
    | replaced before broken refused words hevent hbroke hlast hrefused hlast' hstate =>
        rw [Action.bind_of_error x f s _ hbroke, Action.bind_of_error y g t _ hrefused]
        exact .replaced before broken refused words hevent rfl hlast rfl hlast' hstate

namespace Sink

variable (s : Sink τ) (r : Refusals τ)

/-- A write that one of the sinks refuses is the last one over both, and the only
    one at which they can differ. -/
theorem deliver_spared_of_refusal (bytes : Bytes) (t : τ) (stop : Stop) (hbytes : bytes ≠ [])
    (hrefusal : (s.write t bytes).1.refusal? = some stop) :
    (s.deliver bytes t).Spared r Eq ((s.refusing r).deliver bytes t) := by
  rw [s.deliver_of_refusal bytes t stop hbytes hrefusal]
  rcases hreply : (s.write t bytes).1 with count | _ | reason | _
  case panicked =>
    rw [hreply] at hrefusal
    rcases hwords : r.write t bytes with _ | words
    · -- There are no words for this breakdown.
      have hsame : ((s.refusing r).write t bytes).1 = .panicked := by
        simp only [refusing, hreply, hwords, WriteReply.instead_none]
      rw [(s.refusing r).deliver_of_refusal bytes t stop hbytes (by rw [hsame]; exact hrefusal),
        hsame]
      exact .unchanged rfl rfl rfl
    · have hrefused : ((s.refusing r).write t bytes).1 = .failed words := by
        simp only [refusing, hreply, hwords]
        rfl
      rw [(s.refusing r).deliver_of_refusal bytes t (refused words) hbytes (by rw [hrefused]; rfl),
        hrefused]
      exact .replaced [] _ _ words (.write t bytes hwords)
        (congrArg Except.error (Option.some.inj hrefusal.symm)) rfl rfl rfl rfl
  -- Any other answer is the same over both sinks.
  all_goals
    have hsame : ((s.refusing r).write t bytes).1 = (s.write t bytes).1 := by
      simp only [refusing, hreply]
      rfl
    rw [(s.refusing r).deliver_of_refusal bytes t stop hbytes (by rw [hsame]; exact hrefusal),
      hsame, hreply]
    exact .unchanged rfl rfl rfl

/-- Writing over both sinks: where one breaks down and the other one refuses, it
    is over for either. -/
theorem deliver_spared (bytes : Bytes) (t : τ) :
    (s.deliver bytes t).Spared r Eq ((s.refusing r).deliver bytes t) := by
  induction bytes, t using Sink.deliver.induct s with
  | case1 t =>
      rw [deliver_nil, deliver_nil]
      exact .unchanged rfl rfl rfl
  | case2 bytes t hbytes step hreply =>
      refine s.deliver_spared_of_refusal r bytes t (refused tookNothing) hbytes ?_
      rw [show (s.write t bytes).1 = .accepted 0 from hreply]
      rfl
  | case3 bytes t hbytes step count hreply hcount _ ih =>
      -- Both sinks take the same bytes, and the others are written to both.
      have hsame : ((s.refusing r).write t bytes).1 = .accepted count := by
        simp only [refusing, show (s.write t bytes).1 = .accepted count from hreply]
        rfl
      rw [s.deliver_of_accepted bytes t count hbytes hcount hreply,
        (s.refusing r).deliver_of_accepted bytes t count hbytes hcount hsame]
      exact ih.after [.wrote bytes (.accepted count)]
  | case4 bytes t hbytes step hreply _ ih =>
      have hsame : ((s.refusing r).write t bytes).1 = .interrupted := by
        simp only [refusing, show (s.write t bytes).1 = .interrupted from hreply]
        rfl
      rw [s.deliver_of_interrupted bytes t hbytes hreply,
        (s.refusing r).deliver_of_interrupted bytes t hbytes hsame]
      exact ih.after [.wrote bytes .interrupted]
  | case5 bytes t hbytes step reason hreply =>
      refine s.deliver_spared_of_refusal r bytes t (refused reason) hbytes ?_
      rw [show (s.write t bytes).1 = .failed reason from hreply]
      rfl
  | case6 bytes t hbytes step hreply =>
      refine s.deliver_spared_of_refusal r bytes t .panic hbytes ?_
      rw [show (s.write t bytes).1 = .panicked from hreply]
      rfl

theorem flushed_spared (t : τ) : (s.flushed t).Spared r Eq ((s.refusing r).flushed t) := by
  rcases hreply : (s.flush t).1 with _ | reason | _
  case panicked =>
    rcases hwords : r.flush t with _ | words
    · refine .unchanged ?_ ?_ rfl
      · simp only [flushed, refusing, hreply, hwords, FlushReply.instead_none]
      · simp only [flushed, refusing, hreply, hwords, FlushReply.instead_none]
    · refine .replaced [] _ _ words (.flush t hwords) ?_ ?_ ?_ ?_ rfl
      · simp only [flushed, hreply]
      · simp only [flushed, hreply, List.nil_append]
      · simp only [flushed, refusing, hreply, hwords]
        rfl
      · simp only [flushed, refusing, hreply, hwords]
        rfl
  all_goals
    refine .unchanged ?_ ?_ rfl
    · simp only [flushed, refusing, hreply]
      rfl
    · simp only [flushed, refusing, hreply]
      rfl

end Sink

end PrintBridge
