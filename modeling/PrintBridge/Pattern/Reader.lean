import PrintBridge.Pattern.Fault
import PrintBridge.Text.Blank

/-!
# Reading a Pattern

Readers take characters from the front of a pattern, know the place they have
come to, and stop at the first fault. Where white space is ignored, so are
comments, which run from a number sign to the end of the line.

A reader carries the proof that it gives no characters back. Loops are well
founded for that reason: a step either takes something or is the last one, so
nothing has to be said about termination where readers are put together.

## Main definitions

* `Cursor`: What is left of a pattern.
* `Reader`: A reader.
* `Reader.loop`: Repeating a step.

## Theorems

* `Cursor.bump_length`: Taking a character leaves no more than there was.
-/

namespace PrintBridge

namespace Pattern

/-- What is left of a pattern, and where it begins. -/
structure Cursor where
  rest : List Char
  place : Place
  /-- Whether white space and comments are ignored. -/
  spaced : Bool

namespace Cursor

/-- The next character. -/
def peek (c : Cursor) : Option Char := c.rest.head?

/-- Past the next character, if there is one. -/
def bump (c : Cursor) : Cursor :=
  match c.rest with
  | [] => c
  | first :: rest => { c with rest := rest, place := c.place.after first }

theorem bump_length (c : Cursor) : c.bump.rest.length ≤ c.rest.length := by
  simp only [bump]
  split
  · exact Nat.le_refl _
  · rename_i first rest h
    rw [h]
    exact Nat.le_succ _

/-- Past white space and comments, from inside a comment or not. -/
def pastBlank (comment : Bool) (place : Place) : List Char → List Char × Place
  | [] => ([], place)
  | c :: rest =>
    if comment then pastBlank (c != '\n') (place.after c) rest
    else if Text.whiteSpace.member c then pastBlank false (place.after c) rest
    else if c = '#' then pastBlank true (place.after c) rest
    else (c :: rest, place)

theorem pastBlank_length (comment : Bool) (place : Place) (cs : List Char) :
    (pastBlank comment place cs).1.length ≤ cs.length := by
  induction cs generalizing comment place with
  | nil => exact Nat.le_refl 0
  | cons c rest ih =>
    simp only [pastBlank]
    split
    · exact Nat.le_succ_of_le (ih _ _)
    · split
      · exact Nat.le_succ_of_le (ih _ _)
      · split
        · exact Nat.le_succ_of_le (ih _ _)
        · exact Nat.le_refl _

/-- Past what is ignored. -/
def skip (c : Cursor) : Cursor :=
  if c.spaced then
    let past := pastBlank false c.place c.rest
    { c with rest := past.1, place := past.2 }
  else c

theorem skip_length (c : Cursor) : c.skip.rest.length ≤ c.rest.length := by
  simp only [skip]
  split
  · exact pastBlank_length false c.place c.rest
  · exact Nat.le_refl _

/-- Past the next character, and past what is ignored behind it. -/
def advance (c : Cursor) : Cursor := c.bump.skip

theorem advance_length (c : Cursor) : c.advance.rest.length ≤ c.rest.length :=
  Nat.le_trans (skip_length c.bump) (bump_length c)

/-- The next character by itself. -/
def span (c : Cursor) : Span := ⟨c.place, c.bump.place⟩

end Cursor

/-- What takes characters from the front of a pattern. -/
structure Reader (α : Type) where
  run : Cursor → Except Complaint (α × Cursor)
  /-- No characters are given back. -/
  run_length : ∀ (c : Cursor) (r : α × Cursor), run c = .ok r → r.2.rest.length ≤ c.rest.length

namespace Reader

variable {α β σ : Type}

/-- Takes nothing. -/
def done (a : α) : Reader α where
  run c := .ok (a, c)
  run_length c r h := by
    injection h with h
    exact h ▸ Nat.le_refl _

/-- One reader, then another that depends on what the first one read. -/
def andThen (x : Reader α) (f : α → Reader β) : Reader β where
  run c := (x.run c).bind fun r => (f r.1).run r.2
  run_length c r h := by
    rcases hx : x.run c with e | r₁
    · rw [hx] at h
      exact absurd h (by simp only [Except.bind, reduceCtorEq, not_false_eq_true])
    · rw [hx] at h
      exact Nat.le_trans ((f r₁.1).run_length r₁.2 r h) (x.run_length c r₁ hx)

instance : Monad Reader where
  pure := done
  bind := andThen

/-- Moves on, to a place that is not further from the start. -/
def move (f : Cursor → Cursor) (h : ∀ c, (f c).rest.length ≤ c.rest.length) : Reader Unit where
  run c := .ok ((), f c)
  run_length c r hr := by
    injection hr with hr
    exact hr ▸ h c

/-- What is left. -/
def left : Reader Cursor where
  run c := .ok (c, c)
  run_length c r h := by
    injection h with h
    exact h ▸ Nat.le_refl _

/-- The next character. -/
def peek : Reader (Option Char) := do return (← left).peek

/-- The place that has been come to. -/
def here : Reader Place := do return (← left).place

/-- Stops at a fault. -/
def complain (complaint : Complaint) : Reader α where
  run _ := .error complaint
  run_length _ _ h := absurd h (by simp only [reduceCtorEq, not_false_eq_true])

/-- Stops at a fault in some span. -/
def fail (fault : Fault) (span : Span) : Reader α := complain { fault := fault, span := span }

/-- Stops at a fault in what stands between some place and here. -/
def failFrom (start : Place) (fault : Fault) : Reader α := do fail fault ⟨start, ← here⟩

/-- Stops at a fault in the next character. -/
def failNext (fault : Fault) : Reader α := do fail fault (← left).span

/-- Takes the next character. -/
def bump : Reader Unit := move Cursor.bump Cursor.bump_length

/-- Takes so many characters. -/
def bumps : Nat → Reader Unit
  | 0 => done ()
  | n + 1 => do
    bump
    bumps n

/-- Passes over what is ignored. -/
def skip : Reader Unit := move Cursor.skip Cursor.skip_length

/-- Takes the next character and what is ignored behind it, and says whether
    anything is left. -/
def advance : Reader Bool := do
  move Cursor.advance Cursor.advance_length
  return (← peek).isSome

/-- Takes the next character and what is ignored behind it. Where nothing is
    left, that is a fault in all since some place. -/
def advanceOr (start : Place) (fault : Fault) : Reader Unit := do
  if ← advance then return () else failFrom start fault

/-- From here on, white space and comments are ignored or not. -/
def space (spaced : Bool) : Reader Unit :=
  move (fun c => { c with spaced := spaced }) fun _ => Nat.le_refl _

/-- Whether the rest begins with a text, which is taken if it does. -/
def takes (text : String) : Reader Bool := do
  if text.toList.isPrefixOf (← left).rest then
    bumps text.length
    return true
  else return false

/-- Repeats a step on a state until it has no next state. A step that takes
    nothing is the last one. -/
def loopFrom (step : σ → Reader (Option σ)) (s : σ) (c : Cursor) :
    Except Complaint (σ × Cursor) :=
  match (step s).run c with
  | .error e => .error e
  | .ok (none, c') => .ok (s, c')
  | .ok (some s', c') =>
    if c'.rest.length < c.rest.length then loopFrom step s' c' else .ok (s', c')
termination_by c.rest.length

theorem loopFrom_length (step : σ → Reader (Option σ)) (s : σ) (c : Cursor) (r : σ × Cursor)
    (h : loopFrom step s c = .ok r) : r.2.rest.length ≤ c.rest.length := by
  fun_induction loopFrom step s c with
  | case1 => exact absurd h (by simp only [reduceCtorEq, not_false_eq_true])
  | case2 s c c' hstep =>
    injection h with h
    exact h ▸ (step s).run_length c _ hstep
  | case3 s c s' c' hstep hlt ih => exact Nat.le_trans (ih h) (Nat.le_of_lt hlt)
  | case4 s c s' c' hstep =>
    injection h with h
    exact h ▸ (step s).run_length c _ hstep

/-- Repeats a step on a state until it has no next state. A step that takes
    nothing is the last one. -/
def loop (step : σ → Reader (Option σ)) (s : σ) : Reader σ where
  run := loopFrom step s
  run_length := loopFrom_length step s

/-- Takes characters while they are of some kind, with what is ignored
    behind each of them. -/
def takeWhile (kind : Char → Bool) : Reader (List Char) := do
  let taken ← loop (fun (taken : List Char) => do
    match ← peek with
    | some c =>
      if kind c then
        move Cursor.advance Cursor.advance_length
        return some (c :: taken)
      else return none
    | none => return none) []
  return taken.reverse

end Reader

end Pattern

end PrintBridge
