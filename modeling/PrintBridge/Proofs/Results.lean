/-!
# Results in Stages

What takes several stages succeeds exactly if each of them does, and then with what the
last of them gives. So a success can be taken apart again, stage by stage, where a
function is written as one stage behind the other.

## Theorems

* `bind_eq_ok_iff`: One stage behind another.
* `map_eq_ok_iff`, `mapError_eq_ok_iff`: A stage whose result or failure is changed.
* `toOption_eq_some_iff`: A stage whose failure is forgotten.
-/

namespace PrintBridge

variable {ε ε' α β : Type} {x : Except ε α} {a : α} {b : β}

theorem bind_eq_ok_iff {f : α → Except ε β} :
    x >>= f = .ok b ↔ ∃ a, x = .ok a ∧ f a = .ok b := by
  cases x with
  | error e => simp only [bind, Except.bind, reduceCtorEq, false_and, exists_false]
  | ok a => simp only [bind, Except.bind, Except.ok.injEq, exists_eq_left']

theorem map_eq_ok_iff {f : α → β} : x.map f = .ok b ↔ ∃ a, x = .ok a ∧ f a = b := by
  cases x with
  | error e => simp only [Except.map, reduceCtorEq, false_and, exists_false]
  | ok a => simp only [Except.map, Except.ok.injEq, exists_eq_left']

theorem mapError_eq_ok_iff {f : ε → ε'} : x.mapError f = .ok a ↔ x = .ok a := by
  cases x with
  | error e =>
      change Except.error (f e) = Except.ok a ↔ _
      simp only [reduceCtorEq]
  | ok b =>
      change Except.ok b = Except.ok a ↔ _
      simp only [Except.ok.injEq]

theorem toOption_eq_some_iff : x.toOption = some a ↔ x = .ok a := by
  cases x with
  | error e =>
      change none = some a ↔ _
      simp only [reduceCtorEq]
  | ok b =>
      change some b = some a ↔ _
      simp only [Option.some.injEq, Except.ok.injEq]

end PrintBridge
