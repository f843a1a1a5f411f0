import PrintBridge.Failure
import PrintBridge.Value.Box

/-!
# Entry Points

The native side offers one entry point for each number of arguments up to a
limit, and each of them takes the format and exactly that many arguments. A
call with any number of arguments is routed by the number alone; one with
more than the limit is refused before anything native happens.

A `Call` is an entry point with its arguments. That their number is the one
the entry point takes is part of its type, so a bridge never sees a call with
arguments missing or left over.

## Main definitions

* `maxArity`: The limit.
* `EntryPoint`: An entry point.
* `EntryPoint.select`: The entry point for a number of arguments.
* `Call`: An entry point with a format and arguments.

## Theorems

* `select_eq_ok_iff`: An entry point is selected for its own arity alone.
* `select_eq_error_iff`: Exactly the numbers above the limit are refused.
-/

namespace PrintBridge

/-- The largest number of arguments that any entry point takes. -/
def maxArity : Nat := 5

/-- The entry point for a number of arguments. -/
structure EntryPoint where
  arity : Nat
  arity_le : arity ≤ maxArity
deriving DecidableEq

namespace EntryPoint

/-- All entry points by the number of their arguments. -/
def all : List EntryPoint :=
  (List.finRange (maxArity + 1)).map fun i : Fin (maxArity + 1) => ⟨i.val, Nat.le_of_lt_succ i.isLt⟩

/-- The name of an entry point. -/
def name (e : EntryPoint) : String := "printf_" ++ e.arity.repr

instance : Ord EntryPoint := ⟨fun a b => compare a.arity b.arity⟩

/-- The entry point for a number of arguments, if it is within the limit. -/
def select (count : Nat) : Except PrintError EntryPoint :=
  if h : count ≤ maxArity then .ok ⟨count, h⟩
  else .error (.unsupportedArity count maxArity)

/-- The name under which a number of arguments is reported, also where there
    is no entry point for it. -/
def nameFor (count : Nat) : String :=
  match select count with
  | .ok e => e.name
  | .error _ => "printf_?"

theorem select_eq_ok_iff (count : Nat) (e : EntryPoint) :
    select count = .ok e ↔ e.arity = count := by
  rcases e with ⟨arity, harity⟩
  simp only [select]
  split
  · simp only [Except.ok.injEq, EntryPoint.mk.injEq]
    exact eq_comm
  · simp only [reduceCtorEq, false_iff]
    omega

theorem select_eq_error_iff (count : Nat) (e : PrintError) :
    select count = .error e ↔
      maxArity < count ∧ e = .unsupportedArity count maxArity := by
  simp only [select]
  split
  · simp only [reduceCtorEq, false_iff, not_and]
    omega
  · simp only [Except.error.injEq, eq_comm, iff_and_self]
    omega

end EntryPoint

/-- An entry point with a format and as many arguments as it takes. -/
structure Call where
  entry : EntryPoint
  format : String
  args : List Box
  args_length : args.length = entry.arity
deriving DecidableEq

namespace Call

/-- The arguments as values. -/
def values (c : Call) : List Value := c.args.map Box.value

end Call

end PrintBridge
