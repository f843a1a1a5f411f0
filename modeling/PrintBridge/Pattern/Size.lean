import PrintBridge.Pattern.Expression

/-!
# The Size of an Expression

How much memory it takes to prepare an expression for searching. A search
follows a network of states, in which repetitions by numbers are written out,
so a short pattern can ask for a network that is far too large. Its size is
known beforehand from the expression alone, and what is too large is refused.

## Main definitions

* `Expression.size`: The size of the network, in bytes.
* `sizeLimit`: The size up to which expressions are accepted.

## Theorems

* `size_pos`: Every expression has a size.
-/

namespace PrintBridge

namespace Pattern

/-- The size of one state. -/
def stateSize : Nat := 32

/-- The size of one way on from a state. -/
def wayOnSize : Nat := 8

/-- The size of a state that chooses between so many ways. -/
def choiceSize (ways : Nat) : Nat := stateSize + ways * 4

/-- The size up to which expressions are accepted. -/
def sizeLimit : Nat := 10485760

namespace CharSet

/-- The size of the states that recognise a character of a set. A single
    character needs one for each of its bytes, and a set of ASCII characters
    needs two, with one way on for each run. Other sets need a network that
    knows the ways in which characters are made of bytes. -/
def size : CharSet → Nat
  | range first last =>
    if first = last then stateSize * first.utf8Size
    else if last.toNat < 128 then 2 * stateSize + wayOnSize
    else 32 * stateSize
  | members =>
    if members.isAscii then 2 * stateSize + wayOnSize * members.runs else 32 * stateSize

theorem size_pos (members : CharSet) : 0 < members.size := by
  unfold size
  split
  · split
    · exact Nat.mul_pos (by decide) (Char.utf8Size_pos _)
    · split <;> decide
  · split
    · exact Nat.lt_of_lt_of_le (by decide) (Nat.le_add_right _ _)
    · decide

end CharSet

namespace Expression

/-- The size of the network for an expression. -/
def size : Expression → Nat
  | empty => stateSize
  | character members => members.size
  | look _ => stateSize
  | sequence a b => a.size + b.size
  | either a b => choiceSize 1 + a.size + b.size
  | repeated least none body => max least 1 * body.size + choiceSize 2
  | repeated least (some most) body =>
    least * body.size + (most - least) * (choiceSize 2 + body.size) + stateSize
  | remembered body => 2 * stateSize + body.size

theorem size_pos (e : Expression) : 0 < e.size := by
  induction e with
  | empty => decide
  | character members => exact members.size_pos
  | look l => exact (by decide : 0 < stateSize)
  | sequence a b ha hb => exact Nat.lt_of_lt_of_le ha (Nat.le_add_right _ _)
  | either a b ha hb => exact Nat.lt_of_lt_of_le hb (Nat.le_add_left _ _)
  | repeated least most body hb =>
    cases most with
    | none => exact Nat.lt_of_lt_of_le (by decide) (Nat.le_add_left (choiceSize 2) _)
    | some most => exact Nat.lt_of_lt_of_le (by decide) (Nat.le_add_left stateSize _)
  | remembered body hb => exact Nat.lt_of_lt_of_le hb (Nat.le_add_left _ _)

end Expression

end Pattern

end PrintBridge
