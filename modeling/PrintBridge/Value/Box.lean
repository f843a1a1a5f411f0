import PrintBridge.Value.Basic

/-!
# Boxes

A call is handed boxes rather than bare values. Two boxes can hold equal
texts and still be different, because a text lives in a cell of its own that
is shared by the copies of one box and by no other. The immediate kinds have
no cell to share, so for them the value itself decides.

A box is a value with the number of its cell. The number means something for
texts only, and one cell holds one text throughout; `allocate` keeps to that,
since it gives out every cell number once.

## Main definitions

* `Box`: A value with its cell.
* `Box.sameIdentity`: Whether two boxes are the same.
* `Box.allocate`: Boxes for values, each with a cell of its own.

## Theorems

* `sameIdentity_self`: Every box is the same as itself.
* `allocate_values`: Boxing keeps the values and their order.
-/

namespace PrintBridge

/-- A value with the cell it lives in. -/
structure Box where
  value : Value
  cell : Nat
deriving DecidableEq

namespace Box

/-- Whether two boxes are the same: texts by cell, doubles by bits, and other
    values as values. -/
def sameIdentity (a b : Box) : Bool :=
  match a.value, b.value with
  | .string _, .string _ => a.cell == b.cell
  | .double x, .double y => x.bits == y.bits
  | v, w => v.equals w

theorem sameIdentity_self (b : Box) : b.sameIdentity b = true := by
  rcases b with ⟨v, cell⟩
  cases v <;> simp only [sameIdentity, Value.equals, BEq.rfl]

/-- Boxes for values, in cells from `cell` on. -/
def allocate (cell : Nat) : List Value → List Box
  | [] => []
  | v :: rest => ⟨v, cell⟩ :: allocate (cell + 1) rest

theorem allocate_values (cell : Nat) (vs : List Value) :
    (allocate cell vs).map Box.value = vs := by
  induction vs generalizing cell with
  | nil => rfl
  | cons v rest ih => simp only [allocate, List.map_cons, ih]

end Box

end PrintBridge
