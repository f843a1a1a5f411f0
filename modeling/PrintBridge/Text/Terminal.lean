import PrintBridge.Text.Utf8

/-!
# Terminal Controls

Bytes that are meant to be read, without those that would only move a
terminal about. Outside of a control sequence the text stays, and so does
white space; every other control goes. An escape opens a sequence, which ends
with the first byte that can end a sequence of its kind, and all of it goes.
A cancelling byte ends any sequence, an escape opens a new one from within,
and white space in a short sequence breaks it off and stays.

## Main definitions

* `Terminal.State`: What kind of sequence is being read.
* `Terminal.step`: What a byte does.
* `Terminal.strip`: The bytes that are meant to be read.

## Theorems

* `strip_length_le`: Nothing is added.
* `stripFrom_append`: Stripping goes on where it stopped.
-/

namespace PrintBridge

namespace Terminal

/-- What is being read. -/
inductive State where
  /-- Text. -/
  | text
  /-- A sequence whose kind is still open. -/
  | escape
  /-- A sequence of two parts, in its first part. -/
  | intermediate
  /-- A control sequence with parameters. -/
  | control
  /-- A command to the operating system around the terminal. -/
  | command
  /-- A string for the terminal. -/
  | string
deriving DecidableEq

/-- White space that stays wherever it is carried out. -/
def isSpace (b : UInt8) : Bool := b == 9 || b == 10 || b == 12 || b == 13 || b == 32

/-- Whether a byte stays in text. -/
def stays (b : UInt8) : Bool := isSpace b || (32 ≤ b && b != 127)

/-- The kind of sequence that a byte behind an escape opens. -/
def opened (b : UInt8) : State :=
  if 0x20 ≤ b ∧ b ≤ 0x2f then .intermediate
  else if b = 0x5b then .control
  else if b = 0x5d then .command
  else if b = 0x50 ∨ b = 0x58 ∨ b = 0x5e ∨ b = 0x5f then .string
  else if 0x30 ≤ b ∧ b ≤ 0x7e then .text
  else .escape

/-- What a byte does inside a sequence that is not cut short by it. -/
def continued : State → UInt8 → State
  | .text, _ => .text
  | .escape, b => opened b
  | .intermediate, b => if 0x30 ≤ b ∧ b ≤ 0x7e then .text else .intermediate
  | .control, b => if 0x40 ≤ b ∧ b ≤ 0x7e then .text else .control
  | .command, b => if b = 0x07 then .text else .command
  | .string, b => if b = 0x9c then .text else .string

/-- Whether white space is carried out within a sequence rather than being a
    part of it. A blank is always a part. -/
def breaksOff : State → UInt8 → Bool
  | .text, _ => false
  | .command, _ => false
  | .string, _ => false
  | _, b => isSpace b && b != 32

/-- What a byte does: the state behind it, and whether it stays. -/
def step (s : State) (b : UInt8) : State × Bool :=
  if b = 0x1b then (.escape, false)
  else if b = 0x18 ∨ b = 0x1a then (.text, false)
  else if s = .text then (.text, stays b)
  else if breaksOff s b then (.text, true)
  else (continued s b, false)

/-- The bytes that stay, reading on in a state. -/
def stripFrom (s : State) : Bytes → Bytes
  | [] => []
  | b :: rest =>
    let next := step s b
    if next.2 then b :: stripFrom next.1 rest else stripFrom next.1 rest

/-- The bytes that are meant to be read. -/
def strip (bytes : Bytes) : Bytes := stripFrom .text bytes

/-- The state behind bytes. -/
def stateAfter (s : State) (bytes : Bytes) : State := bytes.foldl (fun s b => (step s b).1) s

theorem stripFrom_append (s : State) (xs ys : Bytes) :
    stripFrom s (xs ++ ys) = stripFrom s xs ++ stripFrom (stateAfter s xs) ys := by
  induction xs generalizing s with
  | nil => rfl
  | cons b rest ih =>
    simp only [List.cons_append, stripFrom, stateAfter, List.foldl_cons] at ih ⊢
    split
    · rw [ih, List.cons_append]
    · rw [ih]

theorem stripFrom_length_le (s : State) (bytes : Bytes) :
    (stripFrom s bytes).length ≤ bytes.length := by
  induction bytes generalizing s with
  | nil => exact Nat.le_refl 0
  | cons b rest ih =>
    have := ih (step s b).1
    simp only [stripFrom]
    split <;> simp only [List.length_cons] <;> omega

/-- Nothing is added. -/
theorem strip_length_le (bytes : Bytes) : (strip bytes).length ≤ bytes.length :=
  stripFrom_length_le .text bytes

end Terminal

end PrintBridge
