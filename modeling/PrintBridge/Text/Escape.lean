/-!
# Backslash Escapes

Expansion of backslash escapes in text from the command line. Seven escapes
are known. A backslash before any other character, and one at the end, stand
for themselves, so that a text without known escapes is not changed. Scanning
goes in units: a backslash with the character behind it, known or not, or a
plain character.

## Main definitions

* `expanded?`: The character that a known escape stands for.
* `expandUnit`: The image of a backslash and the character behind it.
* `expand`: The image of a text.

## Theorems

* `expand_length_le`: Expansion never makes a text longer.
-/

namespace PrintBridge

namespace Text

/-- The character that a backslash and the given character stand for. -/
def expanded? : Char → Option Char
  | 'n' => some '\n'
  | 't' => some '\t'
  | 'r' => some '\r'
  | '0' => some '\x00'
  | '\\' => some '\\'
  | '"' => some '"'
  | '\'' => some '\''
  | _ => none

/-- The image of a backslash and the character behind it. -/
def expandUnit (c : Char) : List Char :=
  match expanded? c with
  | some image => [image]
  | none => ['\\', c]

/-- The image of the characters of a text. -/
def expandChars : List Char → List Char
  | [] => []
  | '\\' :: c :: rest => expandUnit c ++ expandChars rest
  | c :: rest => c :: expandChars rest

/-- The text with its escapes expanded. -/
def expand (s : String) : String := String.ofList (expandChars s.toList)

theorem expandUnit_length_le (c : Char) : (expandUnit c).length ≤ 2 := by
  simp only [expandUnit]
  split
  · exact Nat.le_succ 1
  · exact Nat.le_refl 2

theorem expandChars_length_le (cs : List Char) :
    (expandChars cs).length ≤ cs.length := by
  fun_induction expandChars cs with
  | case1 => exact Nat.le_refl 0
  | case2 c rest ih =>
    have := expandUnit_length_le c
    simp only [List.length_append, List.length_cons]
    omega
  | case3 c rest _ ih =>
    simp only [List.length_cons]
    omega

/-- Expansion never makes a text longer. -/
theorem expand_length_le (s : String) : (expand s).toList.length ≤ s.toList.length := by
  simp only [expand, String.toList_ofList]
  exact expandChars_length_le s.toList

end Text

end PrintBridge
