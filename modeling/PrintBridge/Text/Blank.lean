import PrintBridge.Text.CodePoints

/-!
# Blank Text

White space in the sense of the Unicode standard, and texts made of nothing
else. A setting whose text is blank counts as empty.

## Main definitions

* `whiteSpace`: The class of white space.
* `isBlank`: Texts of white space only.

## Theorems

* `whiteSpace_of_isWhitespace`: Everything that is white space in ASCII is in
  the class.
-/

namespace PrintBridge

namespace Text

/-- White space: the ASCII controls among it, the next-line control, and the
    separators. -/
def whiteSpace : CodePoints where
  changes :=
    [0x9, 0xe, 0x20, 0x21, 0x85, 0x86, 0xa0, 0xa1, 0x1680, 0x1681, 0x2000, 0x200b,
      0x2028, 0x202a, 0x202f, 0x2030, 0x205f, 0x2060, 0x3000, 0x3001]

/-- Whether a text holds nothing but white space. -/
def isBlank (s : String) : Bool := s.toList.all whiteSpace.member

theorem whiteSpace_of_isWhitespace (c : Char) (h : c.isWhitespace = true) :
    whiteSpace.member c = true := by
  simp only [Char.isWhitespace, Bool.or_eq_true, decide_eq_true_eq] at h
  rcases h with ((h | h) | h) | h <;> subst h <;> rfl

end Text

end PrintBridge
