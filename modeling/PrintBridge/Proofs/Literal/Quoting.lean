import PrintBridge.Proofs.Literal.ReadBack

/-!
# Texts and Characters as Literals

Every text can be written as a literal, and so can every character, whatever they
look like.

A text is written between double quotes and a character between single quotes. What
stands between the quotes is a spelling: any character but a backslash stands for
itself, and seven characters can be written behind a backslash instead. The writer
chooses at every character anew, so a text has many spellings, and `Spells` has all
of them.

The reader does not look for the end of a literal. It takes the quotes off at both
ends before anything is expanded, so a quote or a backslash at the end of a spelling
needs no care. Expansion then goes through the text in units, and those are the units
of the spelling: a backslash in a spelling always opens an escape, and everything else
stands alone. This is `expandChars_of_spells`, by induction on the spelling, and it is
why mixtures are as good as pure spellings.

Between double quotes nothing but text is read, also if it is nobody's spelling. All
other forms are told by their first character or by their last, and a double quote is
none of them.

## Main definitions

* `Text.escapes`: The characters that can be written behind a backslash.
* `Text.Spells`: The spellings of a text.

## Theorems

* `expanded?_of_mem_escapes`: Escapes are known to expansion.
* `expandChars_of_spells`: Expansion undoes every spelling.
* `exists_spells`: Every text has a spelling.
* `read_quoted`: What is read between quotes.
-/

namespace PrintBridge

namespace Text

/-- The characters that can be written behind a backslash, each with the letter that
    stands for it there. -/
def escapes : List (Char × Char) :=
  [('n', '\n'), ('t', '\t'), ('r', '\r'), ('0', '\x00'), ('\\', '\\'), ('"', '"'), ('\'', '\'')]

/-- The spellings of a text. Each character is written by itself, unless it is a
    backslash, or by its escape, if it has one. -/
inductive Spells : List Char → List Char → Prop where
  | nil : Spells [] []
  | itself {c : Char} {written s : List Char} (hc : c ≠ '\\') (h : Spells written s) :
      Spells (c :: written) (c :: s)
  | escaped {letter c : Char} {written s : List Char} (hc : (letter, c) ∈ escapes)
      (h : Spells written s) : Spells ('\\' :: letter :: written) (c :: s)

variable {written s : List Char}

theorem expanded?_of_mem_escapes {letter c : Char} (h : (letter, c) ∈ escapes) :
    expanded? letter = some c := by
  simp only [escapes, List.mem_cons, Prod.mk.injEq, List.not_mem_nil, or_false] at h
  rcases h with ⟨rfl, rfl⟩ | ⟨rfl, rfl⟩ | ⟨rfl, rfl⟩ | ⟨rfl, rfl⟩ | ⟨rfl, rfl⟩ | ⟨rfl, rfl⟩ |
    ⟨rfl, rfl⟩
  all_goals rfl

/-- Expansion undoes every spelling. -/
theorem expandChars_of_spells (h : Spells written s) : expandChars written = s := by
  induction h with
  | nil => rfl
  | itself hc _ ih => rw [expandChars_cons hc, ih]
  | escaped hc _ ih =>
      rw [expandChars, expandUnit, expanded?_of_mem_escapes hc, ih]
      rfl

/-- Every text has a spelling: only its backslashes have to be escaped. -/
theorem exists_spells (s : List Char) : ∃ written, Spells written s := by
  induction s with
  | nil => exact ⟨[], .nil⟩
  | cons c s ih =>
      rcases ih with ⟨written, h⟩
      by_cases hc : c = '\\'
      · rw [hc]
        exact ⟨'\\' :: '\\' :: written, .escaped (by decide) h⟩
      · exact ⟨c :: written, .itself hc h⟩

end Text

namespace Literal

/-- A literal between quotes, as characters. -/
theorem toList_between (quote inner : String) :
    (quote ++ inner ++ quote).toList = quote.toList ++ (inner.toList ++ quote.toList) := by
  rw [String.toList_append, String.toList_append, List.append_assoc]

/-- Whatever stands between double quotes, its expansion is read as a text. So every
    text is read from each of its spellings, of which there is at least one, and so is
    every character from its spellings between single quotes. -/
theorem read_quoted :
    (∀ s : String, ∃ written : String, Text.Spells written.toList s.toList) ∧
      (∀ written s : String, Text.Spells written.toList s.toList →
        Text.expand written = s ∧ read ("\"" ++ written ++ "\"") = .string s) ∧
      (∀ (written : String) (c : Char), Text.Spells written.toList [c] →
        read ("'" ++ written ++ "'") = .char c) ∧
      ∀ inner : String, read ("\"" ++ inner ++ "\"") = .string (Text.expand inner) := by
  have htext (inner : String) :
      read ("\"" ++ inner ++ "\"") = .string (Text.expand inner) :=
    read_of_doubleQuoted (toList_between "\"" inner)
  refine ⟨fun s => ?_, fun written s h => ?_, fun written c h => ?_, htext⟩
  · rcases Text.exists_spells s.toList with ⟨written, h⟩
    refine ⟨String.ofList written, ?_⟩
    rw [String.toList_ofList]
    exact h
  · have hexpand : Text.expand written = s := by
      rw [Text.expand, Text.expandChars_of_spells h, String.ofList_toList]
    exact ⟨hexpand, by rw [htext, hexpand]⟩
  · exact read_of_singleQuoted (toList_between "'" written) (Text.expandChars_of_spells h)

/-- A text that looks like a literal itself and ends in a backslash and a quote, with
    some of its characters escaped, and a single quote by its escape. -/
theorem read_quoted_mixed :
    Text.Spells "\"4\n\\\\\\\"".toList "\"4\n\\\"".toList ∧
      read ("\"" ++ "\"4\n\\\\\\\"" ++ "\"") = .string "\"4\n\\\"" ∧
      Text.Spells "\\'".toList ['\''] ∧ read ("'" ++ "\\'" ++ "'") = .char '\'' := by
  have hwritten : "\"4\n\\\\\\\"".toList = ['"', '4', '\n', '\\', '\\', '\\', '"'] :=
    String.toList_ofList
  have htext : "\"4\n\\\"".toList = ['"', '4', '\n', '\\', '"'] := String.toList_ofList
  have hquote : "\\'".toList = ['\\', '\''] := String.toList_ofList
  have hspells : Text.Spells "\"4\n\\\\\\\"".toList "\"4\n\\\"".toList := by
    rw [hwritten, htext]
    exact .itself (by decide) (.itself (by decide) (.itself (by decide)
      (.escaped (by decide) (.escaped (by decide) .nil))))
  have hsingle : Text.Spells "\\'".toList ['\''] := by
    rw [hquote]
    exact .escaped (by decide) .nil
  rcases read_quoted with ⟨-, hread, hcharacter, -⟩
  exact ⟨hspells, (hread _ _ hspells).2, hsingle, hcharacter _ _ hsingle⟩

end Literal

end PrintBridge
