import PrintBridge.Number.Numeral

/-!
# Lexemes of TOML

Blanks, line ends, comments, keys and strings. A reader takes characters from
the front and gives what it read with the characters that are left, or
nothing if they do not begin with what it reads.

Text may hold a tab, and no other control. A line ends with a newline that
may have a carriage return before it; a carriage return on its own is never
allowed. Inside strings of several lines the two are taken for one newline.

## Main definitions

* `Reader`: Readers.
* `blanks`, `lineEnd?`, `afterValue?`, `gaps`: What stands between lexemes.
* `key?`: A dotted key.
* `string?`: A string in any of its four forms.
-/

namespace PrintBridge

namespace Toml

/-- Takes characters from the front. -/
abbrev Reader (α : Type) := List Char → Option (α × List Char)

/-- A blank within a line. -/
def isBlankChar (c : Char) : Bool := c == ' ' || c == '\t'

/-- What is left behind blanks. -/
def blanks (cs : List Char) : List Char := cs.dropWhile isBlankChar

/-- A character that comments and strings may hold as it is. -/
def isPlain (c : Char) : Bool := c == '\t' || (decide (' ' ≤ c) && c != '\x7f')

/-- What is left behind a line end. -/
def lineEnd? : List Char → Option (List Char)
  | '\n' :: rest => some rest
  | '\r' :: '\n' :: rest => some rest
  | _ => none

/-- What is left behind a comment, if one stands here. -/
def comment (cs : List Char) : List Char :=
  match cs with
  | '#' :: rest => rest.dropWhile isPlain
  | _ => cs

/-- What is left behind the line that a value or a header ends. -/
def afterValue? (cs : List Char) : Option (List Char) :=
  match comment (blanks cs) with
  | [] => some []
  | rest => lineEnd? rest

/-- What is left behind blanks, comments and line ends, as they may stand
    within an array. The first argument tells whether a comment is open. -/
def gapsFrom (inComment : Bool) : List Char → List Char
  | [] => []
  | '\n' :: rest => gapsFrom false rest
  | '\r' :: '\n' :: rest => gapsFrom false rest
  | c :: rest =>
    if inComment then if isPlain c then gapsFrom true rest else c :: rest
    else if isBlankChar c then gapsFrom false rest
    else if c = '#' then gapsFrom true rest
    else c :: rest

/-- What is left behind blanks, comments and line ends. -/
def gaps (cs : List Char) : List Char := gapsFrom false cs

/-! Strings. -/

/-- The character that a one-letter escape stands for. -/
def letterEscape? : Char → Option Char
  | 'b' => some '\x08'
  | 't' => some '\t'
  | 'n' => some '\n'
  | 'f' => some '\x0c'
  | 'r' => some '\r'
  | '"' => some '"'
  | '\\' => some '\\'
  | _ => none

/-- The character that hexadecimal digits name, surrogates excepted. -/
def scalar? (digits : List Char) : Option Char :=
  (Numeral.natural? 16 digits).bind fun code =>
    if h : code.isValidChar then some (Char.ofNatAux code h) else none

/-- The character of an escape behind its backslash. -/
def escape? : Reader Char
  | 'u' :: a :: b :: c :: d :: rest => (scalar? [a, b, c, d]).map (·, rest)
  | 'U' :: a :: b :: c :: d :: e :: f :: g :: h :: rest =>
    (scalar? [a, b, c, d, e, f, g, h]).map (·, rest)
  | c :: rest => (letterEscape? c).map (·, rest)
  | [] => none

theorem escape?_length {cs : List Char} {r : Char × List Char} (h : escape? cs = some r) :
    r.2.length < cs.length := by
  unfold escape? at h
  split at h
  · rcases Option.map_eq_some_iff.1 h with ⟨_, _, rfl⟩
    simp only [List.length_cons]
    omega
  · rcases Option.map_eq_some_iff.1 h with ⟨_, _, rfl⟩
    simp only [List.length_cons]
    omega
  · rcases Option.map_eq_some_iff.1 h with ⟨_, _, rfl⟩
    exact Nat.lt_succ_self _
  · exact absurd h (by simp only [reduceCtorEq, not_false_eq_true])

/-- Puts a character before what a reader of characters has read. -/
def before (c : Char) (r : Option (List Char × List Char)) : Option (List Char × List Char) :=
  r.map fun p => (c :: p.1, p.2)

/-- The rest of a string on one line, escapes expanded. -/
def basicBody? : Reader (List Char)
  | [] => none
  | c :: rest =>
    if c = '"' then some ([], rest)
    else if c = '\\' then
      match h : escape? rest with
      | none => none
      | some (image, after) =>
        have := escape?_length h
        before image (basicBody? after)
    else if isPlain c then before c (basicBody? rest)
    else none
termination_by cs => cs.length
decreasing_by
  all_goals simp only [List.length_cons] at *; omega

/-- The rest of a literal string on one line. -/
def literalBody? : Reader (List Char)
  | [] => none
  | c :: rest =>
    if c = '\'' then some ([], rest)
    else if isPlain c then before c (literalBody? rest)
    else none

/-- The quotes at the end of a string of several lines: the three that close
    it, after at most two that belong to it. -/
def closing? (quote : Char) : Reader (List Char)
  | a :: b :: c :: rest =>
    if a = quote ∧ b = quote ∧ c = quote then
      match rest with
      | d :: e :: after =>
        if d = quote then if e = quote then some ([quote, quote], after) else some ([quote], e :: after)
        else some ([], rest)
      | [d] => if d = quote then some ([quote], []) else some ([], rest)
      | [] => some ([], [])
    else none
  | _ => none

/-- Whether only blanks stand before the end of the line. -/
def opensGap (cs : List Char) : Bool := (lineEnd? (blanks cs)).isSome

/-- The rest of a string of several lines, escapes expanded. A backslash at
    the end of a line takes away the line end and all blanks and line ends
    behind it; `inGap` tells whether that is going on. -/
def longBasicBody? (inGap : Bool) : Reader (List Char)
  | [] => none
  | c :: rest =>
    match closing? '"' (c :: rest) with
    | some done => some done
    | none =>
      if c = '\\' then
        if opensGap rest then longBasicBody? true rest
        else
          match h : escape? rest with
          | none => none
          | some (image, after) =>
            have := escape?_length h
            before image (longBasicBody? false after)
      else if inGap && (isBlankChar c || c == '\n') then longBasicBody? true rest
      else if c = '\n' then before '\n' (longBasicBody? false rest)
      else if c = '\r' then
        if rest.head? = some '\n' then longBasicBody? inGap rest else none
      else if isPlain c then before c (longBasicBody? false rest)
      else none
termination_by cs => cs.length
decreasing_by
  all_goals simp only [List.length_cons] at *; omega

/-- The rest of a literal string of several lines. -/
def longLiteralBody? : Reader (List Char)
  | [] => none
  | c :: rest =>
    match closing? '\'' (c :: rest) with
    | some done => some done
    | none =>
      if c = '\r' then
        if rest.head? = some '\n' then longLiteralBody? rest else none
      else if c = '\n' ∨ isPlain c then before c (longLiteralBody? rest)
      else none

/-- What is left behind a line end, if one stands here. -/
def skipLineEnd (cs : List Char) : List Char := (lineEnd? cs).getD cs

/-- A string in any of its four forms. A line end right behind the opening
    quotes of a string of several lines does not belong to it. -/
def string? (cs : List Char) : Option (String × List Char) :=
  let body : Option (List Char × List Char) := match cs with
    | '"' :: '"' :: '"' :: rest => longBasicBody? false (skipLineEnd rest)
    | '"' :: rest => basicBody? rest
    | '\'' :: '\'' :: '\'' :: rest => longLiteralBody? (skipLineEnd rest)
    | '\'' :: rest => literalBody? rest
    | _ => none
  body.map fun p => (String.ofList p.1, p.2)

/-! Keys. -/

/-- A character of a key without quotes. -/
def isBare (c : Char) : Bool := c.isAlphanum || c == '_' || c == '-'

/-- One part of a key: without quotes, or as a string on one line. -/
def keyPart? (cs : List Char) : Option (String × List Char) :=
  match cs with
  | '"' :: rest => (basicBody? rest).map fun p => (String.ofList p.1, p.2)
  | '\'' :: rest => (literalBody? rest).map fun p => (String.ofList p.1, p.2)
  | _ =>
    let part := cs.takeWhile isBare
    if part.isEmpty then none else some (String.ofList part, cs.dropWhile isBare)

/-- The parts of a key with dots between them and blanks around them, no more
    than a limit. -/
def keyParts? : Nat → Reader (List String)
  | 0, _ => none
  | limit + 1, cs =>
    match keyPart? (blanks cs) with
    | none => none
    | some (part, rest) =>
      match blanks rest with
      | '.' :: more => (keyParts? limit more).map fun p => (part :: p.1, p.2)
      | rest => some ([part], rest)

/-- One more than the parts that a key can have, and than the arrays and
    inline tables that can stand in each other. -/
def nestingLimit : Nat := 80

/-- A key: the path to it and its last part. -/
def key? (cs : List Char) : Option ((List String × String) × List Char) :=
  (keyParts? (nestingLimit - 1) cs).bind fun p =>
    p.1.getLast?.map fun last => ((p.1.dropLast, last), p.2)

end Toml

end PrintBridge
