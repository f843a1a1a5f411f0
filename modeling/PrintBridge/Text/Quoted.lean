import PrintBridge.Text.Printable

/-!
# Quoted Text

Text between double quotes, unambiguous on one line. The quote, the backslash
and four controls have short escapes, and every other character that does not
show itself is given by its code point in braces. A single quote stands as it
is.

## Main definitions

* `shortEscape?`: The characters with short escapes.
* `quoteChar`: A character between quotes.
* `quote`: A text between quotes.
-/

namespace PrintBridge

namespace Text

/-- The character that stands behind the backslash in a short escape. -/
def shortEscape? : Char → Option Char
  | '\x00' => some '0'
  | '\t' => some 't'
  | '\r' => some 'r'
  | '\n' => some 'n'
  | '"' => some '"'
  | '\\' => some '\\'
  | _ => none

/-- A character as it stands between quotes. -/
def quoteChar (c : Char) : List Char :=
  match shortEscape? c with
  | some e => ['\\', e]
  | none =>
    if showsItself c then [c]
    else ['\\', 'u', '\x7b'] ++ Nat.toDigits 16 c.toNat ++ ['\x7d']

/-- A text between quotes. -/
def quote (s : String) : String :=
  String.ofList ('"' :: s.toList.flatMap quoteChar ++ ['"'])

end Text

end PrintBridge
