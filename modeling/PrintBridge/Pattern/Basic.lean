import PrintBridge.Pattern.Grammar
import PrintBridge.Pattern.Meaning
import PrintBridge.Pattern.Size

/-!
# Patterns

A pattern is a regular expression, written as text. It says which texts it
occurs in. Preparing one for searching can fail for three reasons, which are
looked for in this order: it is not well formed or asks for what is not known,
it is too large, or it asks about words of all scripts.

## Main definitions

* `Pattern`: A pattern that can be searched for.
* `Refusal`: Why there is no such pattern.
* `Pattern.ofText`: The pattern that a text says.
* `Pattern.occursIn`: Whether a pattern occurs in a text.
-/

namespace PrintBridge

/-- A pattern that can be searched for. -/
structure Pattern where
  expression : Pattern.Expression
deriving DecidableEq

namespace Pattern

/-- Why a text is no pattern that can be searched for. -/
inductive Refusal where
  | complaint (complaint : Complaint)
  | tooLarge
  | undecided
deriving DecidableEq

/-- A refusal of a pattern in words. -/
def Refusal.text (pattern : String) : Refusal → String
  | complaint c => c.text pattern
  | tooLarge => "Compiled regex exceeds size limit of " ++ sizeLimit.repr ++ " bytes."
  | undecided => "error building NFA"

/-- The pattern that a text says. -/
def ofText (text : String) : Except Refusal Pattern := do
  let tree ← (Tree.read text).mapError .complaint
  let (expression, _) ← (tree.meaning {}).mapError .complaint
  if sizeLimit < expression.size then .error .tooLarge
  else if expression.decided then .ok ⟨expression⟩
  else .error .undecided

/-- Whether a pattern occurs in a text. -/
def occursIn (p : Pattern) (text : String) : Bool := p.expression.occursIn text.toList

end Pattern

end PrintBridge
