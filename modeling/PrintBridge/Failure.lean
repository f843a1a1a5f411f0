import PrintBridge.Slot.Representation

/-!
# Failures

Why a call can fail. A call is refused for the number of its arguments, an
argument or the format cannot be lowered, or the native side fails: the
routine cannot be found, it does not render, or the output does not accept
what was rendered. Failures of the native side are passed on with the words
that they came with.

## Main definitions

* `MarshalError`, `LoadError`, `RenderError`, `NativeError`: The failures of
  each stage.
* `PrintError`: The failure of a call.
* `message`: The text of each of them.
* `PrintError.causes`: The texts of what lies behind a failure.
-/

namespace PrintBridge

/-- Why an argument or the format cannot be lowered. -/
inductive MarshalError where
  /-- The argument at `index` has a type that no slot holds. -/
  | slotMismatch (index : Nat) (kind : Kind) (type : CType)
  /-- A text that cannot be a C string. -/
  | invalidString (reason : String)
deriving DecidableEq

/-- The text of a lowering failure. -/
def MarshalError.message : MarshalError → String
  | slotMismatch index kind type =>
    "argument " ++ index.repr ++ " of type " ++ kind.name ++ " (" ++ type.name
      ++ ") cannot be passed in a word slot"
  | invalidString reason => "invalid string: " ++ reason

/-- A text with a NUL byte inside, the first of them at the given byte. -/
def MarshalError.nulAt (position : Nat) : MarshalError :=
  .invalidString ("string contains a NUL byte at position " ++ position.repr)

/-- Why the native routine cannot be found. -/
inductive LoadError where
  | libraryNotFound (name : String)
  | symbolNotFound (library symbol : String)
  | loadFailed (reason : String)
deriving DecidableEq

/-- The text of a search failure. -/
def LoadError.message : LoadError → String
  | libraryNotFound name => "library not found: " ++ name
  | symbolNotFound library symbol => "symbol '" ++ symbol ++ "' not found in " ++ library
  | loadFailed reason => "failed to load library: " ++ reason

/-- Why the native routine did not render. -/
inductive RenderError where
  /-- The routine answered with a negative code. -/
  | failed (code : Int32)
  /-- The two passes of the routine disagree on the length. -/
  | lengthChanged (measured written : Nat)
deriving DecidableEq

/-- The text of a rendering failure. -/
def RenderError.message : RenderError → String
  | failed code => "native routine returned " ++ code.toInt.repr
  | lengthChanged measured written =>
    "native routine measured " ++ measured.repr ++ " bytes but rendered " ++ written.repr

/-- A failure of the native side. -/
inductive NativeError where
  | load (error : LoadError)
  | render (error : RenderError)
  /-- The output did not accept what was rendered. -/
  | output (reason : String)
deriving DecidableEq

/-- The text of a native failure. -/
def NativeError.message : NativeError → String
  | load error => error.message
  | render error => error.message
  | output reason => "write to output failed: " ++ reason

/-- The failure of a call. -/
inductive PrintError where
  | unsupportedArity (count limit : Nat)
  | marshalling (error : MarshalError)
  | native (error : NativeError)
deriving DecidableEq

namespace PrintError

/-- The text of a failure. -/
def message : PrintError → String
  | unsupportedArity count limit =>
    "unsupported arity: " ++ count.repr ++ " arguments, the bridge accepts at most "
      ++ limit.repr
  | marshalling error => "marshalling error: " ++ error.message
  | native error => "native error: " ++ error.message

/-- The texts of what lies behind a failure, outermost first. A native
    failure names its stage once more before the failure of that stage. -/
def causes : PrintError → List String
  | unsupportedArity _ _ => []
  | marshalling error => [error.message]
  | native error =>
    [error.message,
      match error with
      | .load inner => inner.message
      | .render inner => inner.message
      | .output reason => reason]

end PrintError

end PrintBridge
