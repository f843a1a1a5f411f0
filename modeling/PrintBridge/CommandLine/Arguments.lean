import PrintBridge.Number.Numeral
import PrintBridge.Path

/-!
# Command-Line Arguments

What the arguments of the program ask for. They are read one after the other:
flags of the program, a subcommand, then flags and operands of the
subcommand. Arguments are bytes, and every operand has to be a text.

Flags are recognised before and after the subcommand, until two dashes or the
first argument behind a format make everything that follows an operand. A
flag of the subcommand counts for more than the same flag of the program, and
no flag but that for verbosity is given twice on one level. What looks like a
flag and is none is an operand where the subcommand waits for text, and a
misuse elsewhere.

The value of a flag is looked at when the next flag or operand of its level
is read, so the version of a subcommand can be asked for behind a value that
would not do.

## Main definitions

* `Token`: What an argument looks like.
* `Reading`: What has been read so far.
* `Reading.take`: Reading one more argument.
* `Invocation`: What the arguments ask for.
* `Invocation.read`: Reading all of them.

## Theorems

* `takeAll_append`: Reading goes on where it stopped.
-/

namespace PrintBridge

namespace CommandLine

/-- The subcommands. -/
inductive Subcommand where
  | printf
  | println
  | entry
deriving DecidableEq

namespace Subcommand

/-- The name of a subcommand. -/
def name : Subcommand → String
  | printf => "printf"
  | println => "println"
  | entry => "entry"

/-- The subcommand with a name. -/
def ofName? (bytes : Bytes) : Option Subcommand :=
  [printf, println, entry].find? fun c => Utf8.encode c.name == bytes

end Subcommand

/-- What can be given on both levels. -/
inductive Flag where
  | config
  | verbose
  | trace
  | stderr
  | help
  | version
deriving DecidableEq

namespace Flag

/-- The flags by their long names. -/
def named : List (String × Flag) :=
  [("config", config), ("verbose", verbose), ("trace", trace), ("stderr", stderr),
    ("help", help), ("version", version)]

/-- The flags that also have letters. -/
def lettered : List (Char × Flag) := [('v', verbose), ('h', help), ('V', version)]

/-- The flag with a long name. -/
def ofName? (bytes : Bytes) : Option Flag :=
  (named.find? fun f => Utf8.encode f.1 == bytes).map Prod.snd

/-- The flag with a letter. -/
def ofLetter? (letter : UInt8) : Option Flag :=
  (lettered.find? fun f => f.1.toNat == letter.toNat).map Prod.snd

end Flag

/-- What an argument looks like. -/
inductive Token where
  /-- Two dashes. -/
  | terminator
  /-- Two dashes and a name, with or without a value behind an equals sign. -/
  | long (name : Bytes) (value : Option Bytes)
  /-- A dash and letters. -/
  | letters (letters : Bytes)
  | word
deriving DecidableEq

namespace Token

/-- The byte that flags begin with. -/
def dash : UInt8 := 45

/-- The byte between a flag and its value. -/
def equals : UInt8 := 61

/-- What an argument looks like. A lone dash is a word. -/
def ofBytes : Bytes → Token
  | [] => .word
  | a :: rest =>
    if a ≠ dash then .word
    else match rest with
      | [] => .word
      | b :: tail =>
        if b ≠ dash then .letters rest
        else if tail = [] then .terminator
        else
          let name := tail.takeWhile (· != equals)
          match tail.dropWhile (· != equals) with
          | [] => .long name none
          | _ :: value => .long name (some value)

end Token

/-- The flags that one level was given. -/
structure Flags where
  /-- The values for the settings file, in order. -/
  configs : List Bytes := []
  verbosity : Nat := 0
  trace : Bool := false
  stderr : Bool := false
deriving DecidableEq

/-- Whether the values that were given will do: one at most, and not empty. -/
def Flags.settled (f : Flags) : Bool := f.configs.length ≤ 1 && f.configs.all fun v => v != []

/-- The flags in effect. -/
structure Options where
  /-- The settings file, if one is named. -/
  config : Option Path := none
  verbosity : Nat := 0
  /-- Whether calls of entry points are logged. -/
  trace : Bool := false
  /-- Whether everything is printed to the error stream. -/
  stderr : Bool := false
deriving DecidableEq

/-- The flags in effect, when those of the subcommand stand over those of the
    program. -/
def Options.ofFlags (program subcommand : Flags) : Options where
  config := (subcommand.configs.head?.or program.configs.head?).map Path.mk
  verbosity := if subcommand.verbosity = 0 then program.verbosity else subcommand.verbosity
  trace := program.trace || subcommand.trace
  stderr := program.stderr || subcommand.stderr

/-- What the program is asked to do. -/
inductive Command where
  | printf (format : String) (args : List String)
  | println (text : String)
  | entry (count : Option Nat)
deriving DecidableEq

/-- What the arguments ask for. -/
structure Invocation where
  options : Options
  command : Command
deriving DecidableEq

/-- Why the arguments do not ask for a command. -/
inductive Ending where
  | misuse
  | help
  /-- The version was asked for, of the program or of a subcommand. -/
  | version (of : Option Subcommand)
deriving DecidableEq

/-- The level that is being read. -/
inductive Scope where
  | program
  | subcommand (c : Subcommand)
  | help
deriving DecidableEq

/-- What has been read so far. -/
structure Reading where
  scope : Scope := .program
  /-- The flags of the program, once a subcommand is being read. -/
  outer : Flags := {}
  /-- The flags of the level that is being read. -/
  flags : Flags := {}
  operands : List String := []
  /-- Whether the next argument is the value of a flag. -/
  awaiting : Bool := false
  /-- Whether only operands follow. -/
  operandsOnly : Bool := false
deriving DecidableEq

/-- The count that a text denotes, with or without a plus sign, if a word of
    64 bits holds it. -/
def count? (s : String) : Option Nat :=
  (Numeral.plusNatural? 10 s.toList).filter (· < twoTo 64)

namespace Reading

/-- Whether a text would be an operand although it begins with a dash. -/
def takesDashes (r : Reading) : Bool :=
  match r.scope with
  | .subcommand .printf => true
  | .subcommand .println => r.operands.isEmpty
  | _ => false

/-- Takes a flag, with the value behind its equals sign. -/
def takeFlag (r : Reading) (flag : Flag) (value : Option Bytes) : Except Ending Reading :=
  if r.awaiting || !r.flags.settled then .error .misuse
  else match flag, value with
    | .config, none => .ok { r with awaiting := true }
    | .config, some v =>
      let flags := { r.flags with configs := r.flags.configs ++ [v] }
      if flags.settled then .ok { r with flags := flags } else .error .misuse
    | _, some _ => .error .misuse
    | .verbose, none =>
      .ok { r with flags := { r.flags with verbosity := r.flags.verbosity + 1 } }
    | .trace, none =>
      if r.flags.trace then .error .misuse
      else .ok { r with flags := { r.flags with trace := true } }
    | .stderr, none =>
      if r.flags.stderr then .error .misuse
      else .ok { r with flags := { r.flags with stderr := true } }
    | .help, none => .error .help
    | .version, none =>
      .error (.version (match r.scope with
        | .subcommand c => some c
        | _ => none))

/-- Takes the letters behind one dash, in order. -/
def takeLetters (r : Reading) : Bytes → Except Ending Reading
  | [] => .ok r
  | letter :: rest =>
    match Flag.ofLetter? letter with
    | none => .error .misuse
    | some flag => (r.takeFlag flag none).bind fun next => takeLetters next rest

/-- The name under which help on a subcommand is found. -/
def helpName : String := "help"

/-- Takes the word that names a subcommand. -/
def takeName (r : Reading) (bytes : Bytes) : Except Ending Reading :=
  if r.operandsOnly then .error .misuse
  else match Subcommand.ofName? bytes with
    | some c => .ok { scope := .subcommand c, outer := r.flags }
    | none =>
      if bytes = Utf8.encode helpName then .ok { scope := .help, operandsOnly := true }
      else .error .misuse

/-- Takes an operand of a subcommand. The first operand behind a format makes
    operands of all that follow. -/
def takeOperand (r : Reading) (c : Subcommand) (text : String) : Except Ending Reading :=
  let taken := { r with operands := r.operands ++ [text] }
  if !r.flags.settled then .error .misuse
  else match c with
    | .printf => .ok { taken with operandsOnly := r.operandsOnly || !r.operands.isEmpty }
    | .println => if r.operands.isEmpty then .ok taken else .error .misuse
    | .entry =>
      if r.operands.isEmpty && (count? text).isSome then .ok taken else .error .misuse

/-- Takes an argument that is no flag. -/
def takeWord (r : Reading) (bytes : Bytes) : Except Ending Reading :=
  if r.awaiting then
    .ok { r with
      awaiting := false
      flags := { r.flags with configs := r.flags.configs ++ [bytes] } }
  else match r.scope, Utf8.decode? bytes with
    | .program, _ => r.takeName bytes
    | _, none => .error .misuse
    | .help, some text => .ok { r with operands := r.operands ++ [text] }
    | .subcommand c, some text => r.takeOperand c text

/-- Takes one more argument. -/
def take (r : Reading) (bytes : Bytes) : Except Ending Reading :=
  if r.operandsOnly then r.takeWord bytes
  else match Token.ofBytes bytes with
    | .word => r.takeWord bytes
    | .terminator =>
      if r.awaiting then .error .misuse else .ok { r with operandsOnly := true }
    | .long name value =>
      match Flag.ofName? name with
      | some flag => r.takeFlag flag value
      | none =>
        if r.takesDashes && (Utf8.decode? name).isSome then r.takeWord bytes
        else .error .misuse
    | .letters letters =>
      if r.takesDashes && letters.any fun l => (Flag.ofLetter? l).isNone then r.takeWord bytes
      else r.takeLetters letters

/-- Takes several arguments, up to the first that ends the reading. -/
def takeAll (r : Reading) (args : List Bytes) : Except Ending Reading := args.foldlM take r

/-- What has been asked for when there are no more arguments. -/
def finish (r : Reading) : Except Ending Invocation :=
  let options := Options.ofFlags r.outer r.flags
  let named := helpName :: [Subcommand.printf, .println, .entry].map Subcommand.name
  if r.awaiting || !r.outer.settled || !r.flags.settled then .error .misuse
  else match r.scope, r.operands with
    | .help, [] => .error .help
    | .help, [name] => .error (if name ∈ named then .help else .misuse)
    | .subcommand .printf, format :: args => .ok ⟨options, .printf format args⟩
    | .subcommand .println, [text] => .ok ⟨options, .println text⟩
    | .subcommand .entry, [] => .ok ⟨options, .entry none⟩
    | .subcommand .entry, [count] => .ok ⟨options, .entry (count? count)⟩
    | _, _ => .error .misuse

theorem takeAll_append (r : Reading) (xs ys : List Bytes) :
    r.takeAll (xs ++ ys) = (r.takeAll xs).bind fun next => next.takeAll ys := by
  simp only [takeAll, List.foldlM_append]
  rfl

end Reading

/-- What arguments ask for. -/
def Invocation.read (args : List Bytes) : Except Ending Invocation :=
  (Reading.takeAll {} args).bind Reading.finish

end CommandLine

end PrintBridge
