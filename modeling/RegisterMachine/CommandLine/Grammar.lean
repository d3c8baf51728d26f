/-!
# Command line grammars

How the words of a command line are divided among options, operands and subcommands.  An option is
complete, and its value is read, when the next option or operand begins or when the words end.
-/

namespace RegisterMachine.CommandLine

/-- Why the words of a command line are not obeyed. -/
inductive Refusal where
  | unknownArgument
  | invalidSubcommand
  | missingSubcommand
  | missingArguments
  | missingRequiredArgument
  | invalidValue
  | valueValidation
  | tooManyValues
  | argumentConflict
  /-- The words ask for help only. -/
  | displayHelp
  /-- The words ask for the version only. -/
  | displayVersion
  deriving DecidableEq

/-- Reads a value into the settings. -/
abbrev Reader (σ : Type) := String → σ → Except Refusal σ

/-- What stands behind the name of an option. -/
inductive OptionForm (σ : Type) where
  | unknown
  /-- The option takes no value. -/
  | flag (apply : σ → Except Refusal σ)
  /-- The option takes one value. -/
  | valued (read : Reader σ)

/-- What the words of a command may be. -/
structure Grammar (σ : Type) where
  long : String → OptionForm σ
  short : Char → OptionForm σ
  operand : Option (Reader σ)
  subcommands : List String

/-- How far the words of a command have been read. -/
structure Progress (σ : Type) where
  settings : σ
  /-- The option or operand that was read last, with its value if that was read too. -/
  pending : Option (Reader σ × Option String)
  /-- The operand that may still come. -/
  operand : Option (Reader σ)
  /-- Whether only operands may follow. -/
  operandsOnly : Bool

namespace Progress

variable {σ : Type}

/-- Completes the option or operand that was read last. -/
def resolve (progress : Progress σ) : Except Refusal (Progress σ) :=
  match progress.pending with
  | none => .ok progress
  | some (_, none) => .error .invalidValue
  | some (read, some value) => do
    return { progress with settings := ← read value progress.settings, pending := none }

/-- Whether the next word may be the value of an option. -/
def awaitsValue (progress : Progress σ) : Bool :=
  match progress.pending with
  | some (_, none) => true
  | _ => false

/-- Begins an option or operand, perhaps with its value. -/
def begin (progress : Progress σ) (read : Reader σ) (value : Option String) :
    Except Refusal (Progress σ) := do
  return { ← progress.resolve with pending := some (read, value) }

/-- Reads an option that has its value attached. -/
def attach (progress : Progress σ) (read : Reader σ) (value : String) :
    Except Refusal (Progress σ) := do
  (← progress.begin read (some value)).resolve

/-- Reads an option that takes no value. -/
def raise (progress : Progress σ) (apply : σ → Except Refusal σ) :
    Except Refusal (Progress σ) := do
  let progress ← progress.resolve
  return { progress with settings := ← apply progress.settings }

end Progress

namespace Grammar

variable {σ : Type}

/-- Reads a word that begins with two hyphens, without these. -/
def takeLong (grammar : Grammar σ) (word : List Char) (progress : Progress σ) :
    Except Refusal (Progress σ) :=
  let name := String.ofList (word.takeWhile (· != '='))
  match grammar.long name, word.dropWhile (· != '=') with
  | .unknown, _ => .error .unknownArgument
  | .flag apply, [] => progress.raise apply
  | .flag _, _ :: _ => .error .tooManyValues
  | .valued read, [] => progress.begin read none
  | .valued read, _ :: value => progress.attach read (String.ofList value)

/-- Reads a word that begins with one hyphen, without this.  Options without value may stand
together, and what follows the name of an option with value is its value. -/
def takeShort (grammar : Grammar σ) : List Char → Progress σ → Except Refusal (Progress σ)
  | [], progress => .ok progress
  | name :: rest, progress =>
    match grammar.short name with
    | .unknown => .error .unknownArgument
    | .flag apply => do grammar.takeShort rest (← progress.raise apply)
    | .valued read =>
      match rest with
      | [] => progress.begin read none
      | '=' :: value => progress.attach read (String.ofList value)
      | value => progress.attach read (String.ofList value)

/-- Reads an operand. -/
def takeOperand (grammar : Grammar σ) (word : String) (progress : Progress σ) :
    Except Refusal (Progress σ) :=
  match progress.operand with
  | some read => ({ progress with operand := none }).begin read (some word)
  | none =>
    if grammar.subcommands.isEmpty then .error .unknownArgument
    else if progress.operandsOnly && grammar.subcommands.contains word then
      .error .unknownArgument
    else .error .invalidSubcommand

/-- Reads a word that is not a subcommand. -/
def take (grammar : Grammar σ) (word : String) (progress : Progress σ) :
    Except Refusal (Progress σ) :=
  if progress.operandsOnly then grammar.takeOperand word progress
  else
    match word.toList with
    | ['-', '-'] => .ok { progress with operandsOnly := true }
    | '-' :: '-' :: name => grammar.takeLong name progress
    | '-' :: first :: names => grammar.takeShort (first :: names) progress
    | _ =>
      match progress.pending with
      | some (read, none) => .ok { progress with pending := some (read, some word) }
      | _ => grammar.takeOperand word progress

/-- Reads words up to the first subcommand.  The answer has the subcommand and the words behind
it. -/
def scan (grammar : Grammar σ) :
    List String → Progress σ → Except Refusal (Progress σ × Option (String × List String))
  | [], progress => .ok (progress, none)
  | word :: rest, progress =>
    if !progress.operandsOnly && !progress.awaitsValue && grammar.subcommands.contains word then
      .ok (progress, some (word, rest))
    else do
      grammar.scan rest (← grammar.take word progress)

/-- The progress before the first word. -/
def start (grammar : Grammar σ) (settings : σ) : Progress σ where
  settings := settings
  pending := none
  operand := grammar.operand
  operandsOnly := false

/-- Reads the words of a command without subcommands. -/
def read (grammar : Grammar σ) (settings : σ) (words : List String) : Except Refusal σ := do
  let (progress, _) ← grammar.scan words (grammar.start settings)
  return (← progress.resolve).settings

end Grammar

end RegisterMachine.CommandLine
