import RegisterMachine.CommandLine.Values
import RegisterMachine.Demo.Basic

/-!
# Arguments

The options and commands of the program:

* `--program-size`, `--data-size`, `--max-steps`, `-f` or `--format` and `-t` or `--trace` before
  the command;
* `demo` with the name of a demo and the options `--fib`, `--fact` and `--list`;
* `run` with the name of a listing;
* `help` with the name of a command.
-/

namespace RegisterMachine.CommandLine

inductive Format where
  | text
  | json
  deriving DecidableEq

/-- The options before the command, as far as they were given. -/
structure GeneralOptions where
  programSize : Option Nat
  dataSize : Option Nat
  maxSteps : Option Nat
  format : Option Format
  trace : Bool
  deriving DecidableEq

/-- The options and the operand of `demo`, as far as they were given. -/
structure DemoOptions where
  choice : Option Demo.Choice
  fibonacci : Option Word
  factorial : Option Word
  list : Option (List Word)
  deriving DecidableEq

inductive Command where
  | demo (choice : Demo.Choice) (inputs : Demo.Inputs)
  | run (path : String)
  deriving DecidableEq

/-- What a command line asks for. -/
structure Invocation where
  programSize : Nat
  dataSize : Nat
  settings : RunSettings
  format : Format
  command : Command
  deriving DecidableEq

def GeneralOptions.initial : GeneralOptions :=
  ⟨none, none, none, none, false⟩

def DemoOptions.initial : DemoOptions :=
  ⟨none, none, none, none⟩

/-! ## Grammars -/

def formatNames : List (String × Format) :=
  [("text", .text), ("json", .json)]

def choiceNames : List (String × Demo.Choice) :=
  [("fibonacci", .only .fibonacci), ("factorial", .only .factorial), ("sum", .only .sum),
    ("all", .all)]

def readFormat : Reader GeneralOptions := fun text options => do
  return { options with format := ← fillOnce options.format (readName formatNames) text }

def raiseTrace (options : GeneralOptions) : Except Refusal GeneralOptions :=
  if options.trace then .error .argumentConflict else .ok { options with trace := true }

def generalLong (name : String) : OptionForm GeneralOptions :=
  if name = "program-size" then
    .valued fun text options => do
      return { options with programSize := ← fillOnce options.programSize readCount text }
  else if name = "data-size" then
    .valued fun text options => do
      return { options with dataSize := ← fillOnce options.dataSize readCount text }
  else if name = "max-steps" then
    .valued fun text options => do
      return { options with maxSteps := ← fillOnce options.maxSteps readCount text }
  else if name = "format" then .valued readFormat
  else if name = "trace" then .flag raiseTrace
  else if name = "help" then .flag fun _ => .error .displayHelp
  else if name = "version" then .flag fun _ => .error .displayVersion
  else .unknown

def generalShort (name : Char) : OptionForm GeneralOptions :=
  if name = 'f' then .valued readFormat
  else if name = 't' then .flag raiseTrace
  else if name = 'h' then .flag fun _ => .error .displayHelp
  else if name = 'V' then .flag fun _ => .error .displayVersion
  else .unknown

def commandNames : List String :=
  ["demo", "run", "help"]

def generalGrammar : Grammar GeneralOptions where
  long := generalLong
  short := generalShort
  operand := none
  subcommands := commandNames

/-- Help is the only option with a short name behind a command. -/
def helpShort {σ : Type} (name : Char) : OptionForm σ :=
  if name = 'h' then .flag fun _ => .error .displayHelp else .unknown

def demoLong (name : String) : OptionForm DemoOptions :=
  if name = "fib" then
    .valued fun text options => do
      return { options with fibonacci := ← fillOnce options.fibonacci readWord text }
  else if name = "fact" then
    .valued fun text options => do
      return { options with factorial := ← fillOnce options.factorial readWord text }
  else if name = "list" then
    .valued fun text options => do
      return { options with list := some (options.list.getD [] ++ (← readWords text)) }
  else if name = "help" then .flag fun _ => .error .displayHelp
  else .unknown

def demoGrammar : Grammar DemoOptions where
  long := demoLong
  short := helpShort
  operand := some fun text options => do
    return { options with choice := some (← readName choiceNames text) }
  subcommands := []

def runGrammar : Grammar (Option String) where
  long := fun name => if name = "help" then .flag fun _ => .error .displayHelp else .unknown
  short := helpShort
  operand := some fun text _ => do return some (← readPath text)
  subcommands := []

/-! ## Reading the command line -/

def readDemo (words : List String) : Except Refusal Command := do
  let options ← demoGrammar.read DemoOptions.initial words
  return .demo (options.choice.getD .all)
    ⟨options.fibonacci.getD 6, options.factorial.getD 5, options.list.getD [10, 20, 30, 40]⟩

def readRun (words : List String) : Except Refusal Command := do
  match ← runGrammar.read none words with
  | some path => return .run path
  | none => throw .missingRequiredArgument

/-- Help for a command, if the words name one. -/
def readHelp (words : List String) : Refusal :=
  match words with
  | [] => .displayHelp
  | [name] => if commandNames.contains name then .displayHelp else .invalidSubcommand
  | _ => .invalidSubcommand

def readCommand (name : String) (words : List String) : Except Refusal Command :=
  if name = "demo" then readDemo words
  else if name = "run" then readRun words
  else .error (readHelp words)

/-- Reads a command line, without the name of the program.  Errors of the command come before those
of an option that stands unfinished before it. -/
def readArguments (words : List String) : Except Refusal Invocation := do
  let (progress, command) ← generalGrammar.scan words (generalGrammar.start GeneralOptions.initial)
  match command with
  | some (name, rest) =>
    let command ← readCommand name rest
    let options := (← progress.resolve).settings
    return {
      programSize := options.programSize.getD Machine.defaultCapacity
      dataSize := options.dataSize.getD Machine.defaultDataSize
      settings := ⟨options.maxSteps, options.trace⟩
      format := options.format.getD .text
      command := command }
  | none =>
    let options := (← progress.resolve).settings
    if options = GeneralOptions.initial then throw .missingArguments else throw .missingSubcommand

end RegisterMachine.CommandLine
