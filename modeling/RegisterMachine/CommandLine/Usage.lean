import RegisterMachine.CommandLine.Response

/-!
# Usage

What is written when a command line is not obeyed, or asks only for help or for the version.
-/

namespace RegisterMachine.CommandLine

def version : String :=
  "Register VM Runner v0.1.0\n"

def usage : String :=
  "Usage: runner [OPTIONS] <COMMAND>\n\n" ++
    "Commands:\n" ++
    "  demo [fibonacci|factorial|sum|all] [--fib N] [--fact N] [--list N,...]\n" ++
    "  run <LISTING>\n" ++
    "  help [COMMAND]\n\n" ++
    "Options:\n" ++
    "      --program-size N    Program memory capacity (informational)\n" ++
    "      --data-size N       Number of data memory cells\n" ++
    "      --max-steps N       Stop after this many instructions\n" ++
    "  -f, --format text|json  Output format\n" ++
    "  -t, --trace             Print every executed instruction\n" ++
    "  -h, --help              Print help\n" ++
    "  -V, --version           Print version\n"

def Refusal.message : Refusal → String
  | unknownArgument => "unexpected argument"
  | invalidSubcommand => "unknown command"
  | missingSubcommand => "a command is required"
  | missingArguments => "arguments are required"
  | missingRequiredArgument => "a required argument is missing"
  | invalidValue => "a value is missing or not one of the possible values"
  | valueValidation => "a value is not a number in range"
  | tooManyValues => "an option takes no value"
  | argumentConflict => "an option is given more than once"
  | displayHelp => "help"
  | displayVersion => "version"

/-- What is written instead of running anything. -/
def Refusal.response (refusal : Refusal) : Response :=
  match refusal with
  | displayHelp => ⟨0, usage, ""⟩
  | displayVersion => ⟨0, version, ""⟩
  | missingArguments => ⟨2, "", usage⟩
  | _ => ⟨2, "", "error: " ++ refusal.message ++ "\n\n" ++ usage⟩

end RegisterMachine.CommandLine
