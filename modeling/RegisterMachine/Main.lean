import RegisterMachine.CommandLine.Usage

/-!
# The program

Reads the arguments and the listing that they name, and writes the response.
-/

namespace RegisterMachine.CommandLine

/-- What a failed attempt to read a file says about it. -/
def FileContent.ofError (error : IO.Error) : FileContent :=
  match error with
  | .noFileOrDirectory .. => .missing
  | .inappropriateType _ 21 _ => .unreadable "Is a directory (os error 21)"
  | .inappropriateType .. => .unreadable "Not a directory (os error 20)"
  | .permissionDenied .. => .unreadable "Permission denied (os error 13)"
  | other => .unreadable (toString other)

/-- What is found under the name of a file. -/
def readFile (path : String) : IO FileContent := do
  try
    return .bytes (← IO.FS.readBinFile path)
  catch failure =>
    return .ofError failure

/-- The listing that an invocation needs, under its name. -/
def readFiles (invocation : Invocation) : IO (String → FileContent) := do
  match invocation.command with
  | .demo .. => return fun _ => .missing
  | .run path =>
    let content ← readFile path
    return fun _ => content

def write (response : Response) : IO UInt32 := do
  IO.print response.output
  IO.eprint response.errors
  return UInt32.ofNat response.exitCode

end RegisterMachine.CommandLine

open RegisterMachine.CommandLine in
def main (arguments : List String) : IO UInt32 := do
  match readArguments arguments with
  | .error refusal => write refusal.response
  | .ok invocation =>
    match respond (← readFiles invocation) invocation with
    | some response => write response
    -- What a shell sees of an aborted program.
    | none => return 134
