import RegisterMachine.Instruction.DecodeError
import RegisterMachine.Text.Digits
import RegisterMachine.Text.Quoted

/-!
# Listing errors

Why a line of a listing says nothing the machine understands.
-/

namespace RegisterMachine.Listing

open Text Text.Numeral

/-- What is wrong with a line. -/
inductive LineError where
  | invalidNumber (text : String) (reason : DigitsError)
  | unknownMnemonic (error : DecodeError)
  | tooManyOperands (found : Nat)
  | unrecognized (line : String)
  deriving DecidableEq

def LineError.message : LineError → String
  | invalidNumber text reason => "invalid number " ++ quote text ++ ": " ++ reason.message
  | unknownMnemonic error => error.message
  | tooManyOperands found => "expected at most 3 operands, found " ++ decimal found
  | unrecognized line => "cannot parse " ++ quote line

/-- What is wrong with a listing.  Lines are numbered from 1. -/
structure Error where
  line : Nat
  cause : LineError
  deriving DecidableEq

def Error.message (error : Error) : String :=
  "line " ++ decimal error.line ++ ": " ++ error.cause.message

end RegisterMachine.Listing
