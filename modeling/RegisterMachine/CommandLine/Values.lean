import RegisterMachine.CommandLine.Grammar
import RegisterMachine.Text.Digits
import RegisterMachine.Word

/-!
# Option values

Numbers on the command line are decimal, and a plus sign may stand before them.
-/

namespace RegisterMachine.CommandLine

open Text

/-- A number of 64 bits. -/
def readCount (text : String) : Except Refusal Nat :=
  (readNumber 10 UInt64.size text.toList).mapError fun _ => .valueValidation

/-- A word.  Zero may also have a minus sign. -/
def readWord (text : String) : Except Refusal Word :=
  let value :=
    match text.toList with
    | '-' :: digit :: digits => readDigitsFrom 10 1 0 (digit :: digits)
    | characters => readNumber 10 UInt32.size characters
  match value with
  | .ok value => .ok (UInt32.ofNat value)
  | .error _ => .error .valueValidation

/-- Words with commas between them. -/
def readWords (text : String) : Except Refusal (List Word) :=
  (text.toList.splitOn ',').mapM fun piece => readWord (String.ofList piece)

/-- One of a few names. -/
def readName {α : Type} (names : List (String × α)) (text : String) : Except Refusal α :=
  match names.lookup text with
  | some value => .ok value
  | none => .error .invalidValue

/-- The name of a file. -/
def readPath (text : String) : Except Refusal String :=
  if text.isEmpty then .error .invalidValue else .ok text

/-- Fills in a setting that can be given only once. -/
def fillOnce {α : Type} (current : Option α) (read : String → Except Refusal α) (text : String) :
    Except Refusal (Option α) :=
  match current with
  | some _ => .error .argumentConflict
  | none => (read text).map some

end RegisterMachine.CommandLine
