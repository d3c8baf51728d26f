import RegisterMachine.Instruction.Basic
import RegisterMachine.Listing.Error

/-!
# Lines of a listing

A line holds an instruction, a memory cell with its first value, or a memory cell to watch, or
nothing.  A semicolon or a number sign opens a comment.
-/

namespace RegisterMachine.Listing

open Text

/-- What a line says. -/
inductive Item where
  | instruction (instruction : Instruction)
  /-- A memory cell and the value that it starts with. -/
  | data (address value : Word)
  /-- A memory cell to show after the run. -/
  | watch (address : Word)
  deriving DecidableEq

/-- The text before the first comment mark. -/
def stripComment (line : List Char) : List Char :=
  line.takeWhile fun c => c != ';' && c != '#'

/-- Reads a number, in hexadecimal behind `0x` and else in decimal. -/
def parseNumber (text : List Char) : Except LineError Word :=
  let value :=
    match text with
    | '0' :: 'x' :: digits => readNumber 16 UInt32.size digits
    | '0' :: 'X' :: digits => readNumber 16 UInt32.size digits
    | _ => readNumber 10 UInt32.size text
  match value with
  | .ok value => .ok (UInt32.ofNat value)
  | .error reason => .error (.invalidNumber (String.ofList text) reason)

/-- Reads up to three operands with commas between them.  Missing ones are 0. -/
def parseOperands (text : List Char) : Except LineError (Word × Word × Word) := do
  match (text.splitOn ',').map trim with
  | [] => return (0, 0, 0)
  | [dst] => return (← parseNumber dst, 0, 0)
  | [dst, src1] => return (← parseNumber dst, ← parseNumber src1, 0)
  | [dst, src1, src2] => return (← parseNumber dst, ← parseNumber src1, ← parseNumber src2)
  | fields => throw (.tooManyOperands fields.length)

/-- Whether a character can be part of a mnemonic. -/
def isMnemonicChar (c : Char) : Bool :=
  c.isAlpha || c == '_'

/-- Reads an instruction: a mnemonic, and blanks before the operands if there are any. -/
def parseInstruction (line : List Char) : Except LineError Instruction := do
  let mnemonic := line.takeWhile isMnemonicChar
  let rest := line.dropWhile isMnemonicChar
  if mnemonic.isEmpty || !(rest.take 1).all isBlank then throw (.unrecognized (String.ofList line))
  let opcode ← (Opcode.ofMnemonic mnemonic).mapError .unknownMnemonic
  if rest.isEmpty then return ⟨opcode, 0, 0, 0⟩
  let (dst, src1, src2) ← parseOperands (trimStart rest)
  return ⟨opcode, dst, src1, src2⟩

/-- The directive that gives a memory cell its first value. -/
def dataDirective : List Char :=
  ['.', 'd', 'a', 't', 'a']

/-- The directive that watches a memory cell. -/
def watchDirective : List Char :=
  ['.', 'w', 'a', 't', 'c', 'h']

/-- Reads a line without comment and without blanks around it. -/
def parseContent (line : List Char) : Except LineError Item := do
  match words line with
  | [directive, address, value] =>
    if directive = dataDirective then
      return .data (← parseNumber address) (← parseNumber value)
    else return .instruction (← parseInstruction line)
  | [directive, address] =>
    if directive = watchDirective then return .watch (← parseNumber address)
    else return .instruction (← parseInstruction line)
  | _ => return .instruction (← parseInstruction line)

/-- Reads a line.  A line without content says nothing. -/
def parseLine (line : List Char) : Except LineError (Option Item) := do
  let content := trim (stripComment line)
  if content.isEmpty then return none
  else return some (← parseContent content)

end RegisterMachine.Listing
