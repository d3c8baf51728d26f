import RegisterMachine.Instruction.DecodeError
import RegisterMachine.Text.Blank

/-!
# Opcodes

The eleven operations of the machine, their numbers and their names.  `ofTag_tag` and
`ofMnemonic_mnemonic` say that both determine the operation.
-/

namespace RegisterMachine

inductive Opcode where
  | halt
  | load
  | store
  | add
  | sub
  | mul
  | div
  | cmp
  | jmp
  | mov
  | checkFlag
  deriving DecidableEq

namespace Opcode

/-- All opcodes, in the order of their tags. -/
def all : List Opcode :=
  [halt, load, store, add, sub, mul, div, cmp, jmp, mov, checkFlag]

/-- The number that stands for an opcode in an encoded instruction. -/
def tag : Opcode → Word
  | halt => 0
  | load => 1
  | store => 2
  | add => 3
  | sub => 4
  | mul => 5
  | div => 6
  | cmp => 7
  | jmp => 8
  | mov => 9
  | checkFlag => 10

/-- The name of an opcode in a listing. -/
def mnemonic : Opcode → String
  | halt => "HALT"
  | load => "LOAD"
  | store => "STORE"
  | add => "ADD"
  | sub => "SUB"
  | mul => "MUL"
  | div => "DIV"
  | cmp => "CMP"
  | jmp => "JMP"
  | mov => "MOV"
  | checkFlag => "CHECK_FLAG"

def ofTag (tag : Word) : Except DecodeError Opcode :=
  match all[tag.toNat]? with
  | some opcode => .ok opcode
  | none => .error (.unknownOpcode tag)

/-- The opcode with a given name.  The case of ASCII letters does not matter, nor do blanks around
the name. -/
def ofMnemonic (text : List Char) : Except DecodeError Opcode :=
  let name := Text.trim text
  match all.find? (·.mnemonic.toList == name.map Char.toUpper) with
  | some opcode => .ok opcode
  | none => .error (.unknownMnemonic (String.ofList name))

theorem ofTag_tag (opcode : Opcode) : ofTag opcode.tag = .ok opcode := by
  cases opcode <;> rfl

theorem ofMnemonic_mnemonic (opcode : Opcode) :
    ofMnemonic opcode.mnemonic.toList = .ok opcode := by
  cases opcode <;> rfl

end Opcode

end RegisterMachine
