import RegisterMachine.Execution.Event
import RegisterMachine.Instruction.Printer

/-!
# Trace entries

An event with its instruction and its fault already put into words, and the line that shows it.
-/

namespace RegisterMachine.Trace

open Text.Numeral

inductive Entry where
  | instruction (counter : Word) (text : String)
  | jump (source target : Word)
  | fault (counter : Word) (text message : String)
  | halt (counter : Word)
  deriving DecidableEq

namespace Entry

def ofEvent : Event → Entry
  | .instruction counter instr => instruction counter instr.text
  | .jump source target => jump source target
  | .fault counter instr reason => fault counter instr.text reason.message
  | .halt counter => halt counter

def isFault : Entry → Bool
  | fault .. => true
  | _ => false

/-- An address in brackets, with at least four digits. -/
def position (counter : Word) : String :=
  "[" ++ paddedDecimal 4 counter.toNat ++ "]"

/-- The line of a trace that shows an entry, without its indentation. -/
def text : Entry → String
  | instruction counter instr => position counter ++ " " ++ instr
  | jump source target =>
    "       ↪ jump " ++ decimal source.toNat ++ " -> " ++ decimal target.toNat
  | fault counter instr message => position counter ++ " " ++ instr ++ " ⚠️  " ++ message
  | halt counter => "       ⏹ HALT at " ++ decimal counter.toNat

end Entry

end RegisterMachine.Trace
