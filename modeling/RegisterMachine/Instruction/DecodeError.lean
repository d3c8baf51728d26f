import RegisterMachine.Text.Numeral
import RegisterMachine.Word

/-!
# Decoding errors

Why a number or a name does not stand for an opcode, an addressing mode or a flag.
-/

namespace RegisterMachine

open Text.Numeral

inductive DecodeError where
  | unknownOpcode (tag : Word)
  | unknownMnemonic (name : String)
  | unknownAddressingMode (code : Word)
  | unknownFlag (index : Word)
  deriving DecidableEq

def DecodeError.message : DecodeError → String
  | unknownOpcode tag => "unknown opcode tag " ++ decimal tag.toNat
  | unknownMnemonic name => "unknown mnemonic '" ++ name ++ "'"
  | unknownAddressingMode code => "unknown addressing mode " ++ decimal code.toNat
  | unknownFlag index => "unknown flag index " ++ decimal index.toNat

end RegisterMachine
