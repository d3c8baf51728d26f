import RegisterMachine.Text.ExtendingMark
import RegisterMachine.Text.Numeral
import RegisterMachine.Text.Printable

/-!
# Quoted text

How a message quotes a piece of its input: between double quotes, with an escape for each quote,
each backslash and each character that would not show.
-/

namespace RegisterMachine.Text

open Numeral

/-- A character as it is written between double quotes. -/
def escape (c : Char) : String :=
  if c = '\x00' then "\\0"
  else if c = '\t' then "\\t"
  else if c = '\r' then "\\r"
  else if c = '\n' then "\\n"
  else if c = '"' then "\\\""
  else if c = '\\' then "\\\\"
  else if isExtendingMark c || !isPrintable c then "\\u\x7b" ++ hex c.toNat ++ "\x7d"
  else String.singleton c

/-- A text between double quotes. -/
def quote (text : String) : String :=
  "\"" ++ String.join (text.toList.map escape) ++ "\""

end RegisterMachine.Text
