/-!
# Reading digits

Digits in base 10 or 16 as a number below a bound.  The first character that is no digit, or that
takes the number past the bound, decides the error.
-/

namespace RegisterMachine.Text

/-- Why digits do not stand for a number. -/
inductive DigitsError where
  | empty
  | invalidDigit
  | tooLarge
  deriving DecidableEq

def DigitsError.message : DigitsError → String
  | empty => "cannot parse integer from empty string"
  | invalidDigit => "invalid digit found in string"
  | tooLarge => "number too large to fit in target type"

/-- The value of a digit in a base up to 16. -/
def digitValue (base : Nat) (c : Char) : Option Nat :=
  let value :=
    if '0' ≤ c ∧ c ≤ '9' then some (c.toNat - '0'.toNat)
    else if 'a' ≤ c ∧ c ≤ 'f' then some (c.toNat - 'a'.toNat + 10)
    else if 'A' ≤ c ∧ c ≤ 'F' then some (c.toNat - 'A'.toNat + 10)
    else none
  value.filter (· < base)

/-- Reads digits behind a number that was read already. -/
def readDigitsFrom (base bound : Nat) : Nat → List Char → Except DigitsError Nat
  | value, [] => .ok value
  | value, c :: rest =>
    match digitValue base c with
    | none => .error .invalidDigit
    | some digit =>
      if base * value + digit < bound then readDigitsFrom base bound (base * value + digit) rest
      else .error .tooLarge

/-- Drops one plus sign, unless it stands alone. -/
def dropPlus : List Char → List Char
  | '+' :: c :: rest => c :: rest
  | text => text

/-- Reads a number below a bound.  One plus sign may stand before the digits. -/
def readNumber (base bound : Nat) (text : List Char) : Except DigitsError Nat :=
  match text with
  | [] => .error .empty
  | _ => readDigitsFrom base bound 0 (dropPlus text)

end RegisterMachine.Text
