/-!
# Numerals

Natural numbers in decimal and in lowercase hexadecimal, bare or filled up with zeros on the left.
-/

namespace RegisterMachine.Text.Numeral

/-- A number in decimal. -/
def decimal (n : Nat) : String :=
  String.ofList (Nat.toDigits 10 n)

/-- A number in lowercase hexadecimal. -/
def hex (n : Nat) : String :=
  String.ofList (Nat.toDigits 16 n)

/-- Fills digits up to a width with zeros on the left.  Longer ones are left as they are. -/
def fill (width : Nat) (digits : List Char) : List Char :=
  List.replicate (width - digits.length) '0' ++ digits

/-- A number in decimal with at least `width` digits. -/
def paddedDecimal (width n : Nat) : String :=
  String.ofList (fill width (Nat.toDigits 10 n))

/-- A number in lowercase hexadecimal with at least eight digits. -/
def wordHex (n : Nat) : String :=
  String.ofList (fill 8 (Nat.toDigits 16 n))

theorem toList_decimal (n : Nat) : (decimal n).toList = Nat.toDigits 10 n :=
  String.toList_ofList

theorem decimal_injective {m n : Nat} (equal : decimal m = decimal n) : m = n := by
  rw [← Nat.ofDigitChars_ten_toDigits (n := m), ← toList_decimal, equal, toList_decimal,
    Nat.ofDigitChars_ten_toDigits]

end RegisterMachine.Text.Numeral
