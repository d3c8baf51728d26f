/-!
# Machine words

The machine computes with unsigned 32-bit integers.  Sums and products are taken in 64 bits first,
so that what does not fit in a word can be seen; `toNat_wideSum` and `toNat_wideProduct` say that
64 bits always suffice.
-/

namespace RegisterMachine

/-- An unsigned 32-bit integer: a register value, a memory cell, an address or an operand. -/
abbrev Word := UInt32

namespace Word

/-- Bit 31. -/
def signBit (word : Word) : Bool :=
  decide (0x80000000 ≤ word)

/-- The sum of two words in 64 bits. -/
def wideSum (left right : Word) : UInt64 :=
  left.toUInt64 + right.toUInt64

/-- The product of two words in 64 bits. -/
def wideProduct (left right : Word) : UInt64 :=
  left.toUInt64 * right.toUInt64

/-- Whether a 64-bit value is too large for a word. -/
def exceeds (wide : UInt64) : Bool :=
  decide (0xffffffff < wide)

/-- A natural number as a word.  What is too large becomes the largest word. -/
def saturate (n : Nat) : Word :=
  UInt32.ofNat (min n 0xffffffff)

theorem toNat_wideSum (left right : Word) :
    (wideSum left right).toNat = left.toNat + right.toNat := by
  have hleft := left.toNat_lt
  have hright := right.toNat_lt
  simp only [wideSum, UInt64.toNat_add, UInt32.toNat_toUInt64]
  omega

theorem toNat_wideProduct (left right : Word) :
    (wideProduct left right).toNat = left.toNat * right.toNat := by
  have hleft : left.toNat ≤ 2 ^ 32 - 1 := Nat.le_sub_one_of_lt left.toNat_lt
  have hright : right.toNat ≤ 2 ^ 32 - 1 := Nat.le_sub_one_of_lt right.toNat_lt
  have hproduct := Nat.mul_le_mul hleft hright
  simp only [wideProduct, UInt64.toNat_mul, UInt32.toNat_toUInt64]
  exact Nat.mod_eq_of_lt (Nat.lt_of_le_of_lt hproduct (by decide))

theorem toUInt32_wideSum (left right : Word) : (wideSum left right).toUInt32 = left + right := by
  apply UInt32.toNat_inj.mp
  simp only [UInt64.toNat_toUInt32, toNat_wideSum, UInt32.toNat_add]

theorem toUInt32_wideProduct (left right : Word) :
    (wideProduct left right).toUInt32 = left * right := by
  apply UInt32.toNat_inj.mp
  simp only [UInt64.toNat_toUInt32, toNat_wideProduct, UInt32.toNat_mul]

end Word

end RegisterMachine
