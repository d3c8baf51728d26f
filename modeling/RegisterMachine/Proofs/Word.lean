import Mathlib.Algebra.Group.Nat.Defs
import RegisterMachine.Word

/-!
# Words as natural numbers

Carries, counters and comparisons of words, stated with natural numbers.  A sum or a difference is
exact together with its carry or borrow, and a quotient together with a remainder.
-/

namespace RegisterMachine.Word

theorem exceeds_eq (wide : UInt64) :
    exceeds wide = decide (2 ^ 32 ≤ wide.toNat) := by
  unfold exceeds
  simp only [UInt64.lt_iff_toNat_lt, decide_eq_decide]
  exact Iff.rfl

theorem beq_eq (left right : Word) :
    (left == right) = decide (left.toNat = right.toNat) := by
  rw [Bool.eq_iff_iff, beq_iff_eq, decide_eq_true_iff, UInt32.toNat_inj]

theorem ofNat_beq_ofNat
    {left right : Nat}
    (leftBound : left < 2 ^ 32) (rightBound : right < 2 ^ 32) :
    (UInt32.ofNat left == UInt32.ofNat right) = decide (left = right) := by
  rw [beq_eq, UInt32.toNat_ofNat_of_lt' leftBound,
    UInt32.toNat_ofNat_of_lt' rightBound]

theorem beq_zero (word : Word) :
    (word == 0) = decide (word.toNat = 0) :=
  beq_eq word 0

theorem signBit_eq_testBit (word : Word) :
    signBit word = word.toNat.testBit 31 := by
  have bound := word.toNat_lt
  rw [signBit, Nat.testBit_eq_decide_div_mod_eq, decide_eq_decide,
    UInt32.le_iff_toNat_le]
  change 2 ^ 31 ≤ word.toNat ↔ word.toNat / 2 ^ 31 % 2 = 1
  omega

theorem ofNat_sub_one {count : Nat} (positive : 0 < count) :
    UInt32.ofNat count - 1 = UInt32.ofNat (count - 1) :=
  (UInt32.ofNat_sub positive).symm

theorem ofNat_sub_size {n : Nat} (large : 2 ^ 32 ≤ n) :
    UInt32.ofNat (n - 2 ^ 32) = UInt32.ofNat n := by
  rw [← UInt32.toNat_inj, UInt32.toNat_ofNat', UInt32.toNat_ofNat',
    Nat.mod_eq_sub_mod large]

theorem toNat_saturate {n : Nat} (bound : n < 2 ^ 32) :
    (saturate n).toNat = n := by
  rw [saturate, Nat.min_eq_left (by omega), UInt32.toNat_ofNat_of_lt' bound]

/-! ## Results that are cut off -/

theorem toNat_add_eq (left right : Word) :
    left.toNat + right.toNat =
      (left + right).toNat +
        2 ^ 32 * (decide (2 ^ 32 ≤ left.toNat + right.toNat)).toNat := by
  have leftBound := left.toNat_lt
  have rightBound := right.toNat_lt
  rw [UInt32.toNat_add]
  by_cases carries : 2 ^ 32 ≤ left.toNat + right.toNat
  · rw [decide_eq_true carries, Bool.toNat_true]
    omega
  · rw [decide_eq_false carries, Bool.toNat_false]
    omega

theorem toNat_sub_eq (left right : Word) :
    left.toNat + 2 ^ 32 * (decide (left.toNat < right.toNat)).toNat =
      (left - right).toNat + right.toNat := by
  have leftBound := left.toNat_lt
  have rightBound := right.toNat_lt
  rw [UInt32.toNat_sub]
  by_cases borrows : left.toNat < right.toNat
  · rw [decide_eq_true borrows, Bool.toNat_true]
    omega
  · rw [decide_eq_false borrows, Bool.toNat_false]
    omega

theorem exists_remainder
    (left : Word) {divisor : Word} (nonzero : divisor ≠ 0) :
    ∃ remainder < divisor.toNat,
      left.toNat = (left / divisor).toNat * divisor.toNat + remainder := by
  have positive : 0 < divisor.toNat := by
    apply Nat.pos_of_ne_zero
    intro zero
    exact nonzero (UInt32.toNat_inj.mp zero)
  refine ⟨left.toNat % divisor.toNat, Nat.mod_lt _ positive, ?_⟩
  rw [UInt32.toNat_div]
  exact (Nat.div_add_mod' left.toNat divisor.toNat).symm

end RegisterMachine.Word
