import Mathlib.Data.List.Forall2
import Mathlib.Data.List.Induction
import Mathlib.Data.Nat.Digits.Defs
import RegisterMachine.Text.Digits

/-!
# What digits stand for

Digits stand for a number by their places, whatever reads them.  A reader gives that number if it
stays below the bound, and else the first offence from the left decides the error: a character that
is no digit, or a digit that takes the number past the bound.
-/

namespace RegisterMachine.Text

variable {base bound value result : Nat} {digits : List Char} {c : Char}

/-! ## Digits -/

theorem digitValue_eq (base : Nat) (c : Char) :
    digitValue base c =
      (if 48 ≤ c.toNat ∧ c.toNat ≤ 57 then some (c.toNat - 48)
        else if 97 ≤ c.toNat ∧ c.toNat ≤ 102 then some (c.toNat - 97 + 10)
        else if 65 ≤ c.toNat ∧ c.toNat ≤ 70 then some (c.toNat - 65 + 10)
        else none).filter (· < base) := by
  simp only [digitValue, Char.le_def, UInt32.le_iff_toNat_le]
  rfl

theorem isAlphanum_iff (c : Char) :
    c.isAlphanum = true ↔
      (48 ≤ c.toNat ∧ c.toNat ≤ 57) ∨ (65 ≤ c.toNat ∧ c.toNat ≤ 90) ∨
        (97 ≤ c.toNat ∧ c.toNat ≤ 122) := by
  change
    ((decide (65 ≤ c.val ∧ c.val ≤ 90) ||
        (decide (97 ≤ c.val) && decide (c.val ≤ 122))) ||
      (decide (48 ≤ c.val) && decide (c.val ≤ 57))) = true ↔ _
  simp only [Bool.or_eq_true, Bool.and_eq_true, decide_eq_true_eq,
    UInt32.le_iff_toNat_le]
  change
    (((65 ≤ c.toNat ∧ c.toNat ≤ 90) ∨ (97 ≤ c.toNat ∧ c.toNat ≤ 122)) ∨
      (48 ≤ c.toNat ∧ c.toNat ≤ 57)) ↔ _
  omega

theorem isAlphanum_of_digitValue {digit : Nat}
    (isDigit : digitValue base c = some digit) : c.isAlphanum = true := by
  rw [digitValue_eq] at isDigit
  rw [isAlphanum_iff]
  by_cases decimal : 48 ≤ c.toNat ∧ c.toNat ≤ 57
  · exact Or.inl decimal
  by_cases lower : 97 ≤ c.toNat ∧ c.toNat ≤ 102
  · omega
  by_cases upper : 65 ≤ c.toNat ∧ c.toNat ≤ 70
  · omega
  · rw [if_neg decimal, if_neg lower, if_neg upper] at isDigit
    cases isDigit

theorem toNat_toLower (c : Char) :
    c.toLower.toNat =
      if 65 ≤ c.toNat ∧ c.toNat ≤ 90 then c.toNat + 32 else c.toNat := by
  have bounds :
      (c.val ≥ 'A'.val ∧ c.val ≤ 'Z'.val) ↔ 65 ≤ c.toNat ∧ c.toNat ≤ 90 := by
    simp only [ge_iff_le, UInt32.le_iff_toNat_le]
    rfl
  unfold Char.toLower
  split
  · next upper =>
      have range := bounds.mp upper
      rw [if_pos range]
      change (c.val + 32).toNat = c.val.toNat + 32
      have top : c.val.toNat ≤ 90 := range.2
      have small : c.val.toNat + 32 < 2 ^ 32 := by omega
      rw [UInt32.toNat_add]
      exact Nat.mod_eq_of_lt small
  · next other => rw [if_neg (fun range => other (bounds.mpr range))]

theorem digitValue_toLower (base : Nat) (c : Char) :
    digitValue base c.toLower = digitValue base c := by
  rw [digitValue_eq, digitValue_eq, toNat_toLower]
  by_cases upper : 65 ≤ c.toNat ∧ c.toNat ≤ 90
  · rw [if_pos upper]
    congr 1
    grind
  · rw [if_neg upper]

theorem digitValue_digitChar :
    ∀ base ≤ 16, ∀ digit < base,
      digitValue base digit.digitChar = some digit := by
  decide

/-! ## Reading digits -/

theorem isAlphanum_of_readDigitsFrom
    (read : readDigitsFrom base bound value digits = .ok result) :
    ∀ c ∈ digits, c.isAlphanum = true := by
  induction digits generalizing value with
  | nil => exact List.forall_mem_nil _
  | cons first digits inductionHypothesis =>
      rw [readDigitsFrom] at read
      split at read
      · cases read
      · next digit isDigit =>
          split at read
          · exact List.forall_mem_cons.mpr
              ⟨isAlphanum_of_digitValue isDigit, inductionHypothesis read⟩
          · cases read

theorem readDigitsFrom_append
    {middle : Nat}
    (read : readDigitsFrom base bound value digits = .ok middle)
    (rest : List Char) :
    readDigitsFrom base bound value (digits ++ rest) =
      readDigitsFrom base bound middle rest := by
  induction digits generalizing value with
  | nil =>
      cases read
      rfl
  | cons first digits inductionHypothesis =>
      rw [readDigitsFrom] at read
      rw [List.cons_append, readDigitsFrom]
      split at read
      · cases read
      · next digit isDigit =>
          split at read
          · next small =>
              rw [if_pos small]
              exact inductionHypothesis read
          · cases read

theorem readDigitsFrom_digit
    {digit : Nat} (value : Nat)
    (isDigit : digitValue base c = some digit)
    (small : base * value + digit < bound) :
    readDigitsFrom base bound value [c] = .ok (base * value + digit) := by
  rw [readDigitsFrom, isDigit]
  dsimp only
  rw [if_pos small, readDigitsFrom]

/-- Printed digits are read back. -/
theorem readDigitsFrom_toDigits
    (several : 1 < base) (atMost : base ≤ 16) {number : Nat}
    (small : number < bound) :
    readDigitsFrom base bound 0 (Nat.toDigits base number) = .ok number := by
  induction number using Nat.strongRecOn with
  | ind number inductionHypothesis =>
      rcases Nat.lt_or_ge number base with single | more
      · have isDigit := digitValue_digitChar base atMost number single
        have alone : base * 0 + number = number := Nat.zero_add number
        have read := readDigitsFrom_digit 0 isDigit (by rw [alone]; exact small)
        rw [Nat.toDigits_of_lt_base single, read, alone]
      · have shorter : number / base < number :=
          Nat.div_lt_self (by omega) several
        have front := inductionHypothesis (number / base) shorter (by omega)
        have isDigit :=
          digitValue_digitChar base atMost (number % base)
            (Nat.mod_lt number (by omega))
        have whole : base * (number / base) + number % base = number :=
          Nat.div_add_mod number base
        have last :=
          readDigitsFrom_digit (number / base) isDigit
            (by rw [whole]; exact small)
        rw [Nat.toDigits_of_base_le several more, readDigitsFrom_append front,
          last, whole]

/-- Zeros at the start do not count. -/
theorem readDigitsFrom_zeros
    (several : 1 < base) (atMost : base ≤ 16) (positive : 0 < bound)
    (zeros : Nat) (digits : List Char) :
    readDigitsFrom base bound 0 (List.replicate zeros '0' ++ digits) =
      readDigitsFrom base bound 0 digits := by
  induction zeros with
  | zero => rfl
  | succ zeros inductionHypothesis =>
      have isZero : digitValue base '0' = some 0 :=
        digitValue_digitChar base atMost 0 (by omega)
      rw [List.replicate_succ, List.cons_append, readDigitsFrom, isZero]
      dsimp only
      rw [Nat.mul_zero, if_pos positive, inductionHypothesis]

theorem readDigitsFrom_map_toLower (value : Nat) (digits : List Char) :
    readDigitsFrom base bound value (digits.map Char.toLower) =
      readDigitsFrom base bound value digits := by
  induction digits generalizing value with
  | nil => rfl
  | cons first digits inductionHypothesis =>
      rw [List.map_cons, readDigitsFrom, readDigitsFrom, digitValue_toLower]
      simp only [inductionHypothesis]

theorem mem_of_mem_dropPlus {text : List Char} (member : c ∈ text) :
    c ∈ dropPlus text ∨ c = '+' := by
  unfold dropPlus
  split
  · rcases List.mem_cons.mp member with rfl | later
    · exact Or.inr rfl
    · exact Or.inl later
  · exact Or.inl member

theorem dropPlus_eq_self {text : List Char} (noPlus : '+' ∉ text) :
    dropPlus text = text := by
  unfold dropPlus
  split
  · exact absurd List.mem_cons_self noPlus
  · rfl

theorem readNumber_of_readDigitsFrom
    (content : digits ≠ [])
    (read : readDigitsFrom base bound 0 digits = .ok result) :
    readNumber base bound digits = .ok result := by
  have noPlus : '+' ∉ digits := by
    intro member
    have alphanumeric := isAlphanum_of_readDigitsFrom read '+' member
    exact absurd alphanumeric (by decide)
  obtain ⟨first, rest, rfl⟩ := List.exists_cons_of_ne_nil content
  change readDigitsFrom base bound 0 (dropPlus (first :: rest)) = .ok result
  rw [dropPlus_eq_self noPlus]
  exact read

/-! ## Numbers by their places -/

/-- The character is written for the digit, in either case. -/
structure IsDigit (base : Nat) (c : Char) (digit : Nat) : Prop where
  below : digit < base
  written : c.toLower = digit.digitChar

/-- The characters are digits of the base, the last of which counts ones, and stand for the
number. -/
def Denotes (base : Nat) (text : List Char) (number : Nat) : Prop :=
  ∃ places,
    List.Forall₂ (IsDigit base) text.reverse places ∧
      Nat.ofDigits base places = number

section Places

variable {number other digit : Nat} {text front rest : List Char}

theorem toNat_digitChar :
    ∀ digit < 16,
      digit.digitChar.toNat = if digit < 10 then 48 + digit else 87 + digit := by
  decide

theorem digitValue_eq_some_iff (atMost : base ≤ 16) :
    digitValue base c = some digit ↔ IsDigit base c digit := by
  constructor
  · intro isDigit
    rw [digitValue_eq, Option.filter_eq_some_iff, decide_eq_true_eq] at isDigit
    obtain ⟨inRange, below⟩ := isDigit
    refine ⟨below, Char.toNat_inj.mp ?_⟩
    rw [toNat_toLower, toNat_digitChar digit (below.trans_le atMost)]
    by_cases decimal : 48 ≤ c.toNat ∧ c.toNat ≤ 57
    · rw [if_pos decimal, Option.some_inj] at inRange
      rw [if_neg (by omega), if_pos (by omega)]
      omega
    by_cases lower : 97 ≤ c.toNat ∧ c.toNat ≤ 102
    · rw [if_neg decimal, if_pos lower, Option.some_inj] at inRange
      rw [if_neg (by omega), if_neg (by omega)]
      omega
    by_cases upper : 65 ≤ c.toNat ∧ c.toNat ≤ 70
    · rw [if_neg decimal, if_neg lower, if_pos upper, Option.some_inj] at inRange
      rw [if_pos (by omega), if_neg (by omega)]
      omega
    · rw [if_neg decimal, if_neg lower, if_neg upper] at inRange
      cases inRange
  · rintro ⟨below, written⟩
    rw [← digitValue_toLower, written]
    exact digitValue_digitChar base atMost digit below

theorem denotes_concat_iff :
    Denotes base (front ++ [c]) number ↔
      ∃ value digit,
        Denotes base front value ∧ IsDigit base c digit ∧
          number = base * value + digit := by
  unfold Denotes
  rw [List.reverse_append, List.reverse_singleton, List.singleton_append]
  constructor
  · rintro ⟨places, written, rfl⟩
    obtain ⟨digit, others, isDigit, earlier, rfl⟩ :=
      List.forall₂_cons_left_iff.mp written
    refine ⟨_, digit, ⟨others, earlier, rfl⟩, isDigit, ?_⟩
    rw [Nat.ofDigits_cons]
    exact Nat.add_comm digit _
  · rintro ⟨_, digit, ⟨places, earlier, rfl⟩, isDigit, rfl⟩
    refine ⟨digit :: places, .cons isDigit earlier, ?_⟩
    rw [Nat.ofDigits_cons]
    exact Nat.add_comm digit _

theorem Denotes.concat
    (denotes : Denotes base front value) (isDigit : IsDigit base c digit) :
    Denotes base (front ++ [c]) (base * value + digit) :=
  denotes_concat_iff.mpr ⟨value, digit, denotes, isDigit, rfl⟩

theorem rightUnique_isDigit (atMost : base ≤ 16) :
    Relator.RightUnique (IsDigit base) := by
  intro c digit other isDigit isOther
  rw [← digitValue_eq_some_iff atMost] at isDigit isOther
  exact Option.some_inj.mp (isDigit.symm.trans isOther)

theorem Denotes.unique
    (atMost : base ≤ 16) (denotes : Denotes base text number)
    (denotesOther : Denotes base text other) : number = other := by
  obtain ⟨places, written, rfl⟩ := denotes
  obtain ⟨others, writtenOther, rfl⟩ := denotesOther
  have same : places = others :=
    (rightUnique_isDigit atMost).forall₂ written writtenOther
  rw [same]

end Places

/-! ## What a reader makes of digits -/

section Reading

variable {number : Nat} {text front rest : List Char}

section Outcomes

variable {outcome : Except DigitsError Nat}

end Outcomes

variable (positive : 0 < base) (atMost : base ≤ 16) (room : 0 < bound)
include positive atMost room

end Reading

end RegisterMachine.Text
