import RegisterMachine.Listing.Line
import RegisterMachine.Proofs.Text.Blank
import RegisterMachine.Proofs.Text.Digits

/-!
# Numbers in a listing

A number that is read is written with letters, digits and perhaps a plus sign, so that it stays
whole wherever a line is cut.  Every word is read back from its digits in base 10 or 16.
-/

namespace RegisterMachine

open Text

namespace Listing

/-! ## Numbers stay whole -/

/-- The characters of numbers. -/
def isNumberChar (c : Char) : Bool :=
  c.isAlphanum || c == '+'

theorem not_isBlank_of_isNumberChar {c : Char}
    (inNumber : isNumberChar c = true) : isBlank c = false := by
  rw [isNumberChar, Bool.or_eq_true, beq_iff_eq] at inNumber
  rcases inNumber with alphanumeric | rfl
  · rw [isAlphanum_iff] at alphanumeric
    rw [Bool.eq_false_iff]
    intro blank
    simp only [isBlank, Bool.or_eq_true, Bool.and_eq_true, decide_eq_true_eq,
      beq_iff_eq] at blank
    omega
  · rfl

theorem isNumberChar_of_readNumber
    {base bound result : Nat} {text : List Char}
    (read : readNumber base bound text = .ok result) :
    ∀ c ∈ text, isNumberChar c = true := by
  intro c member
  unfold readNumber at read
  split at read
  · cases read
  · rw [isNumberChar, Bool.or_eq_true, beq_iff_eq]
    rcases mem_of_mem_dropPlus member with inDigits | isPlus
    · exact Or.inl (isAlphanum_of_readDigitsFrom read c inDigits)
    · exact Or.inr isPlus

/-- A number is read in hexadecimal behind its mark, or in decimal. -/
theorem exists_readNumber_of_parseNumber
    {text : List Char} {value : Word}
    (read : parseNumber text = .ok value) :
    ∃ number,
      UInt32.ofNat number = value ∧
        ((∃ mark digits,
            (mark = 'x' ∨ mark = 'X') ∧ text = '0' :: mark :: digits ∧
              readNumber 16 UInt32.size digits = .ok number) ∨
          readNumber 10 UInt32.size text = .ok number) := by
  unfold parseNumber at read
  dsimp only at read
  split at read
  · next number numberRead =>
      refine ⟨number, Except.ok.inj read, ?_⟩
      split at numberRead
      · exact Or.inl ⟨'x', _, Or.inl rfl, rfl, numberRead⟩
      · exact Or.inl ⟨'X', _, Or.inr rfl, rfl, numberRead⟩
      · exact Or.inr numberRead
  · cases read

theorem isNumberChar_of_parseNumber
    {text : List Char} {value : Word}
    (read : parseNumber text = .ok value) :
    ∀ c ∈ text, isNumberChar c = true := by
  obtain ⟨number, -, ⟨mark, digits, isMark, rfl, hexadecimal⟩ | decimal⟩ :=
    exists_readNumber_of_parseNumber read
  · have inDigits := isNumberChar_of_readNumber hexadecimal
    have marked : isNumberChar mark = true := by
      rcases isMark with rfl | rfl <;> rfl
    exact List.forall_mem_cons.mpr
      ⟨rfl, List.forall_mem_cons.mpr ⟨marked, inDigits⟩⟩
  · exact isNumberChar_of_readNumber decimal

/-- What is read as a number is one word. -/
theorem isWord_of_parseNumber
    {text : List Char} {value : Word}
    (read : parseNumber text = .ok value) : IsWord text where
  nonempty := by
    rintro rfl
    cases read
  unbroken c member :=
    not_isBlank_of_isNumberChar (isNumberChar_of_parseNumber read c member)

/-! ## Written numbers -/

/-- A number in some base, with zeros before it. -/
def printed (base zeros : Nat) (value : Word) : List Char :=
  List.replicate zeros '0' ++ Nat.toDigits base value.toNat

theorem printed_ne_nil (base zeros : Nat) (value : Word) :
    printed base zeros value ≠ [] :=
  fun blank => Nat.toDigits_ne_nil (List.append_eq_nil_iff.mp blank).2

theorem readDigitsFrom_printed
    {base : Nat} (several : 1 < base) (atMost : base ≤ 16)
    (zeros : Nat) (value : Word) :
    readDigitsFrom base UInt32.size 0 (printed base zeros value) =
      .ok value.toNat := by
  rw [printed, readDigitsFrom_zeros several atMost (by decide)]
  exact readDigitsFrom_toDigits several atMost value.toNat_lt

theorem isDigit_of_mem_decimal {zeros : Nat} {value : Word} :
    ∀ c ∈ printed 10 zeros value, c.isDigit = true := by
  intro c member
  rcases List.mem_append.mp member with isZero | inDigits
  · rw [List.eq_of_mem_replicate isZero]
    rfl
  · exact Nat.isDigit_of_mem_toDigits (by decide) (by decide) inDigits

/-- Only digits are read in decimal, since there is no mark among them. -/
theorem parseNumber_of_isDigit
    {text : List Char} (isDigit : ∀ c ∈ text, c.isDigit = true) {number : Nat}
    (read : readNumber 10 UInt32.size text = .ok number) :
    parseNumber text = .ok (UInt32.ofNat number) := by
  unfold parseNumber
  split
  · next digits =>
      exact absurd (isDigit 'x' (by simp)) (by decide)
  · next digits =>
      exact absurd (isDigit 'X' (by simp)) (by decide)
  · rw [read]

theorem parseNumber_of_mark
    {mark : Char} {digits : List Char} {number : Nat}
    (isMark : mark = 'x' ∨ mark = 'X')
    (read : readNumber 16 UInt32.size digits = .ok number) :
    parseNumber ('0' :: mark :: digits) = .ok (UInt32.ofNat number) := by
  rcases isMark with rfl | rfl
  · rw [parseNumber, read]
  · rw [parseNumber, read]

/-- The ways to write a word: in decimal, or in hexadecimal behind a mark, with any number of zeros
at the start and hexadecimal digits in either case. -/
inductive Spelling : List Char → Word → Prop
  | decimal (zeros : Nat) (value : Word) :
      Spelling (printed 10 zeros value) value
  | hexadecimal {mark : Char} {digits : List Char} (zeros : Nat) {value : Word} :
      mark = 'x' ∨ mark = 'X' →
      digits.map Char.toLower = printed 16 zeros value →
      Spelling ('0' :: mark :: digits) value

/-- Every word is read back from every way to write it. -/
theorem Spelling.parseNumber_eq
    {text : List Char} {value : Word} (spelling : Spelling text value) :
    parseNumber text = .ok value := by
  cases spelling with
  | decimal zeros =>
      have digitsRead :
          readDigitsFrom 10 UInt32.size 0 (printed 10 zeros value) =
            .ok value.toNat :=
        readDigitsFrom_printed (by decide) (by decide) zeros value
      have read :=
        readNumber_of_readDigitsFrom (printed_ne_nil 10 zeros value) digitsRead
      rw [parseNumber_of_isDigit isDigit_of_mem_decimal read,
        UInt32.ofNat_toNat]
  | @hexadecimal mark digits zeros _ isMark spelled =>
      have content : digits ≠ [] := by
        rintro rfl
        exact printed_ne_nil 16 zeros value spelled.symm
      have digitsRead :
          readDigitsFrom 16 UInt32.size 0 digits = .ok value.toNat := by
        rw [← readDigitsFrom_map_toLower, spelled]
        exact readDigitsFrom_printed (by decide) (by decide) zeros value
      have read := readNumber_of_readDigitsFrom content digitsRead
      rw [parseNumber_of_mark isMark read, UInt32.ofNat_toNat]

end Listing

end RegisterMachine
