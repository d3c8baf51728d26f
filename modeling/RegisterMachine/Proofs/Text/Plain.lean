import RegisterMachine.Proofs.Text.Digits
import RegisterMachine.Proofs.Text.Lines
import RegisterMachine.Text.Numeral

/-!
# Texts without line breaks

Numerals have no line breaks, and joining texts brings none in.  So a line feed behind such a text
makes it a line that is read off again.
-/

namespace RegisterMachine.Text

open Numeral

/-- The character does not belong to the end of a line. -/
def isInline (c : Char) : Bool :=
  c != '\n' && c != '\r'

/-- The text has no line break. -/
def Plain (text : String) : Prop :=
  text.toList.all isInline = true

theorem plain_append_iff {left right : String} :
    Plain (left ++ right) ↔ Plain left ∧ Plain right := by
  simp only [Plain, String.toList_append, List.all_append, Bool.and_eq_true]

theorem forall_mem_intercalate
    {property : Char → Prop} {separator : List Char} {pieces : List (List Char)}
    (inSeparator : ∀ c ∈ separator, property c)
    (inPieces : ∀ piece ∈ pieces, ∀ c ∈ piece, property c) :
    ∀ c ∈ separator.intercalate pieces, property c := by
  induction pieces with
  | nil => exact List.forall_mem_nil _
  | cons first others inductionHypothesis =>
      have inFirst := inPieces first List.mem_cons_self
      by_cases last : others = []
      · rw [last, List.intercalate_singleton]
        exact inFirst
      · have inOthers := inductionHypothesis
          fun piece member => inPieces piece (List.mem_cons_of_mem first member)
        rw [List.intercalate_cons_of_ne_nil last, List.forall_mem_append,
          List.forall_mem_append]
        exact ⟨⟨inFirst, inSeparator⟩, inOthers⟩

theorem plain_intercalate
    {separator : String} {texts : List String}
    (plainSeparator : Plain separator) (plain : ∀ text ∈ texts, Plain text) :
    Plain (separator.intercalate texts) := by
  rw [Plain, String.toList_intercalate, List.all_eq_true]
  apply forall_mem_intercalate (List.all_eq_true.mp plainSeparator)
  rw [List.forall_mem_map]
  exact fun text member => List.all_eq_true.mp (plain text member)

theorem Plain.closed
    {line : String} (plain : Plain line) (content : line ≠ "") :
    Closed line.toList where
  content blank := content (String.toList_eq_nil_iff.mp blank)
  unbroken member := absurd (List.all_eq_true.mp plain _ member) (by decide)
  last isLast := by
    have member := List.mem_of_getLast? isLast
    exact absurd (List.all_eq_true.mp plain _ member) (by decide)

theorem plain_ofList
    {characters : List Char}
    (alphanumeric : ∀ c ∈ characters, c.isAlphanum = true) :
    Plain (String.ofList characters) := by
  rw [Plain, String.toList_ofList, List.all_eq_true]
  intro c member
  have inText := alphanumeric c member
  rw [isInline, Bool.and_eq_true, bne_iff_ne, bne_iff_ne]
  constructor
  · rintro rfl
    exact absurd inText (by decide)
  · rintro rfl
    exact absurd inText (by decide)

theorem isAlphanum_of_mem_toDigits
    {base : Nat} (several : 1 < base) (atMost : base ≤ 16) (number : Nat) :
    ∀ c ∈ Nat.toDigits base number, c.isAlphanum = true :=
  isAlphanum_of_readDigitsFrom
    (readDigitsFrom_toDigits several atMost (Nat.lt_succ_self number))

theorem plain_decimal (number : Nat) : Plain (decimal number) :=
  plain_ofList (isAlphanum_of_mem_toDigits (by decide) (by decide) number)

theorem plain_wordHex (number : Nat) : Plain (wordHex number) := by
  apply plain_ofList
  intro c member
  rcases List.mem_append.mp member with isZero | inDigits
  · rw [List.eq_of_mem_replicate isZero]
    rfl
  · exact
      isAlphanum_of_mem_toDigits (by decide) (by decide) number c inDigits

end RegisterMachine.Text
