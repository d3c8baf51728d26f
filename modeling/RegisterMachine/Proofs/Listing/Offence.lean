import RegisterMachine.Listing.Line
import RegisterMachine.Proofs.Text.Digits

/-!
# The first offence in a number

The mark of the base and a plus sign may stand before the digits of a number.  Behind them every
character counts, and the first offence from the left decides what is said about the text.
-/

namespace RegisterMachine.Listing

open Text

/-! ## The parts of a number -/

namespace Number

/-- The text starts with the mark of a number in base 16. -/
def Marked (text : List Char) : Prop :=
  ['0', 'x'] <+: text ∨ ['0', 'X'] <+: text

instance (text : List Char) : Decidable (Marked text) :=
  inferInstanceAs (Decidable (_ ∨ _))

def base (text : List Char) : Nat :=
  if Marked text then 16 else 10

/-- What stands behind the mark. -/
def body (text : List Char) : List Char :=
  if Marked text then text.drop 2 else text

/-- What stands behind the mark and the plus sign.  A plus sign at the end is no sign. -/
def digits (text : List Char) : List Char :=
  if (body text).head? = some '+' ∧ 1 < (body text).length then
    (body text).tail
  else body text

variable {text : List Char}

theorem marked_cons {mark : Char} (isMark : mark = 'x' ∨ mark = 'X')
    (rest : List Char) : Marked ('0' :: mark :: rest) := by
  rcases isMark with rfl | rfl
  · exact Or.inl ⟨rest, rfl⟩
  · exact Or.inr ⟨rest, rfl⟩

/-- The text is written for the word. -/
def Reads (text : List Char) (value : Word) : Prop :=
  digits text ≠ [] ∧ Denotes (base text) (digits text) value.toNat

end Number

open Number

variable {text : List Char} {value : Word}

/-- The mark of the base is all that reading a number adds to reading its digits. -/
theorem parseNumber_eq (text : List Char) :
    parseNumber text =
      ((readNumber (base text) UInt32.size (body text)).map
        UInt32.ofNat).mapError (.invalidNumber (String.ofList text)) := by
  unfold parseNumber
  split
  · next digits =>
      have marked := marked_cons (Or.inl rfl) digits
      rw [base, body, if_pos marked, if_pos marked]
      change _ = ((readNumber 16 UInt32.size digits).map _).mapError _
      cases readNumber 16 UInt32.size digits <;> rfl
  · next digits =>
      have marked := marked_cons (Or.inr rfl) digits
      rw [base, body, if_pos marked, if_pos marked]
      change _ = ((readNumber 16 UInt32.size digits).map _).mapError _
      cases readNumber 16 UInt32.size digits <;> rfl
  · next noSmall noLarge =>
      have unmarked : ¬ Marked text := by
        rintro (⟨rest, rfl⟩ | ⟨rest, rfl⟩)
        · exact noSmall rest rfl
        · exact noLarge rest rfl
      rw [base, body, if_neg unmarked, if_neg unmarked]
      cases readNumber 10 UInt32.size text <;> rfl

/-! ## What is said about a text -/

/-- The text is no number, and the message says so with the text and the reason. -/
def Refuses (text reason : String) : Prop :=
  ∃ cause,
    parseNumber text.toList = .error cause ∧
      cause.message = "invalid number " ++ quote text ++ ": " ++ reason

/-- The largest word is no offence yet, but any digit behind it is. -/
example :
    parseNumber "+4294967295x".toList =
        .error (.invalidNumber "+4294967295x" .invalidDigit) ∧
      parseNumber "0xFFFFFFFF0x".toList =
        .error (.invalidNumber "0xFFFFFFFF0x" .tooLarge) := by
  decide

end RegisterMachine.Listing
