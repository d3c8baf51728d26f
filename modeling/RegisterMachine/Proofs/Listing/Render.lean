import RegisterMachine.Proofs.Listing.Parse
import RegisterMachine.Proofs.Text.Plain

/-!
# Written listings

Items written one to a line are read back.  Each number may be written in either base, and operands
that are 0 may be left off at the end of an instruction.
-/

namespace RegisterMachine

open Text

namespace Listing

/-! ## Ways to write an item -/

/-- Behind a mnemonic, a blank and the operands with commas and blanks between them. -/
def operandText : List (List Char) → List Char
  | [] => []
  | fields => ' ' :: [',', ' '].intercalate fields

/-- The ways to write an item as a line. -/
inductive Rendering : List Char → Item → Prop
  | data {cell first : Word} {address value : List Char} :
      Spelling address cell → Spelling value first →
      Rendering (dataDirective ++ [' '] ++ (address ++ [' '] ++ value))
        (.data cell first)
  | watch {cell : Word} {address : List Char} :
      Spelling address cell →
      Rendering (watchDirective ++ [' '] ++ address) (.watch cell)
  | instruction {opcode : Opcode} {dst src1 src2 : Word}
      {fields : List (List Char)} {values : List Word} (missing : Nat) :
      List.Forall₂ Spelling fields values →
      values ++ List.replicate missing 0 = [dst, src1, src2] →
      Rendering (opcode.mnemonic.toList ++ operandText fields)
        (.instruction ⟨opcode, dst, src1, src2⟩)

theorem Spelling.isWord {value : Word} {text : List Char}
    (spelling : Spelling text value) : IsWord text :=
  isWord_of_parseNumber spelling.parseNumber_eq

section Fields

variable {values : List Word} {fields : List (List Char)}

/-- The blanks behind the commas are part of the fields that follow. -/
theorem intercalate_comma_space
    (first : List Char) (others : List (List Char)) :
    [',', ' '].intercalate (first :: others) =
      [','].intercalate (first :: others.map (' ' :: ·)) := by
  induction others generalizing first with
  | nil => rfl
  | cons second others inductionHypothesis =>
      rw [List.intercalate_cons_of_ne_nil (List.cons_ne_nil _ _),
        inductionHypothesis, List.map_cons,
        List.intercalate_cons_of_ne_nil (List.cons_ne_nil _ _),
        List.intercalate_cons_cons_left]
      simp

theorem hold_of_forall₂
    (spelled : List.Forall₂ Spelling fields values) :
    Hold (fields.map (' ' :: ·)) values := by
  induction spelled with
  | nil => exact .nil
  | @cons field value _ _ spelling _ inductionHypothesis =>
      have blankDropped : trim (' ' :: field) = field := by
        rw [← trim_trimStart]
        have dropped : trimStart ([' '] ++ field) = trimStart field :=
          trimStart_append_of_blank (gap_singleton rfl).blank
        rw [List.singleton_append] at dropped
        rw [dropped, trim_trimStart, spelling.isWord.trimmed.trim_eq]
      refine .cons ?_ inductionHypothesis
      rw [holdsNumber_iff, blankDropped]
      exact spelling.parseNumber_eq

theorem trimmed_intercalate
    (present : fields ≠ []) (areWords : ∀ field ∈ fields, IsWord field) :
    Trimmed ([',', ' '].intercalate fields) ∧
      [',', ' '].intercalate fields ≠ [] := by
  induction fields with
  | nil => exact absurd rfl present
  | cons first others inductionHypothesis =>
      have isWord := areWords first List.mem_cons_self
      by_cases last : others = []
      · rw [last, List.intercalate_singleton]
        exact ⟨isWord.trimmed, isWord.nonempty⟩
      · have rest := inductionHypothesis last
          fun field member => areWords field (List.mem_cons_of_mem first member)
        rw [List.intercalate_cons_of_ne_nil last]
        refine
          ⟨.append _ isWord.trimmed isWord.nonempty rest.1 rest.2, ?_⟩
        simp [isWord.nonempty]

end Fields

/-! ## What a written line looks like -/

/-- The characters of written lines. -/
def isLineChar (c : Char) : Bool :=
  isNumberChar c || ['.', '_', ',', ' '].contains c

theorem isLineChar_of_mem_mnemonic (opcode : Opcode) :
    ∀ c ∈ opcode.mnemonic.toList, isLineChar c = true :=
  List.all_eq_true.mp (by cases opcode <;> rfl)

theorem Spelling.forall_isLineChar {value : Word} {text : List Char}
    (spelling : Spelling text value) : ∀ c ∈ text, isLineChar c = true := by
  intro c member
  have inNumber :=
    isNumberChar_of_parseNumber spelling.parseNumber_eq c member
  rw [isLineChar, inNumber, Bool.true_or]

section Lines

variable {item : Item} {line : List Char}

theorem Rendering.forall_isLineChar (rendering : Rendering line item) :
    ∀ c ∈ line, isLineChar c = true := by
  have inBlank : ∀ c ∈ [' '], isLineChar c = true := List.all_eq_true.mp rfl
  cases rendering with
  | data addressSpelled valueSpelled =>
      have inDirective : ∀ c ∈ dataDirective, isLineChar c = true :=
        List.all_eq_true.mp rfl
      simp only [List.forall_mem_append]
      exact
        ⟨⟨inDirective, inBlank⟩, ⟨addressSpelled.forall_isLineChar, inBlank⟩,
          valueSpelled.forall_isLineChar⟩
  | watch addressSpelled =>
      have inDirective : ∀ c ∈ watchDirective, isLineChar c = true :=
        List.all_eq_true.mp rfl
      simp only [List.forall_mem_append]
      exact ⟨⟨inDirective, inBlank⟩, addressSpelled.forall_isLineChar⟩
  | @instruction opcode _ _ _ fields _ missing spelled whole =>
      refine List.forall_mem_append.mpr
        ⟨isLineChar_of_mem_mnemonic opcode, ?_⟩
      have inFields : ∀ field ∈ fields, ∀ c ∈ field, isLineChar c = true := by
        intro field member
        obtain ⟨value, spelling⟩ := exists_of_forall₂ spelled field member
        exact spelling.forall_isLineChar
      have inSeparator : ∀ c ∈ [',', ' '], isLineChar c = true :=
        List.all_eq_true.mp rfl
      have inOperands := forall_mem_intercalate inSeparator inFields
      cases fields with
      | nil => exact List.forall_mem_nil _
      | cons first others =>
          exact List.forall_mem_cons.mpr ⟨rfl, inOperands⟩

theorem Rendering.trimmed (rendering : Rendering line item) :
    Trimmed line ∧ line ≠ [] := by
  cases rendering with
  | @data _ _ address value addressSpelled valueSpelled =>
      have directive := isWord_dataDirective
      have addressWord := addressSpelled.isWord
      have valueWord := valueSpelled.isWord
      have numbers :=
        Trimmed.append [' '] addressWord.trimmed addressWord.nonempty
          valueWord.trimmed valueWord.nonempty
      have numbersThere : address ++ [' '] ++ value ≠ [] := by
        simp
      exact
        ⟨.append [' '] directive.trimmed directive.nonempty numbers
          numbersThere, by simp⟩
  | watch addressSpelled =>
      have directive := isWord_watchDirective
      have addressWord := addressSpelled.isWord
      exact
        ⟨.append [' '] directive.trimmed directive.nonempty
          addressWord.trimmed addressWord.nonempty, by simp⟩
  | @instruction opcode _ _ _ fields _ missing spelled whole =>
      have mnemonic := (names_mnemonic opcode).isWord
      have areWords : ∀ field ∈ fields, IsWord field := by
        intro field member
        obtain ⟨value, spelling⟩ := exists_of_forall₂ spelled field member
        exact spelling.isWord
      cases fields with
      | nil =>
          rw [operandText, List.append_nil]
          exact ⟨mnemonic.trimmed, mnemonic.nonempty⟩
      | cons first others =>
          have operands := trimmed_intercalate (List.cons_ne_nil _ _) areWords
          have whole :=
            Trimmed.append [' '] mnemonic.trimmed mnemonic.nonempty
              operands.1 operands.2
          rw [List.append_assoc, List.singleton_append] at whole
          exact ⟨whole, by simp [mnemonic.nonempty]⟩

/-- A written line stands for itself: there is no comment in it, and no blanks are around it. -/
theorem Rendering.content_eq (rendering : Rendering line item) :
    content line = line := by
  have noComment : stripComment line = line := by
    have inside := stripComment_append rendering.forall_isLineChar rfl rfl []
    rw [List.append_nil] at inside
    exact inside.trans (List.append_nil line)
  rw [content, noComment, rendering.trimmed.1.trim_eq]

theorem Rendering.closed (rendering : Rendering line item) : Closed line where
  content := rendering.trimmed.2
  unbroken member := absurd (rendering.forall_isLineChar '\n' member) (by decide)
  last isLast :=
    absurd (rendering.trimmed.1.last '\r' isLast) (by decide)

/-! ## Reading written lines -/

theorem getD_append_replicate (values : List Word) (missing index : Nat) :
    (values ++ List.replicate missing 0).getD index 0 =
      values.getD index 0 := by
  rw [List.getD_eq_getElem?_getD, List.getD_eq_getElem?_getD]
  rcases Nat.lt_or_ge index values.length with written | leftOff
  · rw [List.getElem?_append_left written]
  · rw [List.getElem?_append_right leftOff, List.getElem?_replicate,
      List.getElem?_eq_none leftOff]
    split <;> rfl

/-- Operands that are left off are 0. -/
theorem withOperands_of_append_replicate
    {values : List Word} {missing : Nat} {dst src1 src2 : Word}
    (whole : values ++ List.replicate missing 0 = [dst, src1, src2])
    (opcode : Opcode) :
    withOperands opcode values = ⟨opcode, dst, src1, src2⟩ := by
  have operand (index : Nat) :
      values.getD index 0 = [dst, src1, src2].getD index 0 := by
    rw [← whole, getD_append_replicate]
  rw [withOperands, operand 0, operand 1, operand 2]
  rfl

theorem Rendering.form (rendering : Rendering line item) :
    Form line (some item) := by
  cases rendering with
  | data addressSpelled valueSpelled =>
      have isGap : Gap [' '] := gap_singleton rfl
      exact
        .data isGap addressSpelled.parseNumber_eq isGap
          valueSpelled.parseNumber_eq
  | watch addressSpelled =>
      exact .watch (gap_singleton rfl) addressSpelled.parseNumber_eq
  | @instruction opcode dst src1 src2 fields values missing spelled whole =>
      have names := names_mnemonic opcode
      have operands := withOperands_of_append_replicate whole opcode
      have few : fields.length ≤ 3 := by
        have counted := congrArg List.length whole
        rw [List.length_append, ← spelled.length_eq] at counted
        simp at counted
        omega
      rw [← operands]
      cases spelled with
      | nil =>
          rw [operandText, List.append_nil]
          exact .alone names
      | @cons first value others values spelling rest =>
          have firstHeld : HoldsNumber first value := by
            rw [holdsNumber_iff, spelling.isWord.trimmed.trim_eq]
            exact spelling.parseNumber_eq
          have hold :
              Hold (first :: others.map (' ' :: ·)) (value :: values) :=
            .cons firstHeld (hold_of_forall₂ rest)
          have form :=
            Form.operands names (gap_singleton rfl : Gap [' ']) (by simp)
              (by simpa using few) hold
          rw [← intercalate_comma_space, List.append_assoc,
            List.singleton_append] at form
          exact form

end Lines

/-! ## Reading all of them -/

/-- The instruction that an item is. -/
def Item.instruction? : Item → Option Instruction
  | .instruction found => some found
  | _ => none

/-- The memory cell that an item gives a value. -/
def Item.data? : Item → Option (Word × Word)
  | .data address value => some (address, value)
  | _ => none

/-- The memory cell that an item watches. -/
def Item.watch? : Item → Option Word
  | .watch address => some address
  | _ => none

theorem ofItems_eq (items : List Item) :
    ofItems items =
      ⟨items.filterMap Item.instruction?, items.filterMap Item.data?,
        items.filterMap Item.watch?⟩ := by
  induction items with
  | nil => rfl
  | cons item items inductionHypothesis =>
      rw [ofItems, List.foldr_cons, ← ofItems, inductionHypothesis]
      cases item <;> rfl

/-- Written items are read back, each kind in its order. -/
theorem parse_of_rendering
    {items : List Item} {written : List (List Char)} {text : String}
    (rendered : List.Forall₂ Rendering written items)
    (layout :
      text.toList = ['\n'].intercalate written ∨
        text.toList = written.flatMap (· ++ ['\n'])) :
    parse text =
      .ok
        ⟨items.filterMap Item.instruction?, items.filterMap Item.data?,
          items.filterMap Item.watch?⟩ := by
  have closed : ∀ line ∈ written, Closed line := by
    intro line member
    obtain ⟨item, rendering⟩ := exists_of_forall₂ rendered line member
    exact rendering.closed
  have lines_eq : lines text.toList = written := by
    rcases layout with separated | terminated
    · rw [separated, lines_separated closed]
    · rw [terminated, lines_terminated closed]
  have read : AllRead (lines text.toList) (items.map some) := by
    rw [AllRead, lines_eq, List.forall₂_map_right_iff]
    refine rendered.imp ?_
    intro line item rendering
    rw [parseLine_eq_ok_iff, rendering.content_eq]
    exact rendering.form
  have said : (items.map some).flatMap Option.toList = items := by
    rw [List.flatMap_map]
    exact List.flatMap_singleton' items
  rw [parse_of_allRead read, ← ofItems_flatMap, said, ofItems_eq]

theorem parse_of_rendering_threeLines :
    let text := ".data 100 0x05\nCHECK_FLAG 3, 1\n.watch 0XffffFFFF\n"
    let written :=
      [".data 100 0x05".toList, "CHECK_FLAG 3, 1".toList,
        ".watch 0XffffFFFF".toList]
    List.Forall₂ Rendering written
        [.data 100 5, .instruction ⟨.checkFlag, 3, 1, 0⟩, .watch 4294967295] ∧
      text.toList = written.flatMap (· ++ ['\n']) ∧
      parse text =
        .ok ⟨[⟨.checkFlag, 3, 1, 0⟩], [(100, 5)], [4294967295]⟩ := by
  intro text written
  have hundred : Spelling ['1', '0', '0'] 100 := .decimal 0 100
  have five : Spelling ['0', 'x', '0', '5'] 5 := .hexadecimal 1 (Or.inl rfl) rfl
  have three : Spelling ['3'] 3 := .decimal 0 3
  have one : Spelling ['1'] 1 := .decimal 0 1
  have largest : Spelling "0XffffFFFF".toList 4294967295 :=
    .hexadecimal 0 (Or.inr rfl) rfl
  have operands : List.Forall₂ Spelling [['3'], ['1']] [3, 1] :=
    .cons three (.cons one .nil)
  have instruction :
      Rendering (Opcode.checkFlag.mnemonic.toList ++ operandText [['3'], ['1']])
        (.instruction ⟨.checkFlag, 3, 1, 0⟩) :=
    .instruction 1 operands rfl
  have rendered :
      List.Forall₂ Rendering written
        [.data 100 5, .instruction ⟨.checkFlag, 3, 1, 0⟩, .watch 4294967295] :=
    .cons (.data hundred five)
      (.cons instruction (.cons (.watch largest) .nil))
  have layout : text.toList = written.flatMap (· ++ ['\n']) := by decide
  exact ⟨rendered, layout, parse_of_rendering rendered (Or.inr layout)⟩

end Listing

end RegisterMachine
