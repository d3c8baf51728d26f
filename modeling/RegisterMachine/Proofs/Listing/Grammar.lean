import Mathlib.Data.List.Forall2
import RegisterMachine.Proofs.Listing.Number
import RegisterMachine.Proofs.Result

/-!
# The grammar of lines

A line is read exactly if it has one of five forms, and the form tells what it says.
-/

namespace RegisterMachine.Listing

open Text

/-! ## Forms -/

theorem exists_of_forall₂
    {α β : Type} {relation : α → β → Prop} {left : List α} {right : List β}
    (related : List.Forall₂ relation left right) :
    ∀ first ∈ left, ∃ second, relation first second := by
  induction related with
  | nil => exact List.forall_mem_nil _
  | cons head _ inductionHypothesis =>
      exact List.forall_mem_cons.mpr ⟨⟨_, head⟩, inductionHypothesis⟩

/-- The word is the mnemonic of the opcode, in whatever case. -/
structure Names (word : List Char) (opcode : Opcode) : Prop where
  letters : ∀ c ∈ word, c.isAlpha = true ∨ c = '_'
  name : word.map Char.toUpper = opcode.mnemonic.toList

/-- The field holds a number, perhaps with blanks around it. -/
def HoldsNumber (field : List Char) (value : Word) : Prop :=
  ∃ number, Padded field number ∧ parseNumber number = .ok value

theorem holdsNumber_iff {field : List Char} {value : Word} :
    HoldsNumber field value ↔ parseNumber (trim field) = .ok value := by
  constructor
  · rintro ⟨number, padded, read⟩
    rw [padded_iff.mp padded]
    exact read
  · intro read
    exact ⟨trim field, padded_trim field, read⟩

def Hold (fields : List (List Char)) (values : List Word) : Prop :=
  List.Forall₂ HoldsNumber fields values

/-- An instruction with some of its operands.  Missing ones are 0. -/
def withOperands (opcode : Opcode) (values : List Word) : Instruction :=
  ⟨opcode, values.getD 0 0, values.getD 1 0, values.getD 2 0⟩

/-- The forms of a line without its comment and the blanks around it, with what it says. -/
inductive Form : List Char → Option Item → Prop
  | empty : Form [] none
  | data {before address between value : List Char} {cell first : Word} :
      Gap before → parseNumber address = .ok cell →
      Gap between → parseNumber value = .ok first →
      Form (dataDirective ++ before ++ (address ++ between ++ value))
        (some (.data cell first))
  | watch {before address : List Char} {cell : Word} :
      Gap before → parseNumber address = .ok cell →
      Form (watchDirective ++ before ++ address) (some (.watch cell))
  | alone {word : List Char} {opcode : Opcode} :
      Names word opcode →
      Form word (some (.instruction ⟨opcode, 0, 0, 0⟩))
  | operands {word gap : List Char} {fields : List (List Char)}
      {opcode : Opcode} {values : List Word} :
      Names word opcode → Gap gap →
      1 ≤ fields.length → fields.length ≤ 3 → Hold fields values →
      Form (word ++ gap ++ [','].intercalate fields)
        (some (.instruction (withOperands opcode values)))

/-! ## Mnemonics -/

section Mnemonics

variable {word : List Char} {opcode : Opcode} {c : Char}

theorem isMnemonicChar_iff :
    isMnemonicChar c = true ↔ c.isAlpha = true ∨ c = '_' := by
  rw [isMnemonicChar, Bool.or_eq_true, beq_iff_eq]

theorem Names.forall_isMnemonicChar (names : Names word opcode) :
    ∀ c ∈ word, isMnemonicChar c = true :=
  fun c member => isMnemonicChar_iff.mpr (names.letters c member)

theorem not_isBlank_of_isMnemonicChar (letter : isMnemonicChar c = true) :
    isBlank c = false := by
  rcases isMnemonicChar_iff.mp letter with alphabetic | rfl
  · have inNumber : isNumberChar c = true := by
      change (c.isAlpha || c.isDigit || c == '+') = true
      rw [alphabetic]
      rfl
    exact not_isBlank_of_isNumberChar inNumber
  · rfl

theorem Names.isWord (names : Names word opcode) : IsWord word where
  nonempty := by
    rintro rfl
    have name := names.name
    cases opcode <;> cases name
  unbroken c member :=
    not_isBlank_of_isMnemonicChar (names.forall_isMnemonicChar c member)

theorem names_mnemonic (opcode : Opcode) :
    Names opcode.mnemonic.toList opcode where
  letters c member := by
    have letters :
        ∀ c ∈ opcode.mnemonic.toList, isMnemonicChar c = true :=
      List.all_eq_true.mp (by cases opcode <;> rfl)
    exact isMnemonicChar_iff.mp (letters c member)
  name := by cases opcode <;> rfl

theorem find?_mnemonic (opcode : Opcode) :
    Opcode.all.find? (·.mnemonic.toList == opcode.mnemonic.toList) =
      some opcode := by
  cases opcode <;> rfl

theorem ofMnemonic_eq_ok_iff (isWord : IsWord word) :
    Opcode.ofMnemonic word = .ok opcode ↔
      word.map Char.toUpper = opcode.mnemonic.toList := by
  unfold Opcode.ofMnemonic
  rw [isWord.trimmed.trim_eq]
  constructor
  · intro read
    dsimp only at read
    split at read
    · next found =>
        cases read
        have same := List.find?_some found
        exact (beq_iff_eq.mp same).symm
    · cases read
  · intro name
    dsimp only
    rw [name, find?_mnemonic]

end Mnemonics

/-! ## Operands -/

section Operands

variable {fields : List (List Char)} {values : List Word}

/-- Operands are read from one to three fields. -/
theorem parseOperands_eq_ok_iff {text : List Char} {operands : Word × Word × Word} :
    parseOperands text = .ok operands ↔
      (text.splitOn ',').length ≤ 3 ∧
        ∃ values,
          Hold (text.splitOn ',') values ∧
            operands = (values.getD 0 0, values.getD 1 0, values.getD 2 0) := by
  have content := List.splitOn_ne_nil ',' text
  unfold parseOperands
  generalize text.splitOn ',' = fields at content ⊢
  match fields with
  | [first] =>
      constructor
      · intro read
        obtain ⟨dst, firstRead, rest⟩ := bind_eq_ok_iff.mp read
        cases rest
        exact ⟨by simp, [dst], .cons (holdsNumber_iff.mpr firstRead) .nil, rfl⟩
      · rintro ⟨-, _, _ | ⟨firstRead, ⟨⟩⟩, rfl⟩
        exact bind_eq_ok_iff.mpr ⟨_, holdsNumber_iff.mp firstRead, rfl⟩
  | [first, second] =>
      constructor
      · intro read
        obtain ⟨dst, firstRead, read⟩ := bind_eq_ok_iff.mp read
        obtain ⟨src1, secondRead, rest⟩ := bind_eq_ok_iff.mp read
        cases rest
        exact
          ⟨by simp, [dst, src1], .cons (holdsNumber_iff.mpr firstRead) (.cons (holdsNumber_iff.mpr secondRead) .nil), rfl⟩
      · rintro ⟨-, _, _ | ⟨firstRead, _ | ⟨secondRead, ⟨⟩⟩⟩, rfl⟩
        refine bind_eq_ok_iff.mpr ⟨_, holdsNumber_iff.mp firstRead, ?_⟩
        exact bind_eq_ok_iff.mpr ⟨_, holdsNumber_iff.mp secondRead, rfl⟩
  | [first, second, third] =>
      constructor
      · intro read
        obtain ⟨dst, firstRead, read⟩ := bind_eq_ok_iff.mp read
        obtain ⟨src1, secondRead, read⟩ := bind_eq_ok_iff.mp read
        obtain ⟨src2, thirdRead, rest⟩ := bind_eq_ok_iff.mp read
        cases rest
        exact
          ⟨by simp, [dst, src1, src2],
            .cons (holdsNumber_iff.mpr firstRead) (.cons (holdsNumber_iff.mpr secondRead) (.cons (holdsNumber_iff.mpr thirdRead) .nil)), rfl⟩
      · rintro
          ⟨-, _, _ | ⟨firstRead, _ | ⟨secondRead, _ | ⟨thirdRead, ⟨⟩⟩⟩⟩, rfl⟩
        refine bind_eq_ok_iff.mpr ⟨_, holdsNumber_iff.mp firstRead, ?_⟩
        refine bind_eq_ok_iff.mpr ⟨_, holdsNumber_iff.mp secondRead, ?_⟩
        exact bind_eq_ok_iff.mpr ⟨_, holdsNumber_iff.mp thirdRead, rfl⟩
  | first :: second :: third :: fourth :: others =>
      constructor
      · nofun
      · rintro ⟨few, -⟩
        simp only [List.length_cons] at few
        omega

theorem Hold.comma_not_mem {fields : List (List Char)} {values : List Word}
    (hold : Hold fields values) : ∀ field ∈ fields, ',' ∉ field := by
  intro field inFields inField
  obtain ⟨value, held⟩ := exists_of_forall₂ hold field inFields
  have read := holdsNumber_iff.mp held
  rcases mem_trim_or_isBlank inField with inNumber | blank
  · have numberChar := isNumberChar_of_parseNumber read ',' inNumber
    exact absurd numberChar (by decide)
  · exact absurd blank (by decide)

theorem trimStart_intercalate
    {first : List Char} {others : List (List Char)}
    (content : trimStart first ≠ []) :
    trimStart ([','].intercalate (first :: others)) =
      [','].intercalate (trimStart first :: others) := by
  by_cases last : others = []
  · rw [last, List.intercalate_singleton, List.intercalate_singleton]
  · rw [List.intercalate_cons_of_ne_nil last,
      List.intercalate_cons_of_ne_nil last, List.append_assoc,
      trimStart_append_of_ne_nil content, List.append_assoc]

/-- The fields between the commas are read, with blanks before the first as before the others. -/
theorem parseOperands_intercalate
    {fields : List (List Char)} {values : List Word}
    (present : 1 ≤ fields.length) (few : fields.length ≤ 3)
    (hold : Hold fields values) :
    parseOperands (trimStart ([','].intercalate fields)) =
      .ok (values.getD 0 0, values.getD 1 0, values.getD 2 0) := by
  cases hold with
  | nil => cases present
  | @cons first value others _ held rest =>
      have read := holdsNumber_iff.mp held
      have content : trimStart first ≠ [] := by
        intro blank
        apply (isWord_of_parseNumber read).nonempty
        rw [← trim_trimStart, blank]
        rfl
      have trimmedHeld : HoldsNumber (trimStart first) value := by
        rw [holdsNumber_iff, trim_trimStart]
        exact read
      have trimmed : Hold (trimStart first :: others) (value :: _) :=
        .cons trimmedHeld rest
      have split :
          ([','].intercalate (trimStart first :: others)).splitOn ',' =
            trimStart first :: others :=
        List.splitOn_intercalate ',' trimmed.comma_not_mem
          (List.cons_ne_nil _ _)
      rw [trimStart_intercalate content, parseOperands_eq_ok_iff, split]
      exact ⟨few, _, trimmed, rfl⟩

end Operands

/-! ## Instructions -/

section Instructions

variable {line word behind : List Char} {instruction : Instruction}

theorem span_mnemonic
    (letters : ∀ c ∈ word, isMnemonicChar c = true)
    (blank : ∀ c ∈ behind.head?, isBlank c = true) :
    (word ++ behind).takeWhile isMnemonicChar = word ∧
      (word ++ behind).dropWhile isMnemonicChar = behind := by
  apply span_append letters
  intro c isFirst
  apply Bool.eq_false_iff.mpr
  intro letter
  have isNoBlank := not_isBlank_of_isMnemonicChar letter
  rw [blank c isFirst] at isNoBlank
  cases isNoBlank

/-- An instruction is its mnemonic and the operands behind it, if anything is behind it. -/
theorem parseInstruction_eq_ok_iff
    (letters : ∀ c ∈ word, isMnemonicChar c = true) (content : word ≠ [])
    (blank : ∀ c ∈ behind.head?, isBlank c = true) :
    parseInstruction (word ++ behind) = .ok instruction ↔
      ∃ opcode dst src1 src2,
        Names word opcode ∧ ⟨opcode, dst, src1, src2⟩ = instruction ∧
          if behind = [] then (dst, src1, src2) = (0, 0, 0)
          else parseOperands (trimStart behind) = .ok (dst, src1, src2) := by
  have isWord : IsWord word :=
    ⟨content, fun c member => not_isBlank_of_isMnemonicChar (letters c member)⟩
  obtain ⟨taken, dropped⟩ := span_mnemonic letters blank
  have accepted :
      ¬ (word.isEmpty || !(behind.take 1).all isBlank) = true := by
    cases behind with
    | nil => simp [content]
    | cons first others => simp [content, blank first rfl]
  unfold parseInstruction
  rw [taken, dropped]
  dsimp only
  rw [if_neg accepted]
  simp only [List.isEmpty_iff]
  constructor
  · intro read
    obtain ⟨opcode, named, read⟩ := bind_eq_ok_iff.mp read
    have name := (ofMnemonic_eq_ok_iff isWord).mp (mapError_eq_ok_iff.mp named)
    have names : Names word opcode :=
      ⟨fun c member => isMnemonicChar_iff.mp (letters c member), name⟩
    by_cases alone : behind = []
    · rw [if_pos alone] at read
      refine ⟨opcode, 0, 0, 0, names, Except.ok.inj read, ?_⟩
      rw [if_pos alone]
    · rw [if_neg alone] at read
      obtain ⟨⟨dst, src1, src2⟩, operands, made⟩ := bind_eq_ok_iff.mp read
      refine ⟨opcode, dst, src1, src2, names, Except.ok.inj made, ?_⟩
      rw [if_neg alone]
      exact operands
  · rintro ⟨opcode, dst, src1, src2, names, rfl, operands⟩
    have named := (ofMnemonic_eq_ok_iff isWord).mpr names.name
    refine bind_eq_ok_iff.mpr ⟨opcode, mapError_eq_ok_iff.mpr named, ?_⟩
    by_cases alone : behind = []
    · rw [if_pos alone] at operands ⊢
      cases operands
      rfl
    · rw [if_neg alone] at operands ⊢
      exact bind_eq_ok_iff.mpr ⟨_, operands, rfl⟩

/-- A line whose mnemonic is not followed by a blank is refused. -/
theorem blank_behind_of_parseInstruction
    (read : parseInstruction line = .ok instruction) :
    line.takeWhile isMnemonicChar ≠ [] ∧
      ∀ c ∈ (line.dropWhile isMnemonicChar).head?, isBlank c = true := by
  unfold parseInstruction at read
  dsimp only at read
  split at read
  · cases read
  · next accepted =>
      rw [Bool.or_eq_true, not_or] at accepted
      obtain ⟨content, behind⟩ := accepted
      refine ⟨fun blank => content (List.isEmpty_iff.mpr blank), ?_⟩
      intro c isFirst
      obtain ⟨others, behind_eq⟩ := List.head?_eq_some_iff.mp isFirst
      rw [behind_eq] at behind
      simpa using behind

theorem form_of_parseInstruction
    (trimmed : Trimmed line)
    (read : parseInstruction line = .ok instruction) :
    Form line (some (.instruction instruction)) := by
  obtain ⟨content, blank⟩ := blank_behind_of_parseInstruction read
  have letters :
      ∀ c ∈ line.takeWhile isMnemonicChar, isMnemonicChar c = true :=
    fun c member => List.mem_takeWhile_imp member
  have split :
      line.takeWhile isMnemonicChar ++ line.dropWhile isMnemonicChar = line :=
    List.takeWhile_append_dropWhile
  generalize line.takeWhile isMnemonicChar = word at content letters split
  generalize line.dropWhile isMnemonicChar = behind at blank split
  subst split
  obtain ⟨opcode, dst, src1, src2, names, rfl, operands⟩ :=
    (parseInstruction_eq_ok_iff letters content blank).mp read
  by_cases alone : behind = []
  · rw [if_pos alone] at operands
    cases operands
    rw [alone, List.append_nil]
    exact .alone names
  · rw [if_neg alone] at operands
    have last : ∀ c ∈ behind.getLast?, isBlank c = false := by
      rw [← List.getLast?_append_of_ne_nil word alone]
      exact trimmed.last
    obtain ⟨gap, rest, rfl, isGap, restTrimmed, -⟩ :=
      exists_gap blank last alone
    rw [trimStart_append_of_blank isGap.blank,
      trimStart_eq_self restTrimmed.head] at operands
    rw [← List.append_assoc]
    obtain ⟨few, values, hold, operands_eq⟩ :=
      parseOperands_eq_ok_iff.mp operands
    have present : 1 ≤ (rest.splitOn ',').length :=
      List.length_pos_of_ne_nil (List.splitOn_ne_nil ',' rest)
    have form := Form.operands names isGap present few hold
    rw [List.intercalate_splitOn] at form
    cases operands_eq
    exact form

end Instructions

/-! ## Lines -/

section Lines

variable {line : List Char} {item : Item}

theorem isWord_dataDirective : IsWord dataDirective :=
  isWord_of_all (List.cons_ne_nil _ _) rfl

theorem isWord_watchDirective : IsWord watchDirective :=
  isWord_of_all (List.cons_ne_nil _ _) rfl

theorem form_of_parseContent
    (trimmed : Trimmed line)
    (read : parseContent line = .ok item) :
    Form line (some item) := by
  have form_of_instruction :
      (do return Item.instruction (← parseInstruction line)) = .ok item →
        Form line (some item) := by
    intro read
    obtain ⟨instruction, instructionRead, made⟩ := bind_eq_ok_iff.mp read
    cases made
    exact form_of_parseInstruction trimmed instructionRead
  unfold parseContent at read
  split at read
  · next directive address value words_eq =>
      split at read
      · next isData =>
          subst isData
          obtain ⟨cell, addressRead, read⟩ := bind_eq_ok_iff.mp read
          obtain ⟨first, valueRead, made⟩ := bind_eq_ok_iff.mp read
          cases made
          obtain ⟨before, rest, rfl, isBefore, restTrimmed, rest_eq⟩ :=
            trimmed.split_of_words_eq words_eq
          obtain ⟨between, last, rfl, isBetween, lastTrimmed, last_eq⟩ :=
            restTrimmed.split_of_words_eq rest_eq
          rw [lastTrimmed.eq_of_words_eq last_eq]
          exact .data isBefore addressRead isBetween valueRead
      · exact form_of_instruction read
  · next directive address words_eq =>
      split at read
      · next isWatch =>
          subst isWatch
          obtain ⟨cell, addressRead, made⟩ := bind_eq_ok_iff.mp read
          cases made
          obtain ⟨before, rest, rfl, isBefore, restTrimmed, rest_eq⟩ :=
            trimmed.split_of_words_eq words_eq
          rw [restTrimmed.eq_of_words_eq rest_eq]
          exact .watch isBefore addressRead
      · exact form_of_instruction read
  · exact form_of_instruction read

/-- What begins with a letter is no directive. -/
theorem parseContent_of_names
    {word : List Char} {others : List (List Char)} {opcode : Opcode}
    (names : Names word opcode) (words_eq : words line = word :: others) :
    parseContent line = (do return .instruction (← parseInstruction line)) := by
  have noDot : '.' ∉ word := by
    intro member
    exact absurd (names.letters '.' member) (by decide)
  have noData : word ≠ dataDirective := by
    rintro rfl
    exact noDot List.mem_cons_self
  have noWatch : word ≠ watchDirective := by
    rintro rfl
    exact noDot List.mem_cons_self
  unfold parseContent
  rw [words_eq]
  match others with
  | [] => rfl
  | [address] => exact if_neg noWatch
  | [address, value] => exact if_neg noData
  | _ :: _ :: _ :: _ => rfl

theorem parseContent_of_form (form : Form line (some item)) :
    parseContent line = .ok item := by
  cases form with
  | @data before address between value cell first isBefore addressRead isBetween
      valueRead =>
      have addressWord := isWord_of_parseNumber addressRead
      have valueWord := isWord_of_parseNumber valueRead
      unfold parseContent
      rw [isWord_dataDirective.words_append isBefore,
        addressWord.words_append isBetween, valueWord.words_eq]
      dsimp only
      rw [if_pos rfl, addressRead, valueRead]
      rfl
  | @watch before address cell isBefore addressRead =>
      have addressWord := isWord_of_parseNumber addressRead
      unfold parseContent
      rw [isWord_watchDirective.words_append isBefore, addressWord.words_eq]
      dsimp only
      rw [if_pos rfl, addressRead]
      rfl
  | @alone word opcode names =>
      have isWord := names.isWord
      have blank : ∀ c ∈ ([] : List Char).head?, isBlank c = true := nofun
      have read :=
        (parseInstruction_eq_ok_iff names.forall_isMnemonicChar isWord.nonempty blank).mpr
          ⟨opcode, 0, 0, 0, names, rfl, (if_pos rfl).mpr rfl⟩
      rw [List.append_nil] at read
      rw [parseContent_of_names names isWord.words_eq, read]
      rfl
  | @operands word gap fields opcode values names isGap present few hold =>
      have isWord := names.isWord
      have operandsRead := parseOperands_intercalate present few hold
      rw [← trimStart_append_of_blank isGap.blank] at operandsRead
      have more : gap ++ [','].intercalate fields ≠ [] := by
        simp [isGap.nonempty]
      have blank :
          ∀ c ∈ (gap ++ [','].intercalate fields).head?, isBlank c = true := by
        rw [List.head?_append_of_ne_nil gap isGap.nonempty]
        exact fun c isFirst => isGap.blank c (List.mem_of_mem_head? isFirst)
      have read :=
        (parseInstruction_eq_ok_iff names.forall_isMnemonicChar isWord.nonempty blank).mpr
          ⟨opcode, _, _, _, names, rfl, (if_neg more).mpr operandsRead⟩
      rw [← List.append_assoc] at read
      have words_eq :=
        isWord.words_append isGap ([','].intercalate fields)
      rw [parseContent_of_names names words_eq, read]
      rfl

theorem Form.ne_nil (form : Form line (some item)) : line ≠ [] := by
  rintro rfl
  have read := parseContent_of_form form
  cases read

/-- A line without its comment and the blanks around it. -/
def content (line : List Char) : List Char :=
  trim (stripComment line)

/-- Characters of a class without the comment marks belong to no comment. -/
theorem stripComment_append
    {inClass : Char → Bool} {text : List Char}
    (inside : ∀ c ∈ text, inClass c = true)
    (noSemicolon : inClass ';' = false) (noNumberSign : inClass '#' = false)
    (rest : List Char) :
    stripComment (text ++ rest) = text ++ stripComment rest := by
  apply List.takeWhile_append_of_pos
  intro c member
  have inText := inside c member
  rw [Bool.and_eq_true, bne_iff_ne, bne_iff_ne]
  constructor
  · intro isSemicolon
    rw [isSemicolon, noSemicolon] at inText
    cases inText
  · intro isNumberSign
    rw [isNumberSign, noNumberSign] at inText
    cases inText

theorem stripComment_mark
    {mark : Char} (isMark : mark = ';' ∨ mark = '#') (remark : List Char) :
    stripComment (mark :: remark) = [] := by
  have opens : ¬ (mark != ';' && mark != '#') = true := by
    rcases isMark with isSemicolon | isNumberSign
    · simp [isSemicolon]
    · simp [isNumberSign]
  exact List.takeWhile_cons_of_neg opens

/-- `written` is what comes before the first comment mark of a line. -/
inductive Uncommented : List Char → List Char → Prop
  | whole {line : List Char} :
      (∀ c ∈ line, c ≠ ';' ∧ c ≠ '#') → Uncommented line line
  | cut {written : List Char} {mark : Char} (remark : List Char) :
      (∀ c ∈ written, c ≠ ';' ∧ c ≠ '#') → mark = ';' ∨ mark = '#' →
      Uncommented (written ++ mark :: remark) written

theorem uncommented_stripComment (line : List Char) :
    Uncommented line (stripComment line) := by
  have unmarked : ∀ c ∈ stripComment line, c ≠ ';' ∧ c ≠ '#' := by
    intro c member
    have inText := List.mem_takeWhile_imp member
    rwa [Bool.and_eq_true, bne_iff_ne, bne_iff_ne] at inText
  have split : stripComment line ++ line.dropWhile _ = line :=
    List.takeWhile_append_dropWhile
  have stops := List.head?_dropWhile_not (fun c => c != ';' && c != '#') line
  cases behind : line.dropWhile fun c => c != ';' && c != '#' with
  | nil =>
      rw [behind, List.append_nil] at split
      rw [split] at unmarked ⊢
      exact .whole unmarked
  | cons mark remark =>
      have isMark : mark = ';' ∨ mark = '#' := by
        rw [behind] at stops
        by_contra isText
        rw [not_or] at isText
        simp [isText] at stops
      rw [behind] at split
      have uncommented := Uncommented.cut remark unmarked isMark
      rw [split] at uncommented
      exact uncommented

/-- There is only one way to leave off the comment of a line. -/
theorem uncommented_iff {written : List Char} :
    Uncommented line written ↔ stripComment line = written := by
  constructor
  · intro uncommented
    have inText (unmarked : ∀ c ∈ written, c ≠ ';' ∧ c ≠ '#') :
        ∀ c ∈ written, (c != ';' && c != '#') = true := by
      intro c member
      rw [Bool.and_eq_true, bne_iff_ne, bne_iff_ne]
      exact unmarked c member
    cases uncommented with
    | whole unmarked =>
        have kept := stripComment_append (inText unmarked) rfl rfl []
        rw [List.append_nil] at kept
        exact kept.trans (List.append_nil line)
    | cut remark unmarked isMark =>
        rw [stripComment_append (inText unmarked) rfl rfl,
          stripComment_mark isMark, List.append_nil]
  · rintro rfl
    exact uncommented_stripComment line

/-- What a line says: without its comment and the blanks around it, it has one of the forms. -/
def Says (line : List Char) (said : Option Item) : Prop :=
  ∃ written text,
    Uncommented line written ∧ Padded written text ∧ Form text said

theorem says_iff {said : Option Item} :
    Says line said ↔ Form (content line) said := by
  constructor
  · rintro ⟨written, text, uncommented, padded, form⟩
    rw [content, uncommented_iff.mp uncommented, padded_iff.mp padded]
    exact form
  · intro form
    exact
      ⟨stripComment line, content line, uncommented_stripComment line,
        padded_trim (stripComment line), form⟩

/-- A line is read exactly if it has a form, and then it says what the form says. -/
theorem parseLine_eq_ok_iff {said : Option Item} :
    parseLine line = .ok said ↔ Form (content line) said := by
  have trimmed : Trimmed (content line) := trimmed_trim (stripComment line)
  unfold parseLine
  change
    (if (content line).isEmpty = true then _ else _) = _ ↔ _
  by_cases blank : content line = []
  · rw [blank]
    constructor
    · intro read
      cases read
      exact .empty
    · intro form
      cases said with
      | none => rfl
      | some item => exact absurd rfl form.ne_nil
  · rw [if_neg fun isEmpty => blank (List.isEmpty_iff.mp isEmpty)]
    constructor
    · intro read
      obtain ⟨item, contentRead, made⟩ := bind_eq_ok_iff.mp read
      cases made
      exact form_of_parseContent trimmed contentRead
    · intro form
      cases said with
      | none =>
          generalize content line = text at form blank
          cases form
          exact absurd rfl blank
      | some item =>
          exact bind_eq_ok_iff.mpr ⟨item, parseContent_of_form form, rfl⟩

end Lines

end RegisterMachine.Listing
