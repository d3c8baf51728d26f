import Mathlib.Logic.Relation
import RegisterMachine.Proofs.Listing.Parse

/-!
# Edits that a listing does not notice

Blanks around a line, comments and the endings of lines say nothing: what is read of a text, or the
error that it gives, stays the same however they are changed.  A line of blanks and comments that is
put in only raises the number of an error behind it.
-/

namespace RegisterMachine.Listing

open Text

/-! ## Lines that say nothing -/

section Silence

variable {line gap rest : List Char}

/-- Blanks, and perhaps a comment behind them. -/
inductive Silent : List Char → Prop
  | blanks {gap : List Char} : (∀ c ∈ gap, isBlank c = true) → Silent gap
  | comment {gap : List Char} {mark : Char} (remark : List Char) :
      (∀ c ∈ gap, isBlank c = true) → mark = ';' ∨ mark = '#' →
      Silent (gap ++ mark :: remark)

theorem Silent.blank (silent : Silent rest) :
    ∀ c ∈ stripComment rest, isBlank c = true := by
  cases silent with
  | blanks blank =>
      exact fun c member => blank c ((List.takeWhile_sublist _).subset member)
  | @comment gap mark remark blank isMark =>
      rw [stripComment_append blank rfl rfl, stripComment_mark isMark,
        List.append_nil]
      exact blank

/-- Only what comes before the first comment counts, and no blanks at its end. -/
theorem content_append_of_silent
    (silent : Silent rest) (line : List Char) :
    content (line ++ rest) = content line := by
  have blank := silent.blank
  unfold content
  unfold stripComment at blank ⊢
  rw [List.takeWhile_append]
  split
  · next uncommented =>
      rw [(List.takeWhile_prefix _).eq_of_length uncommented]
      exact trim_append_of_blank blank line
  · rfl

theorem content_blank_append
    (blank : ∀ c ∈ gap, isBlank c = true) (rest : List Char) :
    content (gap ++ rest) = content rest := by
  rw [content, stripComment_append blank rfl rfl, trim_blank_append blank, content]

theorem parseLine_eq_of_content_eq
    {edited : List Char} (same : content edited = content line) :
    parseLine edited = parseLine line := by
  unfold content at same
  unfold parseLine
  rw [same]

theorem parseLine_of_silent (silent : Silent line) :
    parseLine line = .ok none :=
  parseLine_eq_of_content_eq (content_append_of_silent silent [])

theorem parseLine_append_return (line : List Char) :
    parseLine (line ++ ['\r']) = parseLine line := by
  have silent : Silent ['\r'] := .blanks (List.all_eq_true.mp rfl)
  exact parseLine_eq_of_content_eq (content_append_of_silent silent line)

theorem parseLine_dropReturn (line : List Char) :
    parseLine (dropReturn line) = parseLine line := by
  rcases exists_return_of_dropReturn line with kept | dropped
  · rw [← kept]
  · rw [congrArg parseLine dropped]
    exact (parseLine_append_return (dropReturn line)).symm

end Silence

/-! ## Lines among others -/

section Lines

variable {line edited : List Char} {before after : List (List Char)}
variable {number bound : Nat}

theorem parseLines_replace
    (same : parseLine edited = parseLine line) (number : Nat) :
    parseLines number (before ++ edited :: after) =
      parseLines number (before ++ line :: after) := by
  induction before generalizing number with
  | nil =>
      rw [List.nil_append, List.nil_append, parseLines, parseLines, same]
  | cons first before inductionHypothesis =>
      rw [List.cons_append, List.cons_append, parseLines, parseLines,
        inductionHypothesis (number + 1)]

/-- The error with its line number raised if it is at the bound or behind it. -/
def Error.raise (bound : Nat) (error : Error) : Error :=
  if error.line < bound then error else { error with line := error.line + 1 }

theorem parseLines_succ (atLeast : bound ≤ number) :
    parseLines (number + 1) after =
      (parseLines number after).mapError (Error.raise bound) := by
  induction after generalizing number with
  | nil => rfl
  | cons line after inductionHypothesis =>
      rw [parseLines, parseLines]
      cases parseLine line with
      | error cause =>
          have behind : ¬ number < bound := Nat.not_lt.mpr atLeast
          simp [Except.mapError, Error.raise, behind]
      | ok said =>
          dsimp only
          rw [inductionHypothesis (Nat.le_succ_of_le atLeast)]
          cases parseLines (number + 1) after <;> rfl

/-- A line that says nothing moves what comes behind it. -/
theorem parseLines_insert
    (silent : parseLine line = .ok none) (number : Nat) :
    parseLines number (before ++ line :: after) =
      (parseLines number (before ++ after)).mapError
        (Error.raise (number + before.length)) := by
  induction before generalizing number with
  | nil =>
      have moved :
          parseLines (number + 1) after =
            (parseLines number after).mapError (Error.raise number) :=
        parseLines_succ (Nat.le_refl number)
      rw [List.nil_append, List.nil_append, parseLines, silent, moved]
      cases parseLines number after <;> rfl
  | cons first before inductionHypothesis =>
      have counted :
          number + 1 + before.length = number + (before.length + 1) := by
        omega
      rw [List.cons_append, List.cons_append, parseLines, parseLines,
        List.length_cons]
      cases parseLine first with
      | error cause =>
          simp [Except.mapError, Error.raise]
      | ok said =>
          dsimp only
          rw [inductionHypothesis (number + 1), counted]
          cases parseLines (number + 1) (before ++ after) <;> rfl

theorem parseLines_append_silent
    (silent : parseLine line = .ok none) (number : Nat) :
    parseLines number (before ++ [line]) = parseLines number before := by
  induction before generalizing number with
  | nil => simp [parseLines, silent]
  | cons first before inductionHypothesis =>
      rw [List.cons_append, parseLines, parseLines,
        inductionHypothesis (number + 1)]

end Lines

/-! ## A line at its place in a text -/

section Places

variable {count : Nat} {front back later line : List Char}

/-- The text is read line by line, in whatever way the line ends. -/
theorem parse_of_lineEnd
    (whole : WholeLines count front) (ended : LineEnd back later)
    (unbroken : '\n' ∉ line) :
    parse (String.ofList (front ++ line ++ back)) =
      (parseLines 1 (lines front ++ line :: lines later)).map ofItems := by
  rw [parse, String.toList_ofList, List.append_assoc, whole.lines_append]
  cases ended with
  | last =>
      rw [List.append_nil, lines_of_newline_not_mem unbroken]
      by_cases blank : line = []
      · have silent : parseLine line = .ok none := by
          rw [blank]
          rfl
        rw [if_pos blank, List.append_nil,
          ← parseLines_append_silent silent 1]
        rfl
      · rw [if_neg blank]
        rfl
  | feed =>
      rw [lines_append_newline unbroken,
        parseLines_replace (parseLine_dropReturn line)]
  | returnFeed =>
      have returned : '\n' ∉ line ++ ['\r'] := by
        simp [unbroken]
      have ending :
          line ++ '\r' :: '\n' :: later = line ++ ['\r'] ++ '\n' :: later := by
        simp
      rw [ending, lines_append_newline returned, dropReturn_append_return]

end Places

/-! ## Edits -/

/-- A change of a line, by other blanks before its content, or by other blanks and another comment
behind it. -/
inductive LineEdit : List Char → List Char → Prop
  | before {old new : List Char} (rest : List Char) :
      (∀ c ∈ old, isBlank c = true) → (∀ c ∈ new, isBlank c = true) →
      LineEdit (old ++ rest) (new ++ rest)
  | behind {old new : List Char} (line : List Char) :
      Silent old → Silent new → LineEdit (line ++ old) (line ++ new)

/-- The same mnemonic, or a part of it, in other capitals. -/
inductive Recasing : List Char → List Char → Prop
  | word {gap word recased : List Char} (rest : List Char) :
      (∀ c ∈ gap, isBlank c = true) →
      (∀ c ∈ word, isMnemonicChar c = true) →
      (∀ c ∈ recased, isMnemonicChar c = true) →
      recased.map Char.toUpper = word.map Char.toUpper →
      Recasing (gap ++ word ++ rest) (gap ++ recased ++ rest)

/-- A change of one line of a text, or of the ending of one. -/
inductive Edit (change : List Char → List Char → Prop) :
    List Char → List Char → Prop
  | line {count : Nat} {front line edited back later : List Char} :
      WholeLines count front → LineEnd back later →
      '\n' ∉ line → '\n' ∉ edited → change line edited →
      Edit change (front ++ line ++ back) (front ++ edited ++ back)
  | ending (front back : List Char) :
      Edit change (front ++ '\n' :: back) (front ++ '\r' :: '\n' :: back)

theorem LineEdit.parseLine_eq
    {line edited : List Char} (edit : LineEdit line edited) :
    parseLine edited = parseLine line := by
  apply parseLine_eq_of_content_eq
  cases edit with
  | before rest oldBlank newBlank =>
      rw [content_blank_append oldBlank, content_blank_append newBlank]
  | behind line oldSilent newSilent =>
      rw [content_append_of_silent oldSilent, content_append_of_silent newSilent]

/-! ### Mnemonics in other capitals -/

section Recasings

variable {word recased rest behind : List Char} {opcode : Opcode}

theorem Names.recase
    (names : Names (word ++ behind) opcode)
    (letters : ∀ c ∈ recased, isMnemonicChar c = true)
    (capitals : recased.map Char.toUpper = word.map Char.toUpper) :
    Names (recased ++ behind) opcode where
  letters c member := by
    rcases List.mem_append.mp member with inWord | isBehind
    · exact isMnemonicChar_iff.mp (letters c inWord)
    · exact names.letters c (List.mem_append_right word isBehind)
  name := by
    rw [List.map_append, capitals, ← List.map_append]
    exact names.name

/-- What begins a line with letters begins its mnemonic. -/
theorem exists_mnemonic
    {gap : List Char} (letters : ∀ c ∈ word, isMnemonicChar c = true)
    {mnemonic : List Char} (isGap : Gap gap)
    (split : word ++ rest = mnemonic ++ (gap ++ behind)) :
    ∃ others, mnemonic = word ++ others ∧ rest = others ++ (gap ++ behind) := by
  rcases List.append_eq_append_iff.mp split with
    longer | ⟨others, rfl, behind_eq⟩
  · exact longer
  · cases others with
    | nil => exact ⟨[], by simp, by simpa using behind_eq.symm⟩
    | cons first others =>
        -- The word would reach into the blanks behind the mnemonic.
        obtain ⟨blank, gapOthers, rfl⟩ := List.exists_cons_of_ne_nil isGap.nonempty
        obtain ⟨rfl, -⟩ := List.cons.inj behind_eq
        have letter := letters blank (by simp)
        have noBlank := not_isBlank_of_isMnemonicChar letter
        rw [isGap.blank blank List.mem_cons_self] at noBlank
        cases noBlank

theorem Form.recase
    {said : Option Item} (form : Form (word ++ rest) said)
    (content : word ≠ [])
    (letters : ∀ c ∈ word, isMnemonicChar c = true)
    (recasedLetters : ∀ c ∈ recased, isMnemonicChar c = true)
    (capitals : recased.map Char.toUpper = word.map Char.toUpper) :
    Form (recased ++ rest) said := by
  obtain ⟨first, others, rfl⟩ := List.exists_cons_of_ne_nil content
  have noDot : first ≠ '.' := by
    intro isDot
    have letter := letters first List.mem_cons_self
    rw [isDot] at letter
    exact absurd letter (by decide)
  generalize line_eq : first :: others ++ rest = line at form
  cases form with
  | empty => cases line_eq
  | data => exact absurd (List.cons.inj line_eq).1 noDot
  | watch => exact absurd (List.cons.inj line_eq).1 noDot
  | alone names =>
      rw [← line_eq] at names
      exact .alone (names.recase recasedLetters capitals)
  | @operands mnemonic gap fields opcode values names isGap present few hold =>
      rw [List.append_assoc] at line_eq
      obtain ⟨tail, rfl, rfl⟩ := exists_mnemonic letters isGap line_eq
      rw [← List.append_assoc, ← List.append_assoc]
      exact
        .operands (names.recase recasedLetters capitals) isGap present few hold

theorem content_append
    (content_ne : word ≠ [])
    (letters : ∀ c ∈ word, isMnemonicChar c = true) (rest : List Char) :
    content (word ++ rest) = word ++ trimEnd (stripComment rest) := by
  have isWord : IsWord word :=
    ⟨content_ne, fun c member => not_isBlank_of_isMnemonicChar (letters c member)⟩
  have head :
      ∀ c ∈ (word ++ stripComment rest).head?, isBlank c = false := by
    rw [List.head?_append_of_ne_nil word content_ne]
    exact isWord.trimmed.head
  rw [content, stripComment_append letters rfl rfl, trim,
    trimStart_eq_self head, isWord.trimEnd_append]

theorem Recasing.parseLine_eq
    {line edited : List Char} {said : Option Item}
    (recasing : Recasing line edited) (read : parseLine line = .ok said) :
    parseLine edited = .ok said := by
  obtain @⟨gap, word, recased, rest, blank, letters, recasedLetters, capitals⟩ :=
    recasing
  by_cases noWord : word = []
  · subst noWord
    rw [List.map_nil, List.map_eq_nil_iff] at capitals
    rw [capitals]
    exact read
  · have recasedWord : recased ≠ [] := by
      intro nothing
      rw [nothing, List.map_nil] at capitals
      exact noWord (List.map_eq_nil_iff.mp capitals.symm)
    rw [parseLine_eq_ok_iff, List.append_assoc, content_blank_append blank,
      content_append noWord letters] at read
    rw [parseLine_eq_ok_iff, List.append_assoc, content_blank_append blank,
      content_append recasedWord recasedLetters]
    exact read.recase noWord letters recasedLetters capitals

end Recasings

section Edits

variable {change : List Char → List Char → Prop} {text edited : List Char}

/-- An edit leaves what is read, if the change of the line leaves what is read of the line. -/
theorem Edit.parse_eq
    (edit : Edit change text edited)
    (unnoticed :
      ∀ before line edited after,
        change line edited →
        parse (String.ofList text) =
          (parseLines 1 (before ++ line :: after)).map ofItems →
        parseLine edited = parseLine line) :
    parse (String.ofList edited) = parse (String.ofList text) := by
  cases edit with
  | line whole ended unbroken editedUnbroken changed =>
      have original := parse_of_lineEnd whole ended unbroken
      have same := unnoticed _ _ _ _ changed original
      rw [original, parse_of_lineEnd whole ended editedUnbroken,
        parseLines_replace same]
  | ending front back =>
      obtain ⟨count, front, line, rfl, whole, unbroken⟩ :=
        exists_wholeLines front
      rw [parse_of_lineEnd whole (.feed back) unbroken,
        parse_of_lineEnd whole (.returnFeed back) unbroken]

/-- All lines of a listing are read. -/
theorem exists_said_of_parse
    {before after : List (List Char)} {line : List Char} {listing : Listing}
    (read :
      (parseLines 1 (before ++ line :: after)).map ofItems = .ok listing) :
    ∃ said, parseLine line = .ok said := by
  rcases read_or_exists_error (before ++ line :: after) with
    ⟨said, allRead⟩ | ⟨earlier, bad, later, said, cause, split, allRead, refused⟩
  · exact
      exists_of_forall₂ allRead line
        (List.mem_append_right before List.mem_cons_self)
  · rw [split, parseLines_of_error allRead refused] at read
    cases read

theorem parse_eq_of_edits
    (edits : Relation.ReflTransGen (Edit LineEdit) text edited) :
    parse (String.ofList edited) = parse (String.ofList text) := by
  induction edits with
  | refl => rfl
  | tail _ edit inductionHypothesis =>
      rw [← inductionHypothesis]
      exact edit.parse_eq fun _ _ _ _ changed _ => changed.parseLine_eq

theorem parse_eq_ok_of_edits
    {listing : Listing}
    (edits :
      Relation.ReflTransGen
        (Edit fun line edited => LineEdit line edited ∨ Recasing line edited)
        text edited)
    (read : parse (String.ofList text) = .ok listing) :
    parse (String.ofList edited) = .ok listing := by
  induction edits with
  | refl => exact read
  | tail _ edit inductionHypothesis =>
      rw [← inductionHypothesis]
      apply edit.parse_eq
      intro before line edited after changed original
      rcases changed with lineEdit | recasing
      · exact lineEdit.parseLine_eq
      · rw [inductionHypothesis] at original
        obtain ⟨said, lineRead⟩ := exists_said_of_parse original.symm
        rw [lineRead, recasing.parseLine_eq lineRead]

theorem parse_insert
    {count : Nat} {front line : List Char}
    (whole : WholeLines count front) (silent : Silent line)
    (unbroken : '\n' ∉ line) (back : List Char) :
    parse (String.ofList (front ++ line ++ '\n' :: back)) =
      (parse (String.ofList (front ++ back))).mapError
        (Error.raise (count + 1)) := by
  have saysNothing := parseLine_of_silent silent
  rw [parse_of_lineEnd whole (.feed back) unbroken,
    parseLines_insert saysNothing 1, whole.length_lines, Nat.add_comm, parse,
    String.toList_ofList, whole.lines_append]
  cases parseLines 1 (lines front ++ lines back) <;> rfl

/-- Edits of blanks, comments and line endings leave what is read of a text, or the error that it
gives, and in a listing so do edits of the capitals of mnemonics.  A line of blanks and comments
raises the line of an error behind it by one. -/
theorem parse_edited :
    (∀ text edited,
        Relation.ReflTransGen (Edit LineEdit) text edited →
        parse (String.ofList edited) = parse (String.ofList text)) ∧
      (∀ text edited listing,
        parse (String.ofList text) = .ok listing →
        Relation.ReflTransGen
          (Edit fun line edited => LineEdit line edited ∨ Recasing line edited)
          text edited →
        parse (String.ofList edited) = .ok listing) ∧
      ∀ count front line back,
        WholeLines count front → Silent line → '\n' ∉ line →
        parse (String.ofList (front ++ line ++ '\n' :: back)) =
          (parse (String.ofList (front ++ back))).mapError
            (Error.raise (count + 1)) := by
  refine ⟨?_, ?_, ?_⟩
  · intro text edited edits
    exact parse_eq_of_edits edits
  · intro text edited listing read edits
    exact parse_eq_ok_of_edits edits read
  · intro count front line back whole silent unbroken
    exact parse_insert whole silent unbroken back

/-- A comment and a carriage return behind a mnemonic that nobody knows, a mnemonic in other
capitals, and a comment that is put in before a bad line. -/
theorem parse_edited_frob :
    Relation.ReflTransGen (Edit LineEdit)
        ['F', 'R', 'O', 'B', '\n'] ['F', 'R', 'O', 'B', ';', 'x', '\r', '\n'] ∧
      parse "FROB;x\r\n" = .error ⟨1, .unknownMnemonic (.unknownMnemonic "FROB")⟩ ∧
      parse "hALt" = .ok ⟨[.halt], [], []⟩ ∧
      parse "#x\nFROB" = .error ⟨2, .unknownMnemonic (.unknownMnemonic "FROB")⟩ := by
  obtain ⟨unnoticed, accepted, inserted⟩ := parse_edited
  have comment : Silent [';', 'x'] :=
    .comment ['x'] (List.forall_mem_nil _) (Or.inl rfl)
  have commented :
      LineEdit ['F', 'R', 'O', 'B'] ['F', 'R', 'O', 'B', ';', 'x'] :=
    .behind ['F', 'R', 'O', 'B'] (.blanks (List.forall_mem_nil _)) comment
  have first :
      Edit LineEdit ['F', 'R', 'O', 'B', '\n']
        ['F', 'R', 'O', 'B', ';', 'x', '\n'] :=
    .line .none (.feed []) (by decide) (by decide) commented
  have edits :=
    (Relation.ReflTransGen.single first).tail
      (.ending ['F', 'R', 'O', 'B', ';', 'x'] [])
  have recasing : Recasing ['h', 'a', 'l', 't'] ['h', 'A', 'L', 't'] :=
    @Recasing.word [] ['h', 'a', 'l', 't'] ['h', 'A', 'L', 't'] []
      (List.forall_mem_nil _) (List.all_eq_true.mp rfl)
      (List.all_eq_true.mp rfl) rfl
  have recased :
      Edit (fun line edited => LineEdit line edited ∨ Recasing line edited)
        ['h', 'a', 'l', 't'] ['h', 'A', 'L', 't'] :=
    @Edit.line _ 0 [] ['h', 'a', 'l', 't'] ['h', 'A', 'L', 't'] [] []
      .none .last (by decide) (by decide) (Or.inr recasing)
  have silent : Silent ['#', 'x'] :=
    .comment ['x'] (List.forall_mem_nil _) (Or.inr rfl)
  refine ⟨edits, ?_, ?_, ?_⟩
  · refine (unnoticed _ _ edits).trans ?_
    decide
  · exact accepted _ _ ⟨[.halt], [], []⟩ (by decide) (.single recased)
  · refine (inserted 0 [] _ ['F', 'R', 'O', 'B'] .none silent (by decide)).trans ?_
    decide

end Edits

end RegisterMachine.Listing
