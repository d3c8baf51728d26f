import RegisterMachine.Listing.Basic
import RegisterMachine.Proofs.Listing.Grammar
import RegisterMachine.Proofs.Text.Lines

/-!
# Listings line by line

A listing is read exactly if each of its lines has a form.  It says what its lines say, one after
the other, and the first line without a form is the one reported.
-/

namespace RegisterMachine.Listing

open Text Text.Numeral

variable {written before after : List (List Char)} {line : List Char}
variable {cause : LineError} {said : List (Option Item)}

/-- A line has one of the forms. -/
def WellFormed (line : List Char) : Prop :=
  ∃ said, Says line said

theorem says_of_parseLine
    {said : Option Item} (read : parseLine line = .ok said) :
    Says line said :=
  says_iff.mpr (parseLine_eq_ok_iff.mp read)

theorem not_wellFormed_of_error (refused : parseLine line = .error cause) :
    ¬ WellFormed line := by
  rintro ⟨said, formed⟩
  rw [parseLine_eq_ok_iff.mpr (says_iff.mp formed)] at refused
  cases refused

/-! ## All lines -/

/-- Each of the lines is read. -/
def AllRead (written : List (List Char)) (said : List (Option Item)) : Prop :=
  List.Forall₂ (fun line said => parseLine line = .ok said) written said

theorem parseLines_of_allRead
    (read : AllRead written said) (number : Nat) :
    parseLines number written = .ok (said.flatMap Option.toList) := by
  induction read generalizing number with
  | nil => rfl
  | cons lineRead _ inductionHypothesis =>
      rw [parseLines, lineRead]
      dsimp only
      rw [inductionHypothesis (number + 1), List.flatMap_cons]

theorem parseLines_of_error
    (earlier : AllRead before said)
    (refused : parseLine line = .error cause) (number : Nat) :
    parseLines number (before ++ line :: after) =
      .error ⟨number + before.length, cause⟩ := by
  induction earlier generalizing number with
  | nil =>
      rw [List.nil_append, parseLines, refused]
      rfl
  | @cons _ _ before _ lineRead _ inductionHypothesis =>
      have counted : number + 1 + before.length = number + (before.length + 1) := by
        omega
      rw [List.cons_append, parseLines, lineRead]
      dsimp only
      rw [inductionHypothesis (number + 1), counted, List.length_cons]

/-- Either all lines are read, or there is a first one that is not. -/
theorem read_or_exists_error (written : List (List Char)) :
    (∃ said, AllRead written said) ∨
      ∃ before line after said cause,
        written = before ++ line :: after ∧
          AllRead before said ∧ parseLine line = .error cause := by
  induction written with
  | nil => exact Or.inl ⟨[], .nil⟩
  | cons line written inductionHypothesis =>
      cases lineRead : parseLine line with
      | error cause =>
          exact Or.inr ⟨[], line, written, [], cause, rfl, .nil, lineRead⟩
      | ok first =>
          rcases inductionHypothesis with
            ⟨said, read⟩ | ⟨before, bad, after, said, cause, rfl, read, refused⟩
          · exact Or.inl ⟨first :: said, .cons lineRead read⟩
          · exact Or.inr
              ⟨line :: before, bad, after, first :: said, cause, rfl,
                .cons lineRead read, refused⟩

theorem wellFormed_of_allRead (read : AllRead written said) :
    ∀ line ∈ written, WellFormed line := by
  intro line member
  obtain ⟨said, lineRead⟩ := exists_of_forall₂ read line member
  exact ⟨said, says_of_parseLine lineRead⟩

/-! ## Listings one after the other -/

/-- The listing of a single line. -/
def ofLine : Option Item → Listing
  | none => ⟨[], [], []⟩
  | some (.instruction instruction) => ⟨[instruction], [], []⟩
  | some (.data address value) => ⟨[], [(address, value)], []⟩
  | some (.watch address) => ⟨[], [], [address]⟩

/-- Listings one after the other. -/
def concat (listings : List Listing) : Listing where
  program := listings.flatMap program
  data := listings.flatMap data
  watch := listings.flatMap watch

theorem ofItems_flatMap (said : List (Option Item)) :
    ofItems (said.flatMap Option.toList) = concat (said.map ofLine) := by
  induction said with
  | nil => rfl
  | cons first said inductionHypothesis =>
      have split :
          ofItems ((first :: said).flatMap Option.toList) =
            first.toList.foldr cons (ofItems (said.flatMap Option.toList)) := by
        rw [List.flatMap_cons, ofItems, List.foldr_append, ofItems]
      rw [split, inductionHypothesis]
      cases first with
      | none => rfl
      | some item => cases item <;> rfl

theorem parse_of_allRead
    {text : String}
    (read : AllRead (lines text.toList) said) :
    parse text = .ok (concat (said.map ofLine)) := by
  rw [parse, parseLines_of_allRead read 1, ← ofItems_flatMap]
  rfl

theorem parse_of_error
    {text : String}
    (split : lines text.toList = before ++ line :: after)
    (earlier : AllRead before said)
    (refused : parseLine line = .error cause) :
    parse text = .error ⟨before.length + 1, cause⟩ := by
  rw [parse, split, parseLines_of_error earlier refused 1, Nat.add_comm]
  rfl

/-! ## One line alone -/

theorem lines_toList_ofList (unbroken : '\n' ∉ line) :
    lines (String.ofList line).toList = if line = [] then [] else [line] := by
  rw [String.toList_ofList, lines_of_newline_not_mem unbroken]

theorem parse_line_of_ok
    {item : Option Item} (unbroken : '\n' ∉ line)
    (read : parseLine line = .ok item) :
    parse (String.ofList line) = .ok (ofLine item) := by
  by_cases blank : line = []
  · subst blank
    cases read
    rfl
  · have single := lines_toList_ofList unbroken
    rw [if_neg blank] at single
    have alone :
        AllRead (lines (String.ofList line).toList) [item] := by
      rw [single]
      exact .cons read .nil
    rw [parse_of_allRead alone]
    simp [concat]

theorem parse_line_of_error
    (unbroken : '\n' ∉ line) (refused : parseLine line = .error cause) :
    parse (String.ofList line) = .error ⟨1, cause⟩ := by
  have content : line ≠ [] := by
    rintro rfl
    cases refused
  have single := lines_toList_ofList unbroken
  rw [if_neg content] at single
  exact parse_of_error single .nil refused

theorem message_line_one (cause : LineError) :
    (⟨1, cause⟩ : Error).message = "line 1: " ++ cause.message := by
  have start : "line " ++ decimal 1 ++ ": " = "line 1: " := by decide
  rw [Error.message, start]

/-! ## All texts -/

/-- A text is a listing exactly if all its lines are well-formed.  It then says what its lines say
alone, in order.  Otherwise the first line that is not well-formed is reported by its number, with
the text that it gets alone. -/
theorem parse_lineByLine (text : String) :
    ((∃ listing, parse text = .ok listing) ↔
        ∀ line ∈ lines text.toList, WellFormed line) ∧
      (∀ listing, parse text = .ok listing →
        ∃ singles,
          List.Forall₂
            (fun line single =>
              parse (String.ofList line) = .ok single ∧
                ∃ said, Says line said ∧ single = ofLine said)
            (lines text.toList) singles ∧
          listing = concat singles) ∧
      ∀ error, parse text = .error error →
        ∃ before line after single,
          lines text.toList = before ++ line :: after ∧
            (∀ earlier ∈ before, WellFormed earlier) ∧
            ¬ WellFormed line ∧
            parse (String.ofList line) = .error single ∧
            error.line = before.length + 1 ∧
            error.cause = single.cause ∧
            single.message = "line 1: " ++ single.cause.message ∧
            error.message =
              "line " ++ decimal error.line ++ ": " ++ single.cause.message := by
  have unbroken : ∀ line ∈ lines text.toList, '\n' ∉ line :=
    fun line member => newline_not_mem_of_mem_lines member
  rcases read_or_exists_error (lines text.toList) with
    ⟨said, read⟩ | ⟨before, line, after, said, cause, split, read, refused⟩
  · have parsed := parse_of_allRead read
    refine ⟨⟨fun _ => wellFormed_of_allRead read, fun _ => ⟨_, parsed⟩⟩, ?_, ?_⟩
    · intro listing listed
      rw [parsed] at listed
      cases listed
      refine ⟨said.map ofLine, ?_, rfl⟩
      rw [List.forall₂_map_right_iff]
      refine ((List.forall₂_and_left _ _).mpr ⟨unbroken, read⟩).imp ?_
      rintro line said ⟨lineUnbroken, lineRead⟩
      exact
        ⟨parse_line_of_ok lineUnbroken lineRead, said,
          says_of_parseLine lineRead, rfl⟩
    · intro error failed
      rw [parsed] at failed
      cases failed
  · have parsed := parse_of_error split read refused
    have inLines : line ∈ lines text.toList := by
      rw [split]
      exact List.mem_append_right before List.mem_cons_self
    have malformed := not_wellFormed_of_error refused
    refine ⟨⟨?_, fun formed => absurd (formed line inLines) malformed⟩, ?_, ?_⟩
    · rintro ⟨listing, listed⟩
      rw [parsed] at listed
      cases listed
    · intro listing listed
      rw [parsed] at listed
      cases listed
    · intro error failed
      rw [parsed] at failed
      cases failed
      have single := parse_line_of_error (unbroken line inLines) refused
      exact
        ⟨before, line, after, _, split, wellFormed_of_allRead read, malformed,
          single, rfl, rfl, message_line_one cause, rfl⟩

/-- A comment, an empty line, blanks around operands, a missing operand and a carriage return; and a
text whose second line is bad. -/
theorem parse_lineByLine_mixed :
    let text := ".data 3 0x10 ; first\n\n  add 1,2 \n.watch 3\r\nHALT"
    let bad := "HALT\nFROB 1, 2\nFROB"
    parse text =
        .ok ⟨[⟨.add, 1, 2, 0⟩, Instruction.halt], [(3, 16)], [3]⟩ ∧
      (∀ line ∈ lines text.toList, WellFormed line) ∧
      parse bad =
        .error ⟨2, .unknownMnemonic (.unknownMnemonic "FROB")⟩ ∧
      WellFormed "HALT".toList ∧
      ¬ WellFormed "FROB 1, 2".toList := by
  intro text bad
  have parsed :
      parse text =
        .ok ⟨[⟨.add, 1, 2, 0⟩, Instruction.halt], [(3, 16)], [3]⟩ := by
    decide
  have refused :
      parse bad =
        .error ⟨2, .unknownMnemonic (.unknownMnemonic "FROB")⟩ := by
    decide
  obtain ⟨accepted, -, -⟩ := parse_lineByLine text
  obtain ⟨-, -, failed⟩ := parse_lineByLine bad
  obtain ⟨before, line, after, single, split, earlier, malformed, -, number, -⟩ :=
    failed _ refused
  have bad_lines :
      lines bad.toList =
        ["HALT".toList, "FROB 1, 2".toList, "FROB".toList] := by
    decide
  rw [bad_lines] at split
  obtain ⟨first, rfl⟩ := List.length_eq_one_iff.mp (Nat.succ.inj number).symm
  obtain ⟨rfl, behind⟩ := List.cons.inj split
  obtain ⟨rfl, -⟩ := List.cons.inj behind
  exact
    ⟨parsed, accepted.mp ⟨_, parsed⟩, refused,
      earlier _ List.mem_cons_self, malformed⟩

end RegisterMachine.Listing
