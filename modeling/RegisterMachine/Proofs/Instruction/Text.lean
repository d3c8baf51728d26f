import RegisterMachine.Proofs.Run.Steps
import RegisterMachine.Proofs.Text.Blank
import RegisterMachine.Trace.Entry

/-!
# What the text of an instruction shows

The text of an instruction shows its opcode and the operands that the opcode uses, and nothing else.
So instructions with one text do the same, and programs with the same texts at the same addresses
run alike.
-/

namespace RegisterMachine

open Text Text.Numeral

/-! ## Numbers in a text -/

namespace Text.Numeral

variable {rest other : String}

/-- The text does not begin with a digit. -/
def Stops (text : String) : Prop :=
  ∀ c ∈ text.toList.head?, c.isDigit = false

theorem isDigit_of_mem_toList_decimal (number : Nat) :
    ∀ c ∈ (decimal number).toList, c.isDigit = true := by
  rw [toList_decimal]
  exact fun c member =>
    Nat.isDigit_of_mem_toDigits (by decide) (by decide) member

theorem exists_digit (number : Nat) :
    ∃ first others,
      (decimal number).toList = first :: others ∧ first.isDigit = true := by
  have content : (decimal number).toList ≠ [] := by
    rw [toList_decimal]
    exact Nat.toDigits_ne_nil
  obtain ⟨first, others, spelled⟩ := List.exists_cons_of_ne_nil content
  refine
    ⟨first, others, spelled, isDigit_of_mem_toList_decimal number first ?_⟩
  rw [spelled]
  exact List.mem_cons_self

theorem not_stops_decimal_append (number : Nat) (rest : String) :
    ¬ Stops (decimal number ++ rest) := by
  obtain ⟨first, others, spelled, isDigit⟩ := exists_digit number
  intro stops
  rw [Stops, String.toList_append, spelled] at stops
  rw [stops first rfl] at isDigit
  cases isDigit

/-- A number is read off the start of a text that goes on with something else than a digit. -/
theorem decimal_append_inj
    {m n : Nat} (equal : decimal m ++ rest = decimal n ++ other)
    (stops : Stops rest) (otherStops : Stops other) :
    m = n ∧ rest = other := by
  have spelled := congrArg String.toList equal
  rw [String.toList_append, String.toList_append] at spelled
  obtain ⟨digits, behind⟩ :=
    span_append (isDigit_of_mem_toList_decimal m) stops
  obtain ⟨otherDigits, otherBehind⟩ :=
    span_append (isDigit_of_mem_toList_decimal n) otherStops
  rw [spelled, otherDigits] at digits
  rw [spelled, otherBehind] at behind
  exact
    ⟨(decimal_injective (String.toList_inj.mp digits)).symm,
      (String.toList_inj.mp behind).symm⟩

theorem decimal_toNat_append_inj
    {one two : Word}
    (equal : decimal one.toNat ++ rest = decimal two.toNat ++ other)
    (stops : Stops rest) (otherStops : Stops other) :
    one = two ∧ rest = other := by
  obtain ⟨sameNumber, sameRest⟩ := decimal_append_inj equal stops otherStops
  exact ⟨UInt32.toNat_inj.mp sameNumber, sameRest⟩

theorem decimal_toNat_injective
    {one two : Word} (equal : decimal one.toNat = decimal two.toNat) :
    one = two :=
  UInt32.toNat_inj.mp (decimal_injective equal)

end Text.Numeral

/-! ## Coded operands -/

theorem AddressingMode.code_eq_of_ofCode
    {code : Word} {mode : AddressingMode} (known : ofCode code = .ok mode) :
    mode.code = code := by
  unfold ofCode at known
  split_ifs at known with direct indirect immediate
  · cases known
    exact direct.symm
  · cases known
    exact indirect.symm
  · cases known
    exact immediate.symm

theorem Flag.index_eq_of_ofIndex
    {index : Word} {flag : Flag} (known : ofIndex index = .ok flag) :
    flag.index = index := by
  unfold ofIndex at known
  split at known
  · next found =>
      cases known
      obtain ⟨inRange, rfl⟩ := List.getElem?_eq_some_iff.mp found
      have ordered :
          ∀ number, ∀ known : number < all.length,
            all[number].index.toNat = number := by
        decide
      exact UInt32.toNat_inj.mp (ordered index.toNat inRange)
  · cases known

namespace Instruction

variable {rest other : String}

/-! ## Registers -/

/-- The name of a register ends at a comma. -/
theorem registerName_comma_inj
    {one two : Word}
    (equal :
      registerName one ++ (", " ++ rest) = registerName two ++ (", " ++ other)) :
    one = two ∧ rest = other := by
  rw [registerName, registerName, String.append_assoc, String.append_assoc,
    String.append_right_inj] at equal
  obtain ⟨sameIndex, behind⟩ :=
    decimal_toNat_append_inj equal (by simp [Stops]) (by simp [Stops])
  rw [String.append_right_inj] at behind
  exact ⟨sameIndex, behind⟩

theorem registerName_injective
    {one two : Word} (equal : registerName one = registerName two) :
    one = two := by
  rw [registerName, registerName, String.append_right_inj] at equal
  exact decimal_toNat_injective equal

theorem threeRegisters_injective
    {dst left right dst' left' right' : Word}
    (equal : threeRegisters dst left right = threeRegisters dst' left' right') :
    dst = dst' ∧ left = left' ∧ right = right' := by
  simp only [threeRegisters, String.append_assoc] at equal
  obtain ⟨sameDst, operands⟩ := registerName_comma_inj equal
  obtain ⟨sameLeft, last⟩ := registerName_comma_inj operands
  exact ⟨sameDst, sameLeft, registerName_injective last⟩

/-! ## Loads -/

/-- How a load shows where its value comes from. -/
def sourceText (source mode : Word) : String :=
  match AddressingMode.ofCode mode with
  | .ok .direct => "[" ++ decimal source.toNat ++ "]"
  | .ok .indirect => "[" ++ registerName source ++ "]"
  | .ok .immediate => "#" ++ decimal source.toNat
  | .error _ => decimal source.toNat ++ " (mode " ++ decimal mode.toNat ++ "?)"

theorem loadText_eq (dst source mode : Word) :
    loadText dst source mode =
      "load  " ++ (registerName dst ++ (", " ++ sourceText source mode)) := by
  rw [loadText, String.append_assoc, String.append_assoc]
  rfl

/-- The addressing mode that the source of a load shows. -/
def shownMode (source : List Char) : Option AddressingMode :=
  match source with
  | '[' :: 'r' :: _ => some .indirect
  | '[' :: _ => some .direct
  | '#' :: _ => some .immediate
  | _ => none

theorem shownMode_of_isDigit
    {first : Char} (isDigit : first.isDigit = true) (others : List Char) :
    shownMode (first :: others) = none ∧
      shownMode ('[' :: first :: others) = some .direct := by
  have different :
      ∀ other : Char, other.isDigit = false → first ≠ other := by
    intro other noDigit equal
    rw [equal, noDigit] at isDigit
    cases isDigit
  have noBracket := different '[' rfl
  have noSign := different '#' rfl
  have noRegister := different 'r' rfl
  simp [shownMode, noBracket, noSign, noRegister]

theorem shownMode_sourceText (source mode : Word) :
    shownMode (sourceText source mode).toList =
      (AddressingMode.ofCode mode).toOption := by
  obtain ⟨first, others, spelled, isDigit⟩ := exists_digit source.toNat
  unfold sourceText
  split
  · next known =>
      rw [known, String.append_assoc, String.toList_append,
        String.toList_append, spelled]
      exact (shownMode_of_isDigit isDigit _).2
  · next known =>
      rw [known, registerName]
      simp only [String.toList_append]
      rfl
  · next known =>
      rw [known, String.toList_append]
      rfl
  · next known =>
      rw [known, String.append_assoc, String.append_assoc,
        String.toList_append, spelled]
      exact (shownMode_of_isDigit isDigit _).1

theorem mode_eq_of_sourceText_eq
    {source mode source' mode' : Word}
    (equal : sourceText source mode = sourceText source' mode') :
    mode = mode' := by
  have shown := shownMode_sourceText source mode
  rw [equal, shownMode_sourceText] at shown
  cases known : AddressingMode.ofCode mode with
  | ok found =>
      cases known' : AddressingMode.ofCode mode' with
      | ok other =>
          rw [known, known'] at shown
          cases shown
          have code := AddressingMode.code_eq_of_ofCode known
          exact code.symm.trans (AddressingMode.code_eq_of_ofCode known')
      | error reason =>
          rw [known, known'] at shown
          cases shown
  | error reason =>
      cases known' : AddressingMode.ofCode mode' with
      | ok other =>
          rw [known, known'] at shown
          cases shown
      | error reason' =>
          -- Both codes are unknown, and each text shows its own.
          simp only [sourceText, known, known', String.append_assoc] at equal
          obtain ⟨-, codes⟩ :=
            decimal_toNat_append_inj equal (by simp [Stops]) (by simp [Stops])
          rw [String.append_right_inj, String.append_left_inj] at codes
          exact decimal_toNat_injective codes

theorem sourceText_injective
    {source mode source' mode' : Word}
    (equal : sourceText source mode = sourceText source' mode') :
    source = source' ∧ mode = mode' := by
  have sameMode := mode_eq_of_sourceText_eq equal
  refine ⟨?_, sameMode⟩
  rw [sameMode] at equal
  unfold sourceText at equal
  split at equal
  · rw [String.append_left_inj, String.append_right_inj] at equal
    exact decimal_toNat_injective equal
  · rw [String.append_left_inj, String.append_right_inj] at equal
    exact registerName_injective equal
  · rw [String.append_right_inj] at equal
    exact decimal_toNat_injective equal
  · simp only [String.append_left_inj] at equal
    exact decimal_toNat_injective equal

theorem loadText_injective
    {dst source mode dst' source' mode' : Word}
    (equal : loadText dst source mode = loadText dst' source' mode') :
    dst = dst' ∧ source = source' ∧ mode = mode' := by
  rw [loadText_eq, loadText_eq, String.append_right_inj] at equal
  obtain ⟨sameDst, sources⟩ := registerName_comma_inj equal
  exact ⟨sameDst, sourceText_injective sources⟩

/-! ## Jumps -/

/-- How a jump shows its condition in its keyword. -/
def jumpKeyword (condition : Word) : String :=
  if condition = 1 then "jeq   " else "jmp   "

/-- How a jump shows a condition without a keyword of its own. -/
def conditionText (condition : Word) : String :=
  if condition = 0 ∨ condition = 1 then ""
  else " (cond " ++ decimal condition.toNat ++ "?)"

theorem jumpText_eq (target condition : Word) :
    jumpText target condition =
      jumpKeyword condition ++
        (decimal target.toNat ++ conditionText condition) := by
  unfold jumpText jumpKeyword conditionText
  by_cases always : condition = 0
  · simp [always]
  · by_cases ifEqual : condition = 1
    · simp [ifEqual]
    · simp [always, ifEqual, String.append_assoc]

theorem stops_conditionText (condition : Word) :
    Stops (conditionText condition) := by
  unfold conditionText
  split_ifs <;> simp [Stops]

theorem jumpKeyword_append_inj
    {one two : Word}
    (equal : jumpKeyword one ++ rest = jumpKeyword two ++ other) :
    (one = 1 ↔ two = 1) ∧ rest = other := by
  unfold jumpKeyword at equal
  by_cases first : one = 1
  · by_cases second : two = 1
    · rw [if_pos first, if_pos second, String.append_right_inj] at equal
      exact ⟨iff_of_true first second, equal⟩
    · rw [if_pos first, if_neg second] at equal
      have spelled := congrArg String.toList equal
      simp at spelled
  · by_cases second : two = 1
    · rw [if_neg first, if_pos second] at equal
      have spelled := congrArg String.toList equal
      simp at spelled
    · rw [if_neg first, if_neg second, String.append_right_inj] at equal
      exact ⟨iff_of_false first second, equal⟩

theorem conditionText_injective
    {one two : Word} (equal : conditionText one = conditionText two)
    (keyword : one = 1 ↔ two = 1) :
    one = two := by
  by_cases first : one = 1
  · rw [first, keyword.mp first]
  · have second : two ≠ 1 := fun two_eq => first (keyword.mpr two_eq)
    unfold conditionText at equal
    simp only [first, second, or_false] at equal
    by_cases always : one = 0
    · by_cases always' : two = 0
      · rw [always, always']
      · rw [if_pos always, if_neg always'] at equal
        have spelled := congrArg String.toList equal
        simp at spelled
    · by_cases always' : two = 0
      · rw [if_neg always, if_pos always'] at equal
        have spelled := congrArg String.toList equal
        simp at spelled
      · rw [if_neg always, if_neg always', String.append_left_inj,
          String.append_right_inj] at equal
        exact decimal_toNat_injective equal

theorem jumpText_injective
    {target condition target' condition' : Word}
    (equal : jumpText target condition = jumpText target' condition') :
    target = target' ∧ condition = condition' := by
  rw [jumpText_eq, jumpText_eq] at equal
  obtain ⟨keyword, equal⟩ := jumpKeyword_append_inj equal
  obtain ⟨sameTarget, equal⟩ :=
    decimal_toNat_append_inj equal
      (stops_conditionText condition) (stops_conditionText condition')
  exact ⟨sameTarget, conditionText_injective equal keyword⟩

/-! ## Flag checks -/

/-- How a flag check shows its flag. -/
def flagText (index : Word) : String :=
  match Flag.ofIndex index with
  | .ok flag => flag.shortName
  | .error _ => decimal index.toNat ++ "?"

theorem checkFlagText_eq (dst index : Word) :
    checkFlagText dst index =
      "flag  " ++ (registerName dst ++ (", " ++ flagText index)) := by
  rw [checkFlagText, String.append_assoc, String.append_assoc]
  rfl

theorem shortName_injective
    {one two : Flag} (equal : one.shortName = two.shortName) : one = two := by
  cases one <;> cases two <;> revert equal <;> decide

theorem stops_shortName (flag : Flag) : Stops flag.shortName := by
  cases flag <;> simp [Stops, Flag.shortName]

theorem flagText_injective
    {one two : Word} (equal : flagText one = flagText two) : one = two := by
  unfold flagText at equal
  cases known : Flag.ofIndex one with
  | error reason =>
      cases known' : Flag.ofIndex two with
      | error reason' =>
          simp only [known, known', String.append_left_inj] at equal
          exact decimal_toNat_injective equal
      | ok flag =>
          simp only [known, known'] at equal
          have stops := stops_shortName flag
          rw [← equal] at stops
          exact (not_stops_decimal_append _ _ stops).elim
  | ok flag =>
      cases known' : Flag.ofIndex two with
      | error reason =>
          simp only [known, known'] at equal
          have stops := stops_shortName flag
          rw [equal] at stops
          exact (not_stops_decimal_append _ _ stops).elim
      | ok flag' =>
          simp only [known, known'] at equal
          have sameFlag := shortName_injective equal
          rw [← Flag.index_eq_of_ofIndex known, sameFlag,
            Flag.index_eq_of_ofIndex known']

theorem checkFlagText_injective
    {dst index dst' index' : Word}
    (equal : checkFlagText dst index = checkFlagText dst' index') :
    dst = dst' ∧ index = index' := by
  rw [checkFlagText_eq, checkFlagText_eq, String.append_right_inj] at equal
  obtain ⟨sameDst, flags⟩ := registerName_comma_inj equal
  exact ⟨sameDst, flagText_injective flags⟩

/-! ## Opcodes and operands -/

/-- The opcode that a text shows.  A jump has two keywords. -/
def shownOpcode (text : List Char) : Option Opcode :=
  match text.take 3 with
  | ['h', 'a', 'l'] => some .halt
  | ['l', 'o', 'a'] => some .load
  | ['s', 't', 'o'] => some .store
  | ['a', 'd', 'd'] => some .add
  | ['s', 'u', 'b'] => some .sub
  | ['m', 'u', 'l'] => some .mul
  | ['d', 'i', 'v'] => some .div
  | ['c', 'm', 'p'] => some .cmp
  | ['j', 'm', 'p'] => some .jmp
  | ['j', 'e', 'q'] => some .jmp
  | ['m', 'o', 'v'] => some .mov
  | ['f', 'l', 'a'] => some .checkFlag
  | _ => none

theorem shownOpcode_text (instruction : Instruction) :
    shownOpcode instruction.text.toList = some instruction.opcode := by
  obtain ⟨opcode, dst, src1, src2⟩ := instruction
  cases opcode with
  | jmp =>
      simp only [text, jumpText_eq, jumpKeyword, String.toList_append]
      split_ifs <;> rfl
  | load =>
      simp only [text, loadText_eq, String.toList_append]
      rfl
  | checkFlag =>
      simp only [text, checkFlagText_eq, String.toList_append]
      rfl
  | _ =>
      simp only [text, String.toList_append, List.append_assoc]
      rfl

/-- The operands that the opcode of an instruction uses. -/
def usedOperands (instruction : Instruction) : List Word :=
  match instruction with
  | ⟨.halt, _, _, _⟩ => []
  | ⟨.load, dst, src1, src2⟩ => [dst, src1, src2]
  | ⟨.store, dst, src1, _⟩ => [dst, src1]
  | ⟨.add, dst, src1, src2⟩ => [dst, src1, src2]
  | ⟨.sub, dst, src1, src2⟩ => [dst, src1, src2]
  | ⟨.mul, dst, src1, src2⟩ => [dst, src1, src2]
  | ⟨.div, dst, src1, src2⟩ => [dst, src1, src2]
  | ⟨.cmp, _, src1, src2⟩ => [src1, src2]
  | ⟨.jmp, dst, src1, _⟩ => [dst, src1]
  | ⟨.mov, dst, src1, _⟩ => [dst, src1]
  | ⟨.checkFlag, dst, src1, _⟩ => [dst, src1]

/-- An instruction with these operands where its opcode uses them, and zeros elsewhere. -/
def ofUsed (opcode : Opcode) (operands : List Word) : Instruction :=
  match opcode with
  | .cmp => ⟨.cmp, 0, operands.getD 0 0, operands.getD 1 0⟩
  | opcode => ⟨opcode, operands.getD 0 0, operands.getD 1 0, operands.getD 2 0⟩

section Uses

variable {one other : Instruction}

theorem text_ofUsed (instruction : Instruction) :
    (ofUsed instruction.opcode instruction.usedOperands).text =
      instruction.text := by
  obtain ⟨opcode, dst, src1, src2⟩ := instruction
  cases opcode <;> rfl

theorem execute_ofUsed
    (instruction : Instruction) (programSize : Nat) (storage : Storage) :
    (ofUsed instruction.opcode instruction.usedOperands).execute programSize
        storage =
      instruction.execute programSize storage := by
  obtain ⟨opcode, dst, src1, src2⟩ := instruction
  cases opcode <;> rfl

theorem opcode_eq_of_text_eq (equal : one.text = other.text) :
    one.opcode = other.opcode := by
  have shown := shownOpcode_text one
  rw [equal, shownOpcode_text other] at shown
  exact (Option.some.inj shown).symm

theorem usedOperands_eq_of_text_eq (equal : one.text = other.text) :
    one.usedOperands = other.usedOperands := by
  have sameOpcode := opcode_eq_of_text_eq equal
  obtain ⟨opcode, dst, src1, src2⟩ := one
  obtain ⟨opcode', dst', src1', src2'⟩ := other
  cases sameOpcode
  unfold text at equal
  unfold usedOperands
  cases opcode with
  | halt => rfl
  | load =>
      obtain ⟨rfl, rfl, rfl⟩ := loadText_injective equal
      rfl
  | store =>
      simp only [String.append_assoc, String.append_right_inj] at equal
      obtain ⟨rfl, behind⟩ :=
        decimal_toNat_append_inj equal (by simp [Stops]) (by simp [Stops])
      rw [String.append_right_inj] at behind
      rw [registerName_injective behind]
  | add | sub | mul | div =>
      dsimp only at equal
      rw [String.append_right_inj] at equal
      obtain ⟨rfl, rfl, rfl⟩ := threeRegisters_injective equal
      rfl
  | cmp | mov =>
      simp only [String.append_assoc, String.append_right_inj] at equal
      obtain ⟨rfl, last⟩ := registerName_comma_inj equal
      rw [registerName_injective last]
  | jmp =>
      obtain ⟨rfl, rfl⟩ := jumpText_injective equal
      rfl
  | checkFlag =>
      obtain ⟨rfl, rfl⟩ := checkFlagText_injective equal
      rfl

theorem text_eq_of_usedOperands_eq
    (sameOpcode : one.opcode = other.opcode)
    (sameOperands : one.usedOperands = other.usedOperands) :
    one.text = other.text := by
  rw [← text_ofUsed one, sameOpcode, sameOperands, text_ofUsed]

theorem execute_eq_of_text_eq
    (equal : one.text = other.text) (programSize : Nat) (storage : Storage) :
    one.execute programSize storage = other.execute programSize storage := by
  rw [← execute_ofUsed one, opcode_eq_of_text_eq equal,
    usedOperands_eq_of_text_eq equal, execute_ofUsed]

/-- Two instructions have one text exactly if they agree in their opcode and in the operands that it
uses, and then they do the same. -/
theorem text_eq_text_iff (one other : Instruction) :
    (one.text = other.text ↔
        one.opcode = other.opcode ∧ one.usedOperands = other.usedOperands) ∧
      (one.text = other.text →
        ∀ programSize storage,
          one.execute programSize storage =
            other.execute programSize storage) := by
  refine ⟨⟨?_, ?_⟩, execute_eq_of_text_eq⟩
  · intro equal
    exact ⟨opcode_eq_of_text_eq equal, usedOperands_eq_of_text_eq equal⟩
  · rintro ⟨sameOpcode, sameOperands⟩
    exact text_eq_of_usedOperands_eq sameOpcode sameOperands

/-- A store does not show its third operand, and does not use it. -/
theorem text_eq_text_iff_store :
    (⟨.store, 5, 2, 7⟩ : Instruction).text = (store 5 2).text ∧
      ∀ programSize storage,
        (⟨.store, 5, 2, 7⟩ : Instruction).execute programSize storage =
          (store 5 2).execute programSize storage := by
  obtain ⟨sameText, sameExecution⟩ :=
    text_eq_text_iff ⟨.store, 5, 2, 7⟩ (store 5 2)
  have equal := sameText.mpr ⟨rfl, rfl⟩
  exact ⟨equal, sameExecution equal⟩

end Uses

end Instruction

/-! ## Programs that print alike -/

section Programs

variable {program other : Program}

/-- The programs show the same texts at the same addresses. -/
def PrintAlike (program other : Program) : Prop :=
  program.map Instruction.text = other.map Instruction.text

theorem PrintAlike.size_eq (alike : PrintAlike program other) :
    program.size = other.size := by
  have sizes := congrArg Array.size alike
  rw [Array.size_map, Array.size_map] at sizes
  exact sizes

theorem PrintAlike.exists_fetched
    {address : Nat} {instruction : Instruction}
    (alike : PrintAlike program other)
    (fetched : program[address]? = some instruction) :
    ∃ counterpart,
      other[address]? = some counterpart ∧
        counterpart.text = instruction.text := by
  have texts := congrArg (·[address]?) alike
  simp only [Array.getElem?_map, fetched, Option.map_some] at texts
  exact Option.map_eq_some_iff.mp texts.symm

theorem Ending.entries_eq
    {one two : Instruction} (equal : one.text = two.text)
    (ending : Ending) (counter : Word) :
    (ending.events counter one).map Trace.Entry.ofEvent =
      (ending.events counter two).map Trace.Entry.ofEvent := by
  cases ending with
  | fault reason => simp [events, Trace.Entry.ofEvent, equal]
  | _ => rfl

/-- A step of either program leaves the same state and is told in the same words. -/
theorem PrintAlike.step_eq
    (alike : PrintAlike program other) (state : State) :
    (state.step program).state = (state.step other).state ∧
      (state.step program).events.map Trace.Entry.ofEvent =
        (state.step other).events.map Trace.Entry.ofEvent := by
  have sizes := alike.size_eq
  by_cases ended : state.Ended program
  · have otherEnded : state.Ended other := by
      rw [State.Ended, ← sizes]
      exact ended
    rw [State.step_of_ended ended, State.step_of_ended otherEnded]
    exact ⟨rfl, rfl⟩
  · obtain ⟨instruction, fetched⟩ := State.exists_fetched ended
    obtain ⟨counterpart, otherFetched, equal⟩ := alike.exists_fetched fetched
    rw [State.step_of_getElem? fetched, State.step_of_getElem? otherFetched,
      sizes, Instruction.execute_eq_of_text_eq equal]
    refine ⟨rfl, ?_⟩
    simp only [List.map_cons, Trace.Entry.ofEvent, equal,
      Ending.entries_eq equal]

/-- Programs that print alike run alike, and their traces read the same. -/
theorem PrintAlike.after_eq
    (alike : PrintAlike program other) (count : Nat) (state : State) :
    state.after program count = state.after other count ∧
      (state.reports program count).map Trace.Entry.ofEvent =
        (state.reports other count).map Trace.Entry.ofEvent := by
  induction count generalizing state with
  | zero => exact ⟨rfl, rfl⟩
  | succ count inductionHypothesis =>
      obtain ⟨sameState, sameEntries⟩ := alike.step_eq state
      obtain ⟨sameEnd, sameRest⟩ :=
        inductionHypothesis (state.step other).state
      rw [State.after, State.after, State.reports, State.reports, sameState,
        List.map_append, List.map_append, sameEntries]
      exact ⟨sameEnd, congrArg (_ ++ ·) sameRest⟩

end Programs

end RegisterMachine
