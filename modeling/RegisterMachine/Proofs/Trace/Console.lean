import RegisterMachine.Proofs.Text.Plain
import RegisterMachine.Trace.Console

/-!
# Lines on a terminal

What a console tells of an event is one line: neither an instruction nor a fault nor an address is
written with a line break.  So the lines can be read off each stream again.
-/

namespace RegisterMachine

open Text Numeral

/-! ## Instructions and faults -/

namespace Instruction

theorem plain_registerName (index : Word) : Plain (registerName index) := by
  rw [registerName, plain_append_iff]
  exact ⟨by simp [Plain, isInline], plain_decimal _⟩

theorem plain_loadText (dst source mode : Word) :
    Plain (loadText dst source mode) := by
  unfold loadText
  split <;>
    (simp only [plain_append_iff, plain_registerName, plain_decimal]
     simp [Plain, isInline])

theorem plain_jumpText (target condition : Word) :
    Plain (jumpText target condition) := by
  unfold jumpText
  split_ifs <;>
    (simp only [plain_append_iff, plain_decimal]
     simp [Plain, isInline])

theorem plain_shortName (flag : Flag) : Plain flag.shortName := by
  cases flag <;> rfl

theorem plain_checkFlagText (dst index : Word) :
    Plain (checkFlagText dst index) := by
  unfold checkFlagText
  split <;>
    (simp only [plain_append_iff, plain_registerName, plain_decimal,
      plain_shortName]
     simp [Plain, isInline])

theorem plain_text (instruction : Instruction) : Plain instruction.text := by
  obtain ⟨opcode, dst, src1, src2⟩ := instruction
  cases opcode with
  | halt => simp [text, Plain, isInline]
  | load => exact plain_loadText dst src1 src2
  | jmp => exact plain_jumpText dst src1
  | checkFlag => exact plain_checkFlagText dst src1
  | _ =>
      simp only [text, threeRegisters, plain_append_iff, plain_registerName,
        plain_decimal]
      simp [Plain, isInline]

end Instruction

theorem Fault.plain_message (fault : Fault) : Plain fault.message := by
  -- To unfold `message` by its equations would take long, since they are derived with the texts.
  delta message
  cases fault with
  | divisionByZero => simp [Plain, isInline]
  | _ =>
      simp only [plain_append_iff, plain_decimal]
      simp [Plain, isInline]

namespace Trace

/-! ## Lines of events -/

theorem plain_hexAddress (counter : Word) : Plain (hexAddress counter) := by
  rw [hexAddress, plain_append_iff]
  exact ⟨by simp [Plain, isInline], plain_wordHex _⟩

/-- The line on the output stream of an event that is no fault. -/
inductive OutputLine : Event → String → Prop
  | instruction (counter : Word) (instruction : Instruction) :
      OutputLine (.instruction counter instruction)
        ("PC = 0x" ++ wordHex counter.toNat ++ ", Instr = " ++
          instruction.text)
  | jump (source target : Word) :
      OutputLine (.jump source target)
        ("Jumping from 0x" ++ wordHex source.toNat ++ " to 0x" ++
          wordHex target.toNat)
  | halt (counter : Word) :
      OutputLine (.halt counter) ("HALT at PC = 0x" ++ wordHex counter.toNat)

/-- The line on the error stream of a fault. -/
inductive ErrorLine : Event → String → Prop
  | fault (counter : Word) (instruction : Instruction) (reason : Fault) :
      ErrorLine (.fault counter instruction reason)
        ("🚨 " ++ reason.message ++ " at PC = 0x" ++ wordHex counter.toNat ++
          " (" ++ instruction.text ++ ")")

theorem append_hexAddress (label : String) (counter : Word) :
    label ++ hexAddress counter = label ++ "0x" ++ wordHex counter.toNat := by
  rw [hexAddress, String.append_assoc]

theorem append_append_hexAddress (front label : String) (counter : Word) :
    front ++ label ++ hexAddress counter =
      front ++ (label ++ "0x") ++ wordHex counter.toNat := by
  simp only [hexAddress, String.append_assoc]

theorem outputLine_of_eq_some
    {event : Event} {line : String} (told : outputLine? event = some line) :
    OutputLine event line := by
  cases event with
  | instruction counter instruction =>
      cases told
      rw [append_hexAddress]
      exact .instruction counter instruction
  | jump source target =>
      cases told
      rw [append_append_hexAddress, append_hexAddress]
      exact .jump source target
  | fault => cases told
  | halt counter =>
      cases told
      rw [append_hexAddress]
      exact .halt counter

theorem errorLine_of_eq_some
    {event : Event} {line : String} (told : errorLine? event = some line) :
    ErrorLine event line := by
  cases event with
  | fault counter instruction reason =>
      cases told
      rw [append_append_hexAddress]
      exact .fault counter instruction reason
  | _ => cases told

theorem closed_of_outputLine
    {event : Event} {line : String} (told : outputLine? event = some line) :
    Closed line.toList := by
  cases event with
  | fault => cases told
  | _ =>
      cases told
      refine Plain.closed ?_ (by simp)
      simp only [plain_append_iff, plain_hexAddress, Instruction.plain_text]
      simp [Plain, isInline]

theorem closed_of_errorLine
    {event : Event} {line : String} (told : errorLine? event = some line) :
    Closed line.toList := by
  cases event with
  | fault counter instruction reason =>
      cases told
      refine Plain.closed ?_ (by simp)
      simp only [plain_append_iff, plain_hexAddress, Instruction.plain_text,
        Fault.plain_message]
      simp [Plain, isInline]
  | _ => cases told

/-! ## Streams -/

/-- What a stream shows: every line, and a line feed behind it. -/
def stream (lines : List String) : List Char :=
  lines.flatMap fun line => line.toList ++ ['\n']

theorem lines_stream
    {lines : List String} (closed : ∀ line ∈ lines, Closed line.toList) :
    Text.lines (stream lines) = lines.map String.toList := by
  have mapped :
      stream lines = (lines.map String.toList).flatMap (· ++ ['\n']) := by
    rw [List.flatMap_map]
    rfl
  rw [mapped]
  exact lines_terminated (List.forall_mem_map.mpr closed)

end Trace

end RegisterMachine
