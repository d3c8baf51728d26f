import RegisterMachine.Machine.Basic
import RegisterMachine.Proofs.Execution.Cases

/-!
# The flags and their history

Each flag belongs to some instructions.  What it says after any number of steps is what the latest
of these instructions made of its operands, as they were when it ran, and 0 before the first of
them.
-/

namespace RegisterMachine

/-- The opcodes that set a flag. -/
def Flag.owners : Flag → List Opcode
  | .zero => [.cmp]
  | .carry => [.add, .sub, .div]
  | .negative => [.add, .sub, .mul, .div]
  | .overflow => [.mul, .div]
  | .divisionFault => [.div]

/-- An instruction that has run, with the storage that it found. -/
structure Occurrence where
  instruction : Instruction
  storage : Storage

namespace Occurrence

section Ownership

variable (occurrence : Occurrence)

def left : Nat :=
  (occurrence.storage.registers.valueAt occurrence.instruction.src1).toNat

def right : Nat :=
  (occurrence.storage.registers.valueAt occurrence.instruction.src2).toNat

/-- The result of an arithmetic instruction in 32 bits. -/
def result : Nat :=
  match occurrence.instruction.opcode with
  | .add => (occurrence.left + occurrence.right) % 2 ^ 32
  | .sub => (2 ^ 32 - occurrence.right + occurrence.left) % 2 ^ 32
  | .mul => occurrence.left * occurrence.right % 2 ^ 32
  | .div => occurrence.left / occurrence.right
  | _ => 0

/-- Both sources name registers. -/
def SourcesExist : Prop :=
  occurrence.instruction.src1.toNat < registerCount ∧
    occurrence.instruction.src2.toNat < registerCount

/-- All three operands name registers. -/
def RegistersExist : Prop :=
  occurrence.instruction.dst.toNat < registerCount ∧
    occurrence.SourcesExist

instance : Decidable occurrence.SourcesExist :=
  inferInstanceAs (Decidable (_ ∧ _))

instance : Decidable occurrence.RegistersExist :=
  inferInstanceAs (Decidable (_ ∧ _))

/-- The instruction decides the flag.  A comparison always does.  An arithmetic instruction needs
its registers, and a division by zero has no result that could be negative. -/
def Owns (flag : Flag) : Prop :=
  occurrence.instruction.opcode ∈ flag.owners ∧
    (occurrence.instruction.opcode = .cmp ∨ occurrence.RegistersExist) ∧
    (flag = .negative → occurrence.instruction.opcode = .div →
      occurrence.right ≠ 0)

instance (flag : Flag) : Decidable (occurrence.Owns flag) :=
  inferInstanceAs (Decidable (_ ∧ (_ ∨ _) ∧ (_ → _ → _)))

/-- What the instruction makes of a flag that it owns. -/
def verdict (flag : Flag) : Bool :=
  match flag with
  | .zero =>
    decide (occurrence.SourcesExist ∧ occurrence.left = occurrence.right)
  | .carry =>
    match occurrence.instruction.opcode with
    | .add => decide (2 ^ 32 ≤ occurrence.left + occurrence.right)
    | .sub => decide (occurrence.left < occurrence.right)
    | _ => false
  | .negative => occurrence.result.testBit 31
  | .overflow =>
    match occurrence.instruction.opcode with
    | .mul => decide (2 ^ 32 ≤ occurrence.left * occurrence.right)
    | _ => false
  | .divisionFault => decide (occurrence.right = 0)

end Ownership

/-! ## Instructions with registers -/

section Operands

open RegisterFile (slot lt_of_slot valueAt_of_slot)

variable {opcode : Opcode} {dst src1 src2 : Word}
variable {target first second : Register} {storage : Storage}

theorem left_of_slot (firstSlot : slot src1 = .ok first) :
    left ⟨⟨opcode, dst, src1, src2⟩, storage⟩ =
      (storage.registers.get first).toNat :=
  congrArg UInt32.toNat (valueAt_of_slot storage.registers firstSlot)

theorem right_of_slot (secondSlot : slot src2 = .ok second) :
    right ⟨⟨opcode, dst, src1, src2⟩, storage⟩ =
      (storage.registers.get second).toNat :=
  congrArg UInt32.toNat (valueAt_of_slot storage.registers secondSlot)

theorem sourcesExist_of_slot
    (firstSlot : slot src1 = .ok first)
    (secondSlot : slot src2 = .ok second) :
    SourcesExist ⟨⟨opcode, dst, src1, src2⟩, storage⟩ :=
  ⟨lt_of_slot firstSlot, lt_of_slot secondSlot⟩

theorem registersExist_of_slot
    (targetSlot : slot dst = .ok target)
    (firstSlot : slot src1 = .ok first)
    (secondSlot : slot src2 = .ok second) :
    RegistersExist ⟨⟨opcode, dst, src1, src2⟩, storage⟩ :=
  ⟨lt_of_slot targetSlot, sourcesExist_of_slot firstSlot secondSlot⟩

/-! ## Refused instructions -/

theorem arithmetic_of_owner
    {flag : Flag} (owner : opcode ∈ flag.owners) (notCmp : opcode ≠ .cmp) :
    opcode ∈ [.add, .sub, .mul, .div] := by
  cases flag <;> grind [Flag.owners]

/-- A refused arithmetic instruction does not count, unless it is a division by zero. -/
theorem not_owns_of_refused
    {programSize : Nat} {instruction : Instruction} {reason : Fault}
    (refused : Refused programSize storage instruction reason)
    (notCmp : instruction.opcode ≠ .cmp)
    (notDivision : reason ≠ .divisionByZero) (flag : Flag) :
    ¬ Owns ⟨instruction, storage⟩ flag := by
  rintro ⟨owner, isCmp | exist, -⟩
  · exact notCmp isCmp
  obtain ⟨targetExists, firstExists, secondExists⟩ := exist
  have arithmetic := arithmetic_of_owner owner notCmp
  obtain ⟨opcode, dst, src1, src2⟩ := instruction
  simp only [List.mem_cons, List.not_mem_nil, or_false] at arithmetic
  cases refused with
  | @register _ index operand missing =>
      have operands : index ∈ [dst, src1, src2] := by
        rcases arithmetic with rfl | rfl | rfl | rfl <;> exact operand
      simp only [List.mem_cons, List.not_mem_nil, or_false] at operands
      rcases operands with rfl | rfl | rfl
      · exact Nat.not_le.mpr targetExists missing
      · exact Nat.not_le.mpr firstExists missing
      · exact Nat.not_le.mpr secondExists missing
  | address accessed outside =>
      rcases arithmetic with rfl | rfl | rfl | rfl <;> cases accessed
  | mode => simp at arithmetic
  | target => simp at arithmetic
  | divisor => exact notDivision rfl

theorem not_sourcesExist_of_refused
    {programSize : Nat} {instruction : Instruction} {reason : Fault}
    (refused : Refused programSize storage instruction reason)
    (isCmp : instruction.opcode = .cmp) :
    ¬ SourcesExist ⟨instruction, storage⟩ := by
  rintro ⟨firstExists, secondExists⟩
  obtain ⟨opcode, dst, src1, src2⟩ := instruction
  cases isCmp
  cases refused with
  | @register _ index operand missing =>
      have operands : index ∈ [src1, src2] := operand
      simp only [List.mem_cons, List.not_mem_nil, or_false] at operands
      rcases operands with rfl | rfl
      · exact Nat.not_le.mpr firstExists missing
      · exact Nat.not_le.mpr secondExists missing
  | address accessed outside => cases accessed

/-- A refused comparison counts as unequal, a division by zero decides three flags, and any other
refused instruction none. -/
theorem get_flags_afterFault
    {programSize : Nat} {instruction : Instruction} {reason : Fault}
    (refused : Refused programSize storage instruction reason)
    (flag : Flag) :
    (storage.afterFault instruction.opcode reason).flags.get flag =
      if Owns ⟨instruction, storage⟩ flag then
        verdict ⟨instruction, storage⟩ flag
      else storage.flags.get flag := by
  by_cases isCmp : instruction.opcode = .cmp
  · have missing := not_sourcesExist_of_refused refused isCmp
    cases flag <;>
      simp [Owns, Flag.owners, verdict, isCmp, missing, Storage.afterFault]
  by_cases isDivision : reason = .divisionByZero
  · subst isDivision
    cases refused with
    | @divisor dst src1 src2 exist zero =>
        have registersExist :
            RegistersExist ⟨⟨.div, dst, src1, src2⟩, storage⟩ := by
          simpa [RegistersExist, SourcesExist] using exist
        have rightZero :
            right ⟨⟨.div, dst, src1, src2⟩, storage⟩ = 0 :=
          congrArg UInt32.toNat zero
        cases flag <;>
          simp [Owns, Flag.owners, verdict, registersExist, rightZero,
            Storage.afterFault]
  · have notOwner := not_owns_of_refused refused isCmp isDivision flag
    rw [Storage.afterFault_eq_self _ isCmp isDivision, if_neg notOwner]

end Operands

end Occurrence

open Occurrence in
/-- One step of the history: an instruction decides the flags that it owns and leaves the others. -/
theorem get_flags_execute
    (occurrence : Occurrence) (programSize : Nat) (flag : Flag) :
    (occurrence.instruction.execute programSize
        occurrence.storage).1.flags.get flag =
      if occurrence.Owns flag then occurrence.verdict flag
      else occurrence.storage.flags.get flag := by
  obtain ⟨instruction, storage⟩ := occurrence
  dsimp only
  have effect := effect_execute instruction programSize storage
  generalize instruction.execute programSize storage = outcome at effect ⊢
  cases effect with
  | @add dst src1 src2 _ _ _ targetSlot firstSlot secondSlot
  | @sub dst src1 src2 _ _ _ targetSlot firstSlot secondSlot
  | @mul dst src1 src2 _ _ _ targetSlot firstSlot secondSlot =>
      have exist (opcode : Opcode) :
          RegistersExist ⟨⟨opcode, dst, src1, src2⟩, storage⟩ :=
        registersExist_of_slot targetSlot firstSlot secondSlot
      cases flag <;>
        simp [Owns, Flag.owners, verdict, result, exist, left_of_slot firstSlot,
          right_of_slot secondSlot, Word.signBit_eq_testBit,
          UInt32.toNat_sub]
  | @div dst src1 src2 _ _ _ targetSlot firstSlot secondSlot nonzero =>
      have exist : RegistersExist ⟨⟨.div, dst, src1, src2⟩, storage⟩ :=
        registersExist_of_slot targetSlot firstSlot secondSlot
      have nonzero : (storage.registers.get _).toNat ≠ 0 :=
        fun zero => nonzero (UInt32.toNat_inj.mp zero)
      cases flag <;>
        simp [Owns, Flag.owners, verdict, result, exist, left_of_slot firstSlot,
          right_of_slot secondSlot, Word.signBit_eq_testBit, nonzero]
  | @cmp dst src1 src2 _ _ firstSlot secondSlot =>
      have exist : SourcesExist ⟨⟨.cmp, dst, src1, src2⟩, storage⟩ :=
        sourcesExist_of_slot firstSlot secondSlot
      cases flag <;>
        simp [Owns, Flag.owners, verdict, exist, left_of_slot firstSlot,
          right_of_slot secondSlot, Word.beq_eq]
  | fault refused => exact get_flags_afterFault refused flag
  | _ => cases flag <;> rfl

/-- An instruction leaves the flags of other opcodes as they were. -/
theorem get_flags_execute_of_not_owner
    {instruction : Instruction} {flag : Flag}
    (notOwner : instruction.opcode ∉ flag.owners)
    (programSize : Nat) (storage : Storage) :
    (instruction.execute programSize storage).1.flags.get flag =
      storage.flags.get flag := by
  rw [get_flags_execute ⟨instruction, storage⟩]
  exact if_neg fun owns => notOwner owns.1

/-- Only comparisons and arithmetic touch the flags. -/
theorem flags_execute
    {instruction : Instruction}
    (noOwner :
      instruction.opcode ∈ [.load, .store, .jmp, .mov, .checkFlag, .halt])
    (programSize : Nat) (storage : Storage) :
    (instruction.execute programSize storage).1.flags = storage.flags := by
  refine Flags.ext_get fun flag => get_flags_execute_of_not_owner ?_ _ _
  intro owner
  cases flag <;> grind [Flag.owners]

/-! ## Histories -/

/-- The value that the latest owner gave to a flag.  Before the first one the flag is as it was. -/
def Flag.latest (flag : Flag) (before : Bool) (history : List Occurrence) : Bool :=
  match (history.filter fun occurrence => occurrence.Owns flag).getLast? with
  | some occurrence => occurrence.verdict flag
  | none => before

theorem Flag.latest_append
    (flag : Flag) (before : Bool) (earlier later : List Occurrence) :
    flag.latest before (earlier ++ later) =
      flag.latest (flag.latest before earlier) later := by
  unfold Flag.latest
  rw [List.filter_append, List.getLast?_append]
  cases (later.filter fun occurrence => occurrence.Owns flag).getLast? with
  | some occurrence => rfl
  | none => rfl

theorem Flag.latest_singleton
    (flag : Flag) (before : Bool) (occurrence : Occurrence) :
    flag.latest before [occurrence] =
      if occurrence.Owns flag then occurrence.verdict flag else before := by
  unfold Flag.latest
  by_cases owns : occurrence.Owns flag
  · simp [owns]
  · simp [owns]

/-- What can happen to a machine while its program runs. -/
inductive Move where
  | step
  /-- A memory cell is changed from outside. -/
  | write (address value : Word)

namespace Machine

def make (machine : Machine) : Move → Machine
  | .step => machine.step.1
  | .write address value => machine.setCell address value

/-- The instruction that a move runs, if it runs one. -/
def executed (machine : Machine) : Move → List Occurrence
  | .step =>
    (machine.program[machine.state.counter.toNat]?).toList.map
      fun instruction => ⟨instruction, machine.state.toStorage⟩
  | .write _ _ => []

def follow (machine : Machine) : List Move → Machine
  | [] => machine
  | move :: moves => (machine.make move).follow moves

/-- The instructions that some moves run, in order. -/
def history (machine : Machine) : List Move → List Occurrence
  | [] => []
  | move :: moves => machine.executed move ++ (machine.make move).history moves

variable (machine : Machine) (flag : Flag)

theorem get_flags_make (move : Move) :
    (machine.make move).state.flags.get flag =
      flag.latest (machine.state.flags.get flag) (machine.executed move) := by
  cases move with
  | write address value => rfl
  | step =>
      change (machine.state.step machine.program).state.flags.get flag = _
      cases fetched : machine.program[machine.state.counter.toNat]? with
      | none =>
          have ended := Array.getElem?_eq_none_iff.mp fetched
          rw [State.step_of_size_le ended, executed, fetched]
          rfl
      | some instruction =>
          rw [State.step_of_getElem? fetched, executed, fetched]
          exact
            (get_flags_execute ⟨instruction, machine.state.toStorage⟩
              machine.program.size flag).trans
              (flag.latest_singleton _ _).symm

theorem get_flags_follow (moves : List Move) :
    (machine.follow moves).state.flags.get flag =
      flag.latest (machine.state.flags.get flag) (machine.history moves) := by
  induction moves generalizing machine with
  | nil => rfl
  | cons move moves inductionHypothesis =>
      rw [follow, history, inductionHypothesis, get_flags_make,
        Flag.latest_append]

theorem get_flags_make_of_not_owns
    {move : Move}
    (noOwner :
      ∀ occurrence ∈ machine.executed move, ¬ occurrence.Owns flag) :
    (machine.make move).state.flags.get flag =
      machine.state.flags.get flag := by
  have noneOwns :
      ((machine.executed move).filter fun occurrence =>
        occurrence.Owns flag) = [] := by
    simpa using noOwner
  rw [get_flags_make, Flag.latest, noneOwns]
  rfl

end Machine

/-- After any number of steps of a freshly loaded or reset program, with changes of memory cells
from outside at any point between them, each flag is what the latest of its instructions made of it.
No other move changes it. -/
theorem get_flags_follow_restarted
    (machine : Machine) (program : Program) (moves : List Move)
    (flag : Flag) :
    ((machine.load program).follow moves).state.flags.get flag =
        flag.latest false ((machine.load program).history moves) ∧
      (machine.reset.follow moves).state.flags.get flag =
        flag.latest false (machine.reset.history moves) ∧
      ∀ move,
        (∀ occurrence ∈ machine.executed move, ¬ occurrence.Owns flag) →
          (machine.make move).state.flags.get flag =
            machine.state.flags.get flag := by
  have cleared : Flags.clear.get flag = false := Flags.get_clear flag
  refine ⟨?_, ?_, ?_⟩
  · rw [Machine.get_flags_follow]
    exact congrArg (flag.latest · _) cleared
  · rw [Machine.get_flags_follow]
    exact congrArg (flag.latest · _) cleared
  · intro move noOwner
    exact machine.get_flags_make_of_not_owns flag noOwner

/-- The borrow of 0 - 1 is still noted after an addition to a register that does not exist. -/
theorem get_flags_follow_restarted_borrow :
    let program : Program :=
      #[Instruction.loadImmediate 1 1, Instruction.sub 2 0 1,
        Instruction.add 16 1 1]
    let machine :=
      ((Machine.create 4 1 .silent).load program).follow [.step, .step]
    machine.state.flags.get .carry = true ∧
      (∀ occurrence ∈ machine.executed .step, ¬ occurrence.Owns .carry) ∧
      (machine.make .step).state.flags.get .carry = true := by
  intro program machine
  have borrowed : machine.state.flags.get .carry = true := by
    refine (get_flags_follow_restarted _ program _ .carry).1.trans ?_
    decide
  have noOwner :
      ∀ occurrence ∈ machine.executed .step, ¬ occurrence.Owns .carry := by
    decide
  have kept :=
    (get_flags_follow_restarted machine program [] .carry).2.2 .step noOwner
  exact ⟨borrowed, noOwner, kept.trans borrowed⟩

end RegisterMachine
