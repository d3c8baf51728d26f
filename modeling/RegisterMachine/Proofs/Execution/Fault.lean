import RegisterMachine.Execution.Step
import RegisterMachine.Proofs.Execution.Cases

/-!
# Steps that report a fault

A step reports at most one fault, and it reports one exactly if its instruction uses an operand that
cannot be used.  Such a step goes on to the following instruction.  It changes neither a register nor
a memory cell, and no flag but those in which comparisons and divisions note their failure.
-/

namespace RegisterMachine

/-- The fault that an event reports. -/
def Event.fault? : Event → Option Fault
  | .fault _ _ reason => some reason
  | _ => none

/-- The faults that an instruction with this ending reports. -/
def Ending.faults : Ending → List Fault
  | .fault reason => [reason]
  | _ => []

theorem Ending.filterMap_fault?_events
    (ending : Ending) (counter : Word) (instruction : Instruction) :
    (ending.events counter instruction).filterMap Event.fault? =
      ending.faults := by
  cases ending <;> rfl

theorem Ending.length_faults_le (ending : Ending) :
    ending.faults.length ≤ 1 := by
  cases ending with
  | fault reason => exact Nat.le_refl 1
  | _ => exact Nat.zero_le 1

theorem Ending.mem_faults {ending : Ending} {reason : Fault} :
    reason ∈ ending.faults ↔ ending = .fault reason := by
  cases ending with
  | fault cause =>
      rw [faults, List.mem_singleton, Ending.fault.injEq, eq_comm]
  | _ => exact iff_of_false List.not_mem_nil nofun

namespace Effect

open RegisterFile (lt_of_slot)

variable {programSize : Nat} {storage result : Storage}
variable {instruction : Instruction} {outcome : Storage × Ending} {reason : Fault}

theorem of_fault
    (effect :
      Effect programSize storage instruction (result, .fault reason)) :
    Refused programSize storage instruction reason ∧
      result = storage.afterFault instruction.opcode reason := by
  cases effect with
  | fault refused => exact ⟨refused, rfl⟩

/-- An instruction that takes effect uses no operand from the list. -/
theorem usable
    (effect : Effect programSize storage instruction outcome)
    (effective : outcome.2.faults = []) :
    ¬ instruction.Unusable programSize storage := by
  cases effect with
  | halt => exact not_false
  | loadDirect targetSlot inRange =>
      simp [Instruction.Unusable, lt_of_slot targetSlot, inRange]
  | loadIndirect targetSlot firstSlot inRange =>
      simp [Instruction.Unusable, lt_of_slot targetSlot,
        lt_of_slot firstSlot, RegisterFile.valueAt_of_slot _ firstSlot, inRange]
  | loadImmediate targetSlot =>
      simp [Instruction.Unusable, lt_of_slot targetSlot]
  | store firstSlot inRange =>
      simp [Instruction.Unusable, lt_of_slot firstSlot, inRange]
  | add targetSlot firstSlot secondSlot =>
      simp [Instruction.Unusable, lt_of_slot targetSlot,
        lt_of_slot firstSlot, lt_of_slot secondSlot]
  | sub targetSlot firstSlot secondSlot =>
      simp [Instruction.Unusable, lt_of_slot targetSlot,
        lt_of_slot firstSlot, lt_of_slot secondSlot]
  | mul targetSlot firstSlot secondSlot =>
      simp [Instruction.Unusable, lt_of_slot targetSlot,
        lt_of_slot firstSlot, lt_of_slot secondSlot]
  | div targetSlot firstSlot secondSlot nonzero =>
      simp [Instruction.Unusable, lt_of_slot targetSlot,
        lt_of_slot firstSlot, lt_of_slot secondSlot,
        RegisterFile.valueAt_of_slot _ secondSlot, nonzero]
  | cmp firstSlot secondSlot =>
      simp [Instruction.Unusable, lt_of_slot firstSlot, lt_of_slot secondSlot]
  | jump inside taken => exact Nat.not_le.mpr inside
  | pass inside notTaken => exact Nat.not_le.mpr inside
  | mov targetSlot firstSlot =>
      simp [Instruction.Unusable, lt_of_slot targetSlot, lt_of_slot firstSlot]
  | checkFlag targetSlot =>
      exact Nat.not_le.mpr (lt_of_slot targetSlot)
  | fault refused => cases effective

theorem faults_ne_nil_iff
    (effect : Effect programSize storage instruction outcome) :
    outcome.2.faults ≠ [] ↔ instruction.Unusable programSize storage := by
  obtain ⟨result, ending⟩ := outcome
  constructor
  · intro reported
    obtain ⟨reason, member⟩ := List.exists_mem_of_ne_nil _ reported
    rw [Ending.mem_faults] at member
    dsimp only at member
    subst member
    exact effect.of_fault.1.unusable
  · intro unusable unreported
    exact effect.usable unreported unusable

end Effect

/-! ## The step -/

/-- The faults that a step reports. -/
def StepResult.faults (result : StepResult) : List Fault :=
  result.events.filterMap Event.fault?

/-- What a step does that reports a fault: next to nothing. -/
structure State.Skips
    (program : Program) (state : State) (instruction : Instruction)
    (reason : Fault) : Prop where
  refused : Refused program.size state.toStorage instruction reason
  events :
    (state.step program).events =
      [.instruction state.counter instruction,
        .fault state.counter instruction reason]
  registers : (state.step program).state.registers = state.registers
  memory : (state.step program).state.memory = state.memory
  flags_of_cmp :
    instruction.opcode = .cmp →
      (state.step program).state.flags = state.flags.set .zero false
  flags_of_divisionByZero :
    reason = .divisionByZero →
      (state.step program).state.flags =
        ((state.flags.set .carry false).set .overflow false).set
          .divisionFault true
  flags_of_other :
    instruction.opcode ≠ .cmp → reason ≠ .divisionByZero →
      (state.step program).state.flags = state.flags
  counter :
    (state.step program).state.counter.toNat = state.counter.toNat + 1
  steps :
    (state.step program).state.steps = (state.steps + 1) % 2 ^ 64

section Step

variable {program : Program} {state : State} {instruction : Instruction}
variable {reason : Fault}

theorem faults_step_of_getElem?
    (fetched : program[state.counter.toNat]? = some instruction) :
    (state.step program).faults =
      (instruction.execute program.size state.toStorage).2.faults := by
  rw [State.step_of_getElem? fetched]
  exact Ending.filterMap_fault?_events _ state.counter instruction

theorem toNat_counter_add_one
    (fits : program.size < 2 ^ 32)
    (fetched : program[state.counter.toNat]? = some instruction) :
    (state.counter + 1).toNat = state.counter.toNat + 1 := by
  have inside : state.counter.toNat < program.size :=
    (Array.getElem?_eq_some_iff.mp fetched).1
  have bound : state.counter.toNat + 1 < 2 ^ 32 := by omega
  rw [UInt32.toNat_add]
  exact Nat.mod_eq_of_lt bound

theorem skips_of_fault
    (fits : program.size < 2 ^ 32)
    (fetched : program[state.counter.toNat]? = some instruction)
    (reported :
      (instruction.execute program.size state.toStorage).2 = .fault reason) :
    state.Skips program instruction reason := by
  have effect := effect_execute instruction program.size state.toStorage
  have step := State.step_of_getElem? fetched
  generalize instruction.execute program.size state.toStorage = outcome
    at effect step reported
  obtain ⟨result, ending⟩ := outcome
  dsimp only at reported
  subst reported
  obtain ⟨refused, rfl⟩ := effect.of_fault
  exact
    { refused := refused
      events := by rw [step]; rfl
      registers := by rw [step]; exact Storage.registers_afterFault _ _ _
      memory := by rw [step]; exact Storage.memory_afterFault _ _ _
      flags_of_cmp := by
        intro isCmp
        rw [step, isCmp]
        rfl
      flags_of_divisionByZero := by
        intro isDivision
        subst isDivision
        cases refused
        rw [step]
        rfl
      flags_of_other := by
        intro notCmp notDivision
        rw [step, Storage.afterFault_eq_self _ notCmp notDivision]
      counter := by
        rw [step]
        exact toNat_counter_add_one fits fetched
      steps := by
        rw [step]
        exact UInt64.toNat_add state.clock 1 }

/-- A step reports a fault exactly if its instruction uses an operand that cannot be used, and then
it reports one and skips the instruction. -/
theorem faults_step
    (fits : program.size < 2 ^ 32)
    (fetched : program[state.counter.toNat]? = some instruction) :
    ((state.step program).faults ≠ [] ↔
        instruction.Unusable program.size state.toStorage) ∧
      (state.step program).faults.length ≤ 1 ∧
      ∀ reason ∈ (state.step program).faults,
        state.Skips program instruction reason := by
  have effect := effect_execute instruction program.size state.toStorage
  rw [faults_step_of_getElem? fetched]
  refine ⟨effect.faults_ne_nil_iff, Ending.length_faults_le _, ?_⟩
  intro reason reported
  exact skips_of_fault fits fetched (Ending.mem_faults.mp reported)

/-- A division of 7 by 0 with all flags set but the division fault, at the last value of the
clock. -/
theorem faults_step_divisionByZero :
    let program : Program := #[Instruction.div 0 1 2, Instruction.halt]
    let state : State :=
      ⟨⟨RegisterFile.clear.set 1 7, ⟨true, true, true, true, false⟩,
        Memory.zeros 1⟩, 0, 18446744073709551615⟩
    program.size < 2 ^ 32 ∧
      program[state.counter.toNat]? = some (Instruction.div 0 1 2) ∧
      (Instruction.div 0 1 2).Unusable program.size state.toStorage ∧
      (state.step program).faults = [.divisionByZero] ∧
      (state.step program).state.registers = state.registers ∧
      (state.step program).state.flags =
        ⟨true, false, true, false, true⟩ ∧
      (state.step program).state.steps = 0 := by
  intro program state
  have fits : program.size < 2 ^ 32 := by decide
  have fetched :
      program[state.counter.toNat]? = some (Instruction.div 0 1 2) := rfl
  have reported : (state.step program).faults = [.divisionByZero] := by
    decide
  have whole := faults_step fits fetched
  have skips : state.Skips program (Instruction.div 0 1 2) .divisionByZero := by
    apply whole.2.2
    rw [reported]
    exact List.mem_singleton_self Fault.divisionByZero
  refine ⟨fits, fetched, ?_, reported, skips.registers, ?_, ?_⟩
  · apply whole.1.mp
    rw [reported]
    exact List.cons_ne_nil _ _
  · exact skips.flags_of_divisionByZero rfl
  · rw [skips.steps]
    decide

end Step

end RegisterMachine
