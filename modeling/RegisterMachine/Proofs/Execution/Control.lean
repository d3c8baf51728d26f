import RegisterMachine.Proofs.Execution.Fault

/-!
# Where the counter goes

An instruction is followed by the next one, unless it is a jump that is taken or the end of the
program.  A jump is only taken if its target is inside the program, and a refused instruction is
followed by the next one.
-/

namespace RegisterMachine

instance (storage : Storage) (condition : Word) :
    Decidable (storage.Takes condition) :=
  inferInstanceAs (Decidable (_ ∨ (_ ∧ _)))

/-- The address of what follows an instruction at `counter` in a program of `programSize`
instructions.  The end of the program leads behind the last of them. -/
def Instruction.following (instruction : Instruction) (programSize : Nat) (storage : Storage)
    (counter : Nat) : Nat :=
  match instruction with
  | ⟨.halt, _, _, _⟩ => programSize
  | ⟨.jmp, dst, src1, _⟩ =>
    if dst.toNat < programSize ∧ storage.Takes src1 then dst.toNat else counter + 1
  | _ => counter + 1

namespace Instruction

variable {instruction : Instruction} {programSize : Nat} {storage : Storage}
variable {counter : Nat}

theorem following_of_refused
    {reason : Fault}
    (refused : Refused programSize storage instruction reason) :
    instruction.following programSize storage counter = counter + 1 := by
  have unusable := refused.unusable
  obtain ⟨opcode, dst, src1, src2⟩ := instruction
  cases opcode with
  | halt => exact unusable.elim
  | jmp =>
      have outside : programSize ≤ dst.toNat := unusable
      exact if_neg fun inside => Nat.not_lt.mpr outside inside.1
  | _ => rfl

end Instruction

/-- The counter after a step is the address of what follows its instruction. -/
theorem toNat_counter_step_eq_following
    {program : Program} {state : State} {instruction : Instruction}
    (fits : program.size < 2 ^ 32)
    (fetched : program[state.counter.toNat]? = some instruction) :
    (state.step program).state.counter.toNat =
      instruction.following program.size state.toStorage
        state.counter.toNat := by
  have next := toNat_counter_add_one fits fetched
  have effect := effect_execute instruction program.size state.toStorage
  rw [State.step_of_getElem? fetched]
  generalize instruction.execute program.size state.toStorage = outcome
    at effect ⊢
  cases effect with
  | halt => exact Word.toNat_saturate fits
  | jump inside taken => exact (if_pos ⟨inside, taken⟩).symm
  | pass inside notTaken =>
      refine next.trans (if_neg ?_).symm
      exact fun taken => notTaken taken.2
  | fault refused =>
      exact next.trans (Instruction.following_of_refused refused).symm
  | _ => exact next

end RegisterMachine
